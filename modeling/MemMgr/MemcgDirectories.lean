import MemMgr.GroupRequests
import MemMgr.KernelLines
import MemMgr.PurgeByPsi

/-! The directories of the groups as the kernel lists them. The purge of all groups goes by the
names of the directories, the one of a single group by the map of the groups. -/
namespace MemMgr

/-- An entry of a directory: its name, and whether it is a directory itself. -/
structure DirEntry where
  name : List Char
  isDir : Bool
  deriving DecidableEq

namespace KernelInterface

/-- The loop over the entries; nothing where the value of a name is undefined. -/
def numberedDirs : List DirEntry → Option (List Int)
  | [] => some []
  | entry :: entries =>
      if entry.name = ['.'] ∨ entry.name = ['.', '.'] then numberedDirs entries
      else if entry.isDir then do
        let number ← atoi entry.name
        let numbers ← numberedDirs entries
        return if number > 0 then number :: numbers else numbers
      else numberedDirs entries

/-- The entries of `/dev/memcg`, if it can be opened. -/
def getAllUserIds (dir : Option (List DirEntry)) : Bool × Option (List Int) :=
  match dir with
  | none => (false, some [])
  | some entries => (true, numberedDirs entries)

end KernelInterface

namespace PurgeableMemManager

def getMemcgPathByUserId (m : MemcgMgr) (userId : Int) : Option String :=
  if userId = 0 then some memcgBasePath
  else (m.getUserMemcg userId).map fun memcg => memcgPathOfUser memcg.userId

end PurgeableMemManager

namespace ReclaimStrategyManager

open KernelInterface PurgeableMemManager

def groupDir (userId : Int) : DirEntry := ⟨(toString userId).toList, true⟩

/-- What a kernel that carries out a request makes of the directory of all groups. -/
def applyRequest (dir : List DirEntry) : GroupRequest → List DirEntry
  | .createDir userId =>
      if dir.any fun entry => entry.name = (groupDir userId).name then dir else dir ++ [groupDir userId]
  | .removeDir userId => dir.filter fun entry => entry.name ≠ (groupDir userId).name
  | .addProc _ _ => dir
  | .write _ _ _ => dir
  | .writeRoot _ _ => dir

def memcgDir (base : List DirEntry) (requests : List GroupRequest) : List DirEntry :=
  requests.foldl applyRequest base

/-- The numbers that an `int` can hold, from that of the first user on. -/
def IsUserId (userId : Int) : Prop := validUserIdMin ≤ userId ∧ userId < 2 ^ 31

/-- What stands there before: no directory with a number, and no name that a group would take. -/
structure FreshBase (base : List DirEntry) : Prop where
  none : numberedDirs base = some []
  free : ∀ entry ∈ base, ∀ userId, IsUserId userId → entry.name ≠ (groupDir userId).name

variable {base entries more : List DirEntry} {numbers : List Int} {userId other : Int}
variable {requests : List GroupRequest}

/-- The name of a directory of a group reads as the id of its account. -/
theorem atoi_groupDir (h : IsUserId userId) : atoi (groupDir userId).name = some userId := by
  have hLow : validUserIdMin ≤ userId := h.1
  have hHigh := h.2
  rw [validUserIdMin] at hLow
  have hStoi := @stoi_toString_append userId [] (by omega) (by omega) (by simp)
  rw [List.append_nil] at hStoi
  have hAtoi : atoi (toString userId).toList = stoi (toString userId).toList := by
    rw [atoi]
    split
    · rename_i hNone
      rw [stoi, hNone] at hStoi
      cases hStoi
    · rfl
  exact hAtoi.trans hStoi

/-- The directories of two accounts have two names. -/
theorem groupDir_inj (h : IsUserId userId) (hOther : IsUserId other)
    (hName : (groupDir userId).name = (groupDir other).name) : userId = other := by
  have hSame := atoi_groupDir h
  rw [hName, atoi_groupDir hOther] at hSame
  exact (Option.some.inj hSame).symm

/-- A directory of a group is neither `.` nor `..`, which the loop skips. -/
theorem groupDir_not_dots (h : IsUserId userId) :
    ¬ ((groupDir userId).name = ['.'] ∨ (groupDir userId).name = ['.', '.']) := by
  have hAtoi := atoi_groupDir h
  have hLow : validUserIdMin ≤ userId := h.1
  rw [validUserIdMin] at hLow
  rintro (hDot | hDots)
  · rw [hDot] at hAtoi
    have hZero : (0 : Int) = userId := Option.some.inj hAtoi
    omega
  · rw [hDots] at hAtoi
    have hZero : (0 : Int) = userId := Option.some.inj hAtoi
    omega

/-- The directories are read in their order. -/
theorem numberedDirs_append : numberedDirs (entries ++ more) =
    (numberedDirs entries).bind fun numbers => (numberedDirs more).map (numbers ++ ·) := by
  induction entries with
  | nil => simp [numberedDirs]
  | cons entry entries ih =>
      rw [List.cons_append, numberedDirs, numberedDirs, ih]
      split_ifs
      · rfl
      · cases hNumber : atoi entry.name with
        | none => rfl
        | some number =>
            cases numberedDirs entries with
            | none => rfl
            | some numbers =>
                cases numberedDirs more with
                | none => rfl
                | some others =>
                    simp only [bind, Option.bind, Option.map, pure]
                    split_ifs <;> rfl
      · rfl

/-- The directories of the groups are read as the ids of their accounts. -/
theorem numberedDirs_groupDirs {userIds : List Int} (h : ∀ userId ∈ userIds, IsUserId userId) :
    numberedDirs (userIds.map groupDir) = some userIds := by
  induction userIds with
  | nil => rfl
  | cons userId userIds ih =>
      obtain ⟨hUser, hRest⟩ := List.forall_mem_cons.mp h
      have hPos : userId > 0 := lt_of_lt_of_le (by decide) hUser.1
      rw [List.map_cons, numberedDirs, if_neg (groupDir_not_dots hUser), atoi_groupDir hUser, ih hRest]
      simp [groupDir, hPos]

/-- The directories that were made stand behind the others, each once. -/
structure Listed (base : List DirEntry) (requests : List GroupRequest) (userIds : List Int) : Prop where
  dir : memcgDir base requests = base ++ userIds.map groupDir
  nodup : userIds.Nodup
  valid : ∀ userId ∈ userIds, IsUserId userId
  iff : ∀ userId, userId ∈ userIds ↔ hasDir userId requests = true

/-- A request is applied to what the requests before it left. -/
theorem memcgDir_concat (request : GroupRequest) :
    memcgDir base (requests ++ [request]) = applyRequest (memcgDir base requests) request :=
  List.foldl_concat ..

variable {userIds : List Int}

/-- A new directory is listed last. -/
theorem Listed.createDir (h : Listed base requests userIds) (hBase : FreshBase base)
    (hAbsent : hasDir userId requests = false) (hUser : IsUserId userId) :
    Listed base (requests ++ [.createDir userId]) (userIds ++ [userId]) := by
  have hNew : userId ∉ userIds := by simp [h.iff, hAbsent]
  have hFree : ¬ ((memcgDir base requests).any fun entry => entry.name = (groupDir userId).name) = true := by
    rw [h.dir]
    simp only [List.any_append, List.any_map, Bool.or_eq_true, List.any_eq_true, Function.comp_apply,
      decide_eq_true_eq, not_or, not_exists, not_and]
    constructor
    · exact fun entry hEntry => hBase.free entry hEntry userId hUser
    · intro other hOther hName
      exact hNew (groupDir_inj (h.valid other hOther) hUser hName ▸ hOther)
  refine ⟨?_, ?_, ?_, ?_⟩
  · rw [memcgDir_concat, applyRequest, if_neg hFree, h.dir, List.map_append, List.append_assoc]
    rfl
  · rw [List.nodup_append]
    exact ⟨h.nodup, by simp, by grind⟩
  · intro other hOther
    rcases List.mem_append.mp hOther with hOld | hLast
    · exact h.valid other hOld
    · rw [List.mem_singleton.mp hLast]
      exact hUser
  · intro other
    rw [List.mem_append, List.mem_singleton, h.iff, hasDir_concat]
    dsimp only [dirEvent]
    split_ifs with hKey
    · simp [hKey]
    · simp [Ne.symm hKey]

/-- A removed directory is listed no more, and the others keep their order. -/
theorem Listed.removeDir (h : Listed base requests userIds) (hBase : FreshBase base)
    (hPresent : hasDir userId requests = true) :
    Listed base (requests ++ [.removeDir userId]) (userIds.filter (· ≠ userId)) := by
  have hUser : IsUserId userId := h.valid userId ((h.iff userId).mpr hPresent)
  refine ⟨?_, h.nodup.filter _, ?_, ?_⟩
  · rw [memcgDir_concat, applyRequest, h.dir, List.filter_append, List.filter_map]
    congr 1
    · apply List.filter_eq_self.mpr
      exact fun entry hEntry => decide_eq_true (hBase.free entry hEntry userId hUser)
    · congr 1
      apply List.filter_congr
      intro other hOther
      simp only [Function.comp_apply, decide_eq_decide]
      exact ⟨fun hName hSame => hName (hSame ▸ rfl),
        fun hNe hName => hNe (groupDir_inj (h.valid other hOther) hUser hName)⟩
  · exact fun other hOther => h.valid other (List.mem_filter.mp hOther).1
  · intro other
    rw [List.mem_filter, h.iff, hasDir_concat]
    dsimp only [dirEvent]
    split_ifs with hKey
    · simp [hKey]
    · simp [Ne.symm hKey]

/-- Requests that are disciplined leave just the directories of the groups. -/
theorem listed_of_disciplined (hBase : FreshBase base) (hDisciplined : Disciplined requests)
    (hFits : ∀ userId, .createDir userId ∈ requests → userId < 2 ^ 31) :
    ∃ userIds, Listed base requests userIds := by
  induction requests using List.reverseRecOn with
  | nil => exact ⟨[], by simp [memcgDir], List.nodup_nil, by simp, by simp⟩
  | append_singleton requests request ih =>
      obtain ⟨hBefore, hRequest⟩ := disciplined_concat.mp hDisciplined
      obtain ⟨userIds, h⟩ := ih hBefore fun userId hMem => hFits userId (List.mem_append_left _ hMem)
      cases request with
      | createDir userId =>
          obtain ⟨hAbsent, hMin⟩ := hRequest.absent userId rfl
          exact ⟨_, h.createDir hBase hAbsent ⟨hMin, hFits userId (by simp)⟩⟩
      | removeDir userId =>
          exact ⟨_, h.removeDir hBase (hRequest.present userId rfl).1⟩
      | addProc | write | writeRoot =>
          refine ⟨userIds, ?_, h.nodup, h.valid, ?_⟩
          · rw [memcgDir_concat]
            exact h.dir
          · intro other
            rw [hasDir_concat]
            exact h.iff other

section Origins

variable {reclaimConfigSet : ReclaimConfigSet} {m : MemcgMgr} {tasks : List RanTask} {input : RanTask}
variable {processes : EarlierProcesses} {ops : List Op}

/-- Adding a process asks for the directory of its own account only. -/
theorem createDir_mem_addProcToMemcg {answers : GroupAnswers} {pid : Nat}
    (h : .createDir userId ∈ (m.addProcToMemcg answers pid other).2.2) : other = userId := by
  cases hOld : m.getUserMemcg other with
  | some group => simp [addProcToMemcg_of_some hOld] at h
  | none =>
      rw [addProcToMemcg_of_none hOld] at h
      split_ifs at h
      · simp at h
      · simpa [eq_comm] using h

/-- Directories are made for the users of the tasks. -/
theorem userOf_of_createDir_mem (h : .createDir userId ∈ (performStep reclaimConfigSet m input).2) :
    ∃ reclaimPara, input.1 = .handleAppStateChanged (some reclaimPara) ∧ reclaimPara.accountId = userId := by
  obtain ⟨task, answers⟩ := input
  cases task with
  | handleAccountDied accountId =>
      simp only [performStep, perform, handleAccountDied, MemcgMgr.removeUserMemcg] at h
      split at h <;> simp at h
  | handleAccountPriorityChanged accountId priority =>
      simp only [performStep, perform, handleAccountPriorityChanged,
        MemcgMgr.updateMemcgScoreAndReclaimRatios] at h
      split_ifs at h
      · simp at h
      · simp at h
      · split at h
        · simp at h
        · split at h
          · simp at h
          · split at h <;> simp at h
  | handleAppStateChanged reclaimPara =>
      cases reclaimPara with
      | none => simp [performStep, perform, handleAppStateChanged] at h
      | some reclaimPara =>
          refine ⟨reclaimPara, rfl, ?_⟩
          obtain ⟨pid, accountId, action⟩ := reclaimPara
          simp only [performStep, perform, handleAppStateChanged] at h
          split_ifs at h
          · simp at h
          · cases action with
            | createProcessAndApp | createProcessOnly => exact createDir_mem_addProcToMemcg h
            | appDied | appForeground | appBackground | others => simp at h

/-- A directory is asked for only by a change of an application of its account. -/
theorem createDir_mem_outputs
    (h : .createDir userId ∈ Transducer.outputs (performStep reclaimConfigSet) m tasks) :
    ∃ input ∈ tasks, ∃ reclaimPara,
      input.1 = .handleAppStateChanged (some reclaimPara) ∧ reclaimPara.accountId = userId := by
  induction tasks generalizing m with
  | nil => simp at h
  | cons input tasks ih =>
      rw [Transducer.outputs, List.mem_append] at h
      rcases h with hFirst | hLater
      · exact ⟨input, List.mem_cons_self, userOf_of_createDir_mem hFirst⟩
      · obtain ⟨later, hMem, hTask⟩ := ih hLater
        exact ⟨later, List.mem_cons_of_mem _ hMem, hTask⟩

/-- The changes that the initialization makes up are those of the processes it finds. -/
theorem mem_initTasks {reclaimPara : ReclaimParam} (hInput : input ∈ initTasks processes)
    (hTask : input.1 = .handleAppStateChanged (some reclaimPara)) :
    ∃ pid, ∃ uid : Nat, processes.uidByPid pid = some uid ∧ reclaimPara.accountId = getOsAccountIdByUid uid := by
  rw [initTasks, List.mem_filterMap] at hInput
  obtain ⟨pid, -, hPid⟩ := hInput
  obtain ⟨uid, hUid, rfl⟩ := Option.map_eq_some_iff.mp hPid
  obtain rfl := Option.some.inj (StrategyTask.handleAppStateChanged.inj hTask)
  exact ⟨pid, uid, hUid, rfl⟩

/-- Every accepted change of an application was notified. -/
theorem mem_accepted {reclaimPara : ReclaimParam} {initialized : Bool}
    (h : .handleAppStateChanged (some reclaimPara) ∈ accepted initialized ops) :
    .notifyAppStateChanged (some reclaimPara) ∈ ops := by
  rw [accepted, TaskQueue.posted, List.mem_filterMap] at h
  obtain ⟨posted, hPosted, hTask⟩ := h
  obtain ⟨op, hOp, hQueue⟩ := List.mem_flatMap.mp hPosted
  cases op with
  | notifyAppStateChanged other =>
      simp only [queueOps] at hQueue
      split_ifs at hQueue
      · simp at hQueue
      · obtain rfl := List.mem_singleton.mp hQueue
        obtain rfl := StrategyTask.handleAppStateChanged.inj (Option.some.inj hTask)
        exact hOp
  | notifyAccountDied accountId =>
      simp only [queueOps] at hQueue
      split_ifs at hQueue <;> simp_all
  | notifyAccountPriorityChanged accountId priority =>
      simp only [queueOps] at hQueue
      split_ifs at hQueue <;> simp_all
  | runTask answers =>
      obtain rfl := List.mem_singleton.mp hQueue
      cases hTask

/-- The users for whom directories are made: those of processes found or created. -/
theorem origin_of_createDir {kernel : MemcgKernel} {makeHandler makeRootMemcg makeReclaimRatios : Bool}
    (h : .createDir userId ∈
      (init makeHandler kernel processes (.create makeRootMemcg makeReclaimRatios)).2 ++
        ReclaimStrategyManager.requests reclaimConfigSet
          (init makeHandler kernel processes (.create makeRootMemcg makeReclaimRatios)).1 ops) :
    (∃ pid, ∃ uid : Nat, processes.uidByPid pid = some uid ∧ userId = getOsAccountIdByUid uid) ∨
      ∃ reclaimPara, .notifyAppStateChanged (some reclaimPara) ∈ ops ∧ reclaimPara.accountId = userId := by
  obtain ⟨root, writes, -, hRequests, -⟩ :=
    memcgMgr_run_init reclaimConfigSet makeHandler makeRootMemcg makeReclaimRatios kernel processes ops
  obtain ⟨-, -, hHandler, -, -, -⟩ :=
    init_eq reclaimConfigSet makeHandler makeRootMemcg makeReclaimRatios kernel processes
  have hOrder := @ranTasks_append_handler reclaimConfigSet _ ops hHandler
  rw [hRequests, List.mem_append] at h
  rcases h with hRoot | hTasks
  · simp [rootRequests] at hRoot
  · obtain ⟨input, hInput, reclaimPara, hTask, hUser⟩ := createDir_mem_outputs hTasks
    rw [performedTasks] at hInput
    split_ifs at hInput with hInitialized
    · rcases List.mem_append.mp hInput with hFound | hRan
      · obtain ⟨pid, uid, hUid, hAccount⟩ := mem_initTasks hFound hTask
        exact Or.inl ⟨pid, uid, hUid, hUser.symm.trans hAccount⟩
      · rw [hInitialized] at hOrder
        have hPosted : input.1 ∈ accepted true ops := by
          rw [← hOrder]
          exact List.mem_append_left _ (List.mem_map_of_mem hRan)
        rw [hTask] at hPosted
        exact Or.inr ⟨reclaimPara, mem_accepted hPosted, hUser⟩
    · simp at hInput

end Origins

/-- As long as nothing was left there by an earlier run and the kernel carries out what it is asked
for, the directories it lists are those of the known groups, each once, so the purge of all groups
meets each group that a purge of one finds, under the same path. -/
theorem getAllUserIds_memcgDir (reclaimConfigSet : ReclaimConfigSet)
    (makeHandler makeRootMemcg makeReclaimRatios : Bool) (kernel : MemcgKernel)
    {processes : EarlierProcesses} {ops : List Op} {base : List DirEntry} (hBase : FreshBase base)
    (hUids : ∀ pid uid, processes.uidByPid pid = some uid → uid < 2 ^ 31)
    (hOps : ∀ reclaimPara, .notifyAppStateChanged (some reclaimPara) ∈ ops →
      reclaimPara.accountId < 2 ^ 31) :
    let m := init makeHandler kernel processes (.create makeRootMemcg makeReclaimRatios)
    let dir := memcgDir base (m.2 ++ ReclaimStrategyManager.requests reclaimConfigSet m.1 ops)
    ∃ userIds, getAllUserIds (some dir) = (true, some userIds) ∧ userIds.Nodup ∧
      ∀ userId, userId ∈ userIds ↔ userId ≠ 0 ∧
        getMemcgPathByUserId (run reclaimConfigSet m.1 ops).memcgMgr userId =
          some (memcgPathOfUser userId) := by
  have hAccounted :=
    accounted_run reclaimConfigSet makeHandler makeRootMemcg makeReclaimRatios kernel processes ops
  have hFits : ∀ userId, .createDir userId ∈
      (init makeHandler kernel processes (.create makeRootMemcg makeReclaimRatios)).2 ++
        ReclaimStrategyManager.requests reclaimConfigSet
          (init makeHandler kernel processes (.create makeRootMemcg makeReclaimRatios)).1 ops →
        userId < 2 ^ 31 := by
    intro userId hMade
    rcases origin_of_createDir hMade with ⟨pid, uid, hUid, rfl⟩ | ⟨reclaimPara, hOp, rfl⟩
    · have hUid := hUids pid uid hUid
      rw [getOsAccountIdByUid, Int.tdiv_eq_ediv_of_nonneg (Int.natCast_nonneg uid), userIdShift]
      omega
    · exact hOps reclaimPara hOp
  dsimp only at hAccounted ⊢
  obtain ⟨userIds, hListed⟩ := listed_of_disciplined hBase hAccounted.disciplined hFits
  refine ⟨userIds, ?_, hListed.nodup, ?_⟩
  · rw [getAllUserIds, hListed.dir, numberedDirs_append, hBase.none,
      numberedDirs_groupDirs hListed.valid]
    rfl
  · intro userId
    rw [hListed.iff, hAccounted.dirs, getMemcgPathByUserId]
    cases hGroup : (run reclaimConfigSet (init makeHandler kernel processes
        (.create makeRootMemcg makeReclaimRatios)).1 ops).memcgMgr.getUserMemcg userId with
    | none =>
        by_cases hZero : userId = 0
        · simp [hZero]
        · simp [hZero]
    | some group =>
        obtain ⟨hUser, hMin⟩ := hAccounted.groups userId group hGroup
        have hZero : userId ≠ 0 := by
          rintro rfl
          exact absurd hMin (by decide)
        simp [hZero, hUser]

def noEarlierProcesses : EarlierProcesses where
  allProcPids := none
  uidByPid _ := none
  answers _ := ⟨true, true, true, true, true, true, ⟨fun _ => true, none⟩⟩

/-- A process that is created for a user brings the directory of the group. -/
theorem getAllUserIds_memcgDir_created :
    let created : Op := .notifyAppStateChanged (some ⟨7, 100, .createProcessOnly⟩)
    let base : List DirEntry := [⟨['.'], true⟩, ⟨['.', '.'], true⟩]
    let m := init true ⟨fun _ => true, none⟩ noEarlierProcesses (.create true true)
    let ops := [created, .runTask (noEarlierProcesses.answers 7)]
    ∃ userIds, getAllUserIds (some (memcgDir base (m.2 ++ ReclaimStrategyManager.requests .nil m.1 ops))) =
      (true, some userIds) ∧ userIds.Nodup ∧
      ∀ userId, userId ∈ userIds ↔ userId ≠ 0 ∧
        getMemcgPathByUserId (run .nil m.1 ops).memcgMgr userId = some (memcgPathOfUser userId) := by
  have hBase : FreshBase [⟨['.'], true⟩, ⟨['.', '.'], true⟩] := by
    refine ⟨rfl, ?_⟩
    intro entry hEntry userId hUser hName
    apply groupDir_not_dots hUser
    rw [← hName]
    rcases List.mem_cons.mp hEntry with rfl | hSecond
    · exact Or.inl rfl
    · rw [List.mem_singleton.mp hSecond]
      exact Or.inr rfl
  refine getAllUserIds_memcgDir .nil true true true ⟨fun _ => true, none⟩ hBase ?_ ?_
  · intro pid uid hUid
    cases hUid
  · intro reclaimPara hMem
    simp only [List.mem_cons, Op.notifyAppStateChanged.injEq, Option.some.injEq, reduceCtorEq,
      List.not_mem_nil, or_false] at hMem
    rw [hMem]
    decide

end ReclaimStrategyManager
end MemMgr
