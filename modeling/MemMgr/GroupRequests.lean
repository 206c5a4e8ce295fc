import MemMgr.Library.OpenClose
import MemMgr.UserGroups

/-! What the kernel is asked for in a run. Failures are not noticed, so it matters that nothing is
asked for a group that was not made before, and that only values of the right size are written. -/
namespace MemMgr.ReclaimStrategyManager

/-- The user whose directory a request is about, if it has to be there. -/
def usesDir : GroupRequest → Option Int
  | .removeDir userId => some userId
  | .addProc userId _ => some userId
  | .write userId _ _ => some userId
  | .createDir _ => none
  | .writeRoot _ _ => none

def dirEvent : GroupRequest → Option (OpenClose.Event Int)
  | .createDir userId => some (userId, true)
  | .removeDir userId => some (userId, false)
  | _ => none

/-- The last request for the directory was to make it. -/
def hasDir (userId : Int) (requests : List GroupRequest) : Bool :=
  OpenClose.flag userId (requests.filterMap dirEvent)

/-- A text that the file can be written with. -/
def InRange : MemcgFile → String → Prop
  | .appScore, content => ∃ score : Int, reclaimScoreMin ≤ score ∧ score ≤ reclaimScoreMax ∧ content = toString score
  | .zswapdSingleMemcgParam, content => ∃ ratios : ReclaimRatios,
      ratios.mem2zramRatio ≤ percent100 ∧ ratios.zram2ufsRatio ≤ percent100 ∧ content = ratios.numsToString

/-- What may be asked for next. -/
structure Admissible (before : List GroupRequest) (request : GroupRequest) : Prop where
  present : ∀ userId, usesDir request = some userId → hasDir userId before = true ∧ validUserIdMin ≤ userId
  absent : ∀ userId, request = .createDir userId → hasDir userId before = false ∧ validUserIdMin ≤ userId
  write : ∀ userId file content, request = .write userId file content → InRange file content
  writeRoot : ∀ file content, request = .writeRoot file content → InRange file content

/-- Each request may be asked for after those before it. -/
def Disciplined (requests : List GroupRequest) : Prop :=
  ∀ before request, before ++ [request] <+: requests → Admissible before request

variable {requests more : List GroupRequest} {request : GroupRequest} {userId : Int}

/-- Nothing has been requested yet. -/
theorem disciplined_nil : Disciplined [] := by simp [Disciplined]

/-- A sequence of requests is disciplined when all before the last are and the last is admissible
after them. -/
theorem disciplined_concat :
    Disciplined (requests ++ [request]) ↔ Disciplined requests ∧ Admissible requests request := by
  constructor
  · intro h
    exact ⟨fun before other hPrefix => h before other (hPrefix.trans (List.prefix_append _ _)),
      h requests request (List.prefix_refl _)⟩
  · rintro ⟨hBefore, hLast⟩ before other hPrefix
    rcases List.prefix_concat_iff.mp hPrefix with hSame | hEarlier
    · obtain ⟨rfl, hOther⟩ := List.append_inj' hSame rfl
      obtain rfl := List.singleton_inj.mp hOther
      exact hLast
    · exact hBefore before other hEarlier

@[simp] theorem hasDir_nil : hasDir userId [] = false := rfl

/-- Only a creation and a removal of its own directory change whether an account has one. -/
theorem hasDir_concat : hasDir userId (requests ++ [request]) =
    match dirEvent request with
    | none => hasDir userId requests
    | some (other, made) => if other = userId then made else hasDir userId requests := by
  rw [hasDir, List.filterMap_append]
  cases hEvent : dirEvent request with
  | none => simp [hEvent, hasDir]
  | some event =>
      obtain ⟨other, made⟩ := event
      simp [hEvent, hasDir]

/-- Writes leave the directories alone, and are let in as long as each text is in range. -/
theorem disciplined_writes {writes : List (MemcgFile × String)} (h : Disciplined requests)
    (hDir : hasDir userId requests = true) (hMin : validUserIdMin ≤ userId)
    (hRange : ∀ write ∈ writes, InRange write.1 write.2) :
    Disciplined (requests ++ writes.map fun (file, content) => .write userId file content) ∧
      ∀ k, hasDir k (requests ++ writes.map fun (file, content) => .write userId file content) =
        hasDir k requests := by
  induction writes using List.reverseRecOn with
  | nil => simpa using h
  | append_singleton writes write ih =>
      obtain ⟨file, content⟩ := write
      obtain ⟨hBefore, hSame⟩ := ih fun other hOther => hRange other (List.mem_append_left _ hOther)
      rw [List.map_append, ← List.append_assoc, List.map_singleton]
      constructor
      · refine disciplined_concat.mpr ⟨hBefore, ?_, ?_, ?_, ?_⟩
        · rintro other ⟨rfl⟩
          exact ⟨(hSame userId).trans hDir, hMin⟩
        · rintro other ⟨⟩
        · rintro other file' content' ⟨rfl, rfl, rfl⟩
          exact hRange (file, content) (by simp)
        · rintro file' content' ⟨⟩
      · intro k
        rw [hasDir_concat]
        exact hSame k

/-- The requests of the initialization keep to the root group and make no directory. -/
theorem disciplined_rootRequests {writes : List (MemcgFile × String)}
    (hRange : ∀ write ∈ writes, InRange write.1 write.2) :
    Disciplined (rootRequests writes) ∧ ∀ k, hasDir k (rootRequests writes) = false := by
  induction writes using List.reverseRecOn with
  | nil => exact ⟨disciplined_nil, fun k => rfl⟩
  | append_singleton writes write ih =>
      obtain ⟨file, content⟩ := write
      obtain ⟨hBefore, hNone⟩ := ih fun other hOther => hRange other (List.mem_append_left _ hOther)
      rw [rootRequests, List.map_append, List.map_singleton, ← rootRequests]
      constructor
      · refine disciplined_concat.mpr ⟨hBefore, ?_, ?_, ?_, ?_⟩
        · rintro other ⟨⟩
        · rintro other ⟨⟩
        · rintro other file' content' ⟨⟩
        · rintro file' content' ⟨rfl, rfl⟩
          exact hRange (file, content) (by simp)
      · intro k
        rw [hasDir_concat]
        exact hNone k

/-- Ratios built from any numbers are percentages. -/
theorem ofValues_le {mem2zramRatio zram2ufsRatio refaultThreshold : Nat} :
    (ReclaimRatios.ofValues mem2zramRatio zram2ufsRatio refaultThreshold).mem2zramRatio ≤ percent100 ∧
      (ReclaimRatios.ofValues mem2zramRatio zram2ufsRatio refaultThreshold).zram2ufsRatio ≤ percent100 := by
  simp only [ReclaimRatios.ofValues]
  constructor <;> split <;> omega

/-- The score that is written lies within the limits of the kernel. -/
theorem getValidScore_mem (priority : Int) :
    reclaimScoreMin ≤ getValidScore priority ∧ getValidScore priority ≤ reclaimScoreMax := by
  rw [getValidScore, reclaimScoreMin, reclaimScoreMax]
  split_ifs <;> omega

/-- The texts are made of the score and of the ratios. -/
theorem inRange_writes {kernel : MemcgKernel} {score : Int} {ratios : ReclaimRatios}
    (hScore : reclaimScoreMin ≤ score ∧ score ≤ reclaimScoreMax)
    (hRatios : ratios.mem2zramRatio ≤ percent100 ∧ ratios.zram2ufsRatio ≤ percent100) :
    ∀ write ∈ (Memcg.setScoreAndReclaimRatiosToKernel kernel ⟨score, some ratios⟩).writes,
      InRange write.1 write.2 := by
  have hWrites : (Memcg.setScoreAndReclaimRatiosToKernel kernel ⟨score, some ratios⟩).writes ⊆
      [(MemcgFile.appScore, toString score), (MemcgFile.zswapdSingleMemcgParam, ratios.numsToString)] := by
    rw [Memcg.setScoreAndReclaimRatiosToKernel]
    dsimp only
    split
    · split_ifs <;> simp
    · split_ifs <;> simp
  intro write hWrite
  rcases List.mem_cons.mp (hWrites hWrite) with rfl | hParam
  · exact ⟨score, hScore.1, hScore.2, rfl⟩
  · obtain rfl := List.mem_singleton.mp hParam
    exact ⟨ratios, hRatios.1, hRatios.2, rfl⟩

/-- What was asked for, and the groups that are known: the directories are those of the groups. -/
structure Accounted (requests : List GroupRequest) (m : MemcgMgr) : Prop where
  disciplined : Disciplined requests
  dirs : ∀ userId, hasDir userId requests = (m.getUserMemcg userId).isSome
  groups : ∀ userId group, m.getUserMemcg userId = some group → group.userId = userId ∧ validUserIdMin ≤ userId

section Steps

variable {m : MemcgMgr} {answers : GroupAnswers} {group : UserMemcg}

/-- A process may be added to a group that the manager knows. -/
theorem Accounted.addProc (h : Accounted requests m) (hGroup : m.getUserMemcg userId = some group) (pid : Nat) :
    Accounted (requests ++ [.addProc group.userId pid]) m := by
  obtain ⟨hUser, hMin⟩ := h.groups userId group hGroup
  refine ⟨disciplined_concat.mpr ⟨h.disciplined, ?_, ?_, ?_, ?_⟩, ?_, h.groups⟩
  · rintro other ⟨rfl⟩
    rw [hUser, h.dirs, hGroup]
    exact ⟨rfl, hMin⟩
  · rintro other ⟨⟩
  · rintro other file content ⟨⟩
  · rintro file content ⟨⟩
  · intro k
    rw [hasDir_concat]
    exact h.dirs k

/-- The directory of an account without a group may be created. -/
theorem Accounted.createDir (h : Accounted requests m) (hNone : m.getUserMemcg userId = none)
    (hMin : validUserIdMin ≤ userId) (memcg : Memcg) :
    Accounted (requests ++ [.createDir userId])
      { m with userMemcgsMap := m.userMemcgsMap.insertIfNew userId ⟨userId, memcg⟩ } := by
  have hGet : ∀ k, MemcgMgr.getUserMemcg
      { m with userMemcgsMap := m.userMemcgsMap.insertIfNew userId ⟨userId, memcg⟩ } k =
        if userId = k then some ⟨userId, memcg⟩ else m.getUserMemcg k := by
    intro k
    rw [MemcgMgr.getUserMemcg] at hNone
    simp only [MemcgMgr.getUserMemcg, Std.ExtTreeMap.getElem?_insertIfNew_of_none hNone,
      Std.LawfulEqCmp.compare_eq_iff_eq]
  refine ⟨disciplined_concat.mpr ⟨h.disciplined, ?_, ?_, ?_, ?_⟩, ?_, ?_⟩
  · rintro other ⟨⟩
  · rintro other ⟨rfl⟩
    rw [h.dirs, hNone]
    exact ⟨rfl, hMin⟩
  · rintro other file content ⟨⟩
  · rintro file content ⟨⟩
  · intro k
    rw [hasDir_concat, hGet]
    dsimp only [dirEvent]
    split_ifs with hKey
    · rfl
    · exact h.dirs k
  · intro k other hOther
    rw [hGet] at hOther
    split_ifs at hOther with hKey
    · obtain rfl := Option.some.inj hOther
      exact ⟨hKey, hKey ▸ hMin⟩
    · exact h.groups k other hOther

/-- Adding a process to its group keeps the requests accounted for, whatever the kernel answers. -/
theorem Accounted.addProcToMemcg (h : Accounted requests m) (hMin : validUserIdMin ≤ userId) (pid : Nat) :
    Accounted (requests ++ (m.addProcToMemcg answers pid userId).2.2)
      (m.addProcToMemcg answers pid userId).1 := by
  cases hOld : m.getUserMemcg userId with
  | some group =>
      rw [addProcToMemcg_of_some hOld]
      exact h.addProc hOld pid
  | none =>
      rw [addProcToMemcg_of_none hOld]
      split_ifs with hMake
      · simpa using h
      · have hMade := h.createDir hOld hMin (.create answers.makeReclaimRatios)
        have hFound : MemcgMgr.getUserMemcg
            { m with
              userMemcgsMap :=
                m.userMemcgsMap.insertIfNew userId ⟨userId, .create answers.makeReclaimRatios⟩ } userId =
              some ⟨userId, .create answers.makeReclaimRatios⟩ := by
          rw [MemcgMgr.getUserMemcg] at hOld
          simp only [MemcgMgr.getUserMemcg, Std.ExtTreeMap.getElem?_insertIfNew_of_none hOld,
            Std.LawfulEqCmp.compare_eq_iff_eq, if_true]
        simpa using hMade.addProc hFound pid

/-- Removing a group keeps the requests accounted for. -/
theorem Accounted.removeUserMemcg (h : Accounted requests m) :
    Accounted (requests ++ (m.removeUserMemcg userId).2.2) (m.removeUserMemcg userId).1 := by
  have hGet := fun k => @getUserMemcg_removeUserMemcg m userId k
  cases hOld : m.getUserMemcg userId with
  | none => simpa [MemcgMgr.removeUserMemcg, hOld] using h
  | some group =>
      obtain ⟨hUser, hMin⟩ := h.groups userId group hOld
      have hTold : (m.removeUserMemcg userId).2.2 = [.removeDir userId] := by
        simp [MemcgMgr.removeUserMemcg, hOld, hUser]
      rw [hTold]
      refine ⟨disciplined_concat.mpr ⟨h.disciplined, ?_, ?_, ?_, ?_⟩, ?_, ?_⟩
      · rintro other ⟨rfl⟩
        rw [h.dirs, hOld]
        exact ⟨rfl, hMin⟩
      · rintro other ⟨⟩
      · rintro other file content ⟨⟩
      · rintro file content ⟨⟩
      · intro k
        rw [hasDir_concat, hGet]
        dsimp only [dirEvent]
        split_ifs with hKey
        · rfl
        · exact h.dirs k
      · intro k other hOther
        rw [hGet] at hOther
        split_ifs at hOther with hKey
        exact h.groups k other hOther

/-- An update of score and ratios keeps the requests accounted for. -/
theorem Accounted.update {score : Int} {ratios : ReclaimRatios} (h : Accounted requests m)
    (hScore : reclaimScoreMin ≤ score ∧ score ≤ reclaimScoreMax) :
    Accounted (requests ++ (m.updateMemcgScoreAndReclaimRatios answers userId score ratios).2.2)
      (m.updateMemcgScoreAndReclaimRatios answers userId score ratios).1 := by
  have hGet := fun k => @getUserMemcg_update m answers userId score ratios k
  cases hOld : m.getUserMemcg userId with
  | none => simpa [MemcgMgr.updateMemcgScoreAndReclaimRatios, hOld] using h
  | some group =>
      obtain ⟨hUser, hMin⟩ := h.groups userId group hOld
      have hTold : ∃ writes : List (MemcgFile × String),
          (m.updateMemcgScoreAndReclaimRatios answers userId score ratios).2.2 =
              writes.map (fun (file, content) => .write userId file content) ∧
            ∀ write ∈ writes, InRange write.1 write.2 := by
        rw [MemcgMgr.updateMemcgScoreAndReclaimRatios, hOld]
        dsimp only
        rw [hUser, Memcg.setReclaimRatios]
        cases hRatios : (group.memcg.setScore score).reclaimRatios with
        | none => exact ⟨[], rfl, by simp⟩
        | some old => exact ⟨_, rfl, inRange_writes hScore ofValues_le⟩
      obtain ⟨writes, hWrites, hRange⟩ := hTold
      have hDir : hasDir userId requests = true := by rw [h.dirs, hOld, Option.isSome_some]
      obtain ⟨hDisciplined, hSame⟩ := disciplined_writes h.disciplined hDir hMin hRange
      rw [hWrites]
      refine ⟨hDisciplined, ?_, ?_⟩
      · intro k
        rw [hSame, hGet, h.dirs]
        split_ifs <;> simp
      · intro k other hOther
        rw [hGet] at hOther
        split_ifs at hOther with hKey
        · obtain ⟨before, hBefore, rfl⟩ := Option.map_eq_some_iff.mp hOther
          exact h.groups k before hBefore
        · exact h.groups k other hOther

/-- A task asks for what is allowed, and keeps the account. -/
theorem Accounted.performStep (h : Accounted requests m) (reclaimConfigSet : ReclaimConfigSet) (input : RanTask) :
    Accounted (requests ++ (performStep reclaimConfigSet m input).2)
      (performStep reclaimConfigSet m input).1 := by
  obtain ⟨task, answers⟩ := input
  cases task with
  | handleAccountDied accountId => exact h.removeUserMemcg
  | handleAccountPriorityChanged accountId priority =>
      simp only [ReclaimStrategyManager.performStep, perform, handleAccountPriorityChanged]
      split_ifs
      · simpa using h
      · simpa using h
      · split
        · simpa using h
        · exact h.update (getValidScore_mem priority)
  | handleAppStateChanged reclaimPara =>
      cases reclaimPara with
      | none => simpa [ReclaimStrategyManager.performStep, perform, handleAppStateChanged] using h
      | some reclaimPara =>
          obtain ⟨pid, accountId, action⟩ := reclaimPara
          simp only [ReclaimStrategyManager.performStep, perform, handleAppStateChanged]
          split_ifs with hInvalid
          · simpa using h
          · cases action with
            | createProcessAndApp | createProcessOnly =>
                exact h.addProcToMemcg (Int.not_lt.mp hInvalid) (unsignedOfInt pid)
            | appDied | appForeground | appBackground | others => simpa using h

/-- Any number of tasks keep the requests accounted for. -/
theorem Accounted.run (h : Accounted requests m) (reclaimConfigSet : ReclaimConfigSet) (tasks : List RanTask) :
    Accounted
      (requests ++ Transducer.outputs (ReclaimStrategyManager.performStep reclaimConfigSet) m tasks)
      (Transducer.finalState (ReclaimStrategyManager.performStep reclaimConfigSet) m tasks) := by
  induction tasks generalizing requests m with
  | nil => simpa using h
  | cons input tasks ih =>
      rw [Transducer.outputs, ← List.append_assoc]
      exact ih (h.performStep reclaimConfigSet input)

end Steps

/-- The account is kept from the start of the service on. -/
theorem accounted_run (reclaimConfigSet : ReclaimConfigSet)
    (makeHandler makeRootMemcg makeReclaimRatios : Bool) (kernel : MemcgKernel)
    (processes : EarlierProcesses) (ops : List Op) :
    let m := init makeHandler kernel processes (.create makeRootMemcg makeReclaimRatios)
    Accounted (m.2 ++ ReclaimStrategyManager.requests reclaimConfigSet m.1 ops)
      (ReclaimStrategyManager.run reclaimConfigSet m.1 ops).memcgMgr := by
  obtain ⟨root, writes, hRun, hRequests, hWrites⟩ :=
    memcgMgr_run_init reclaimConfigSet makeHandler makeRootMemcg makeReclaimRatios kernel processes ops
  have hRange : ∀ write ∈ writes, InRange write.1 write.2 :=
    fun write hWrite => inRange_writes (by decide) ofValues_le write (hWrites hWrite)
  obtain ⟨hRoot, hNone⟩ := disciplined_rootRequests hRange
  have hStart : Accounted (rootRequests writes) ⟨root, ∅⟩ :=
    ⟨hRoot, by simp [hNone, MemcgMgr.getUserMemcg], by simp [MemcgMgr.getUserMemcg]⟩
  dsimp only at hRun hRequests ⊢
  rw [hRun, hRequests]
  exact hStart.run reclaimConfigSet _

/-- From the start of the service on, whatever fails, a directory is made only for an account that
has none, and only while it has one anything is asked for in it; scores and ratios that are written
are in range. -/
theorem disciplined_requests (reclaimConfigSet : ReclaimConfigSet)
    (makeHandler makeRootMemcg makeReclaimRatios : Bool) (kernel : MemcgKernel)
    (processes : EarlierProcesses) (ops : List Op) :
    let m := init makeHandler kernel processes (.create makeRootMemcg makeReclaimRatios)
    Disciplined (m.2 ++ ReclaimStrategyManager.requests reclaimConfigSet m.1 ops) :=
  (accounted_run reclaimConfigSet makeHandler makeRootMemcg makeReclaimRatios kernel processes ops).disciplined

end MemMgr.ReclaimStrategyManager
