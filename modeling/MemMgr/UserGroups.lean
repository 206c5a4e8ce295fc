import Mathlib.Data.List.DropRight
import MemMgr.Library.Keyed
import MemMgr.Library.Lookup
import MemMgr.MemcgMgr

/-! What has become of a user's group after a run. A group lives from the first process of its user
for which it could be allocated to the death of the account, and holds what the last change of
priority in that time has left. -/
namespace MemMgr.ReclaimStrategyManager

open Keyed Std.ExtTreeMap

/-- A task that has run, with what it was answered. -/
abbrev RanTask := StrategyTask × GroupAnswers

def userOf : RanTask → Option Int
  | (.handleAppStateChanged reclaimPara, _) => reclaimPara.map (·.accountId)
  | (.handleAccountDied accountId, _) => some accountId
  | (.handleAccountPriorityChanged accountId _, _) => some accountId

def isDeath : RanTask → Bool
  | (.handleAccountDied _, _) => true
  | _ => false

/-- Whether a group is made if there is none. -/
def makesGroup : RanTask → Bool
  | (.handleAppStateChanged (some reclaimPara), answers) =>
      validUserIdMin ≤ reclaimPara.accountId ∧
        (reclaimPara.action = .createProcessAndApp ∨ reclaimPara.action = .createProcessOnly) ∧
        answers.makeUserMemcg = true
  | _ => false

/-- The score and the ratios that a change of priority asks for, if the configuration has any. -/
def asks (reclaimConfigSet : ReclaimConfigSet) : RanTask → Option (Int × ReclaimRatios)
  | (.handleAccountPriorityChanged _ priority, answers) =>
      if answers.makeRatios = false then none
      else
        match ReclaimConfig.getReclaimRatiosByScore reclaimConfigSet (getValidScore priority)
            ⟨memcgMem2ZramRatio, memcgZram2UfsRatio, memcgRefaultThreshold⟩ with
        | (false, _) => none
        | (true, ratios) => some (getValidScore priority, ratios)
  | _ => none

/-- What a group holds after an update. -/
def updated (kernel : MemcgKernel) (score : Int) (ratios : ReclaimRatios) (memcg : Memcg) : Memcg :=
  match (memcg.setScore score).setReclaimRatios ratios with
  | (false, base) => base
  | (true, base) => (base.setScoreAndReclaimRatiosToKernel kernel).memcg

def updatedBy (reclaimConfigSet : ReclaimConfigSet) (input : RanTask) (memcg : Memcg) : Memcg :=
  match asks reclaimConfigSet input with
  | none => memcg
  | some (score, ratios) => updated input.2.kernel score ratios memcg

/-- What a task does to the group of its user. -/
def changeGroup (reclaimConfigSet : ReclaimConfigSet) (input : RanTask) (group : Option UserMemcg) :
    Option UserMemcg :=
  if isDeath input then none
  else if makesGroup input then
    group.or ((userOf input).map fun userId => ⟨userId, .create input.2.makeReclaimRatios⟩)
  else group.map fun group => { group with memcg := updatedBy reclaimConfigSet input group.memcg }

/-- The tasks of a user from the one on that made the present group. -/
def lifetime (log : List RanTask) : List RanTask :=
  (log.rtakeWhile fun input => !isDeath input).dropWhile fun input => !makesGroup input

/-- The group that a user is left with by the tasks. -/
def groupAfter (reclaimConfigSet : ReclaimConfigSet) (userId : Int) (log : List RanTask) :
    Option UserMemcg :=
  (lifetime log).head?.map fun first =>
    let created := Memcg.create first.2.makeReclaimRatios
    let lastChange := ((lifetime log).filter fun input => (asks reclaimConfigSet input).isSome).getLast?
    ⟨userId, lastChange.elim created fun last => updatedBy reclaimConfigSet last created⟩

section Queue

/-- What a call or a turn of the handler does to the queue. -/
def queueOps (initialized : Bool) : Op → List (TaskQueue.Op StrategyTask RanTask GroupAnswers)
  | .notifyAppStateChanged reclaimPara =>
      if !initialized then [] else [.post (.handleAppStateChanged reclaimPara)]
  | .notifyAccountDied accountId =>
      if !initialized then []
      else if accountId < validUserIdMin then []
      else [.post (.handleAccountDied accountId)]
  | .notifyAccountPriorityChanged accountId priority =>
      if !initialized then []
      else if accountId < validUserIdMin then []
      else [.post (.handleAccountPriorityChanged accountId priority)]
  | .runTask answers => [.run answers]

/-- The tasks that have run, in order. -/
def ranTasks (initialized : Bool) (ops : List Op) : List RanTask :=
  TaskQueue.ran [] (ops.flatMap (queueOps initialized))

/-- The processes found at the start, as the tasks they are handled like. -/
def initTasks (processes : EarlierProcesses) : List RanTask :=
  (processes.allProcPids.getD []).filterMap fun pid =>
    (processes.uidByPid pid).map fun (uid : Nat) =>
      (.handleAppStateChanged (some ⟨pid, getOsAccountIdByUid uid, .createProcessOnly⟩),
        processes.answers pid)

/-- All that was ever performed: nothing unless the start has gone well. -/
def performedTasks (initialized : Bool) (processes : EarlierProcesses) (ops : List Op) : List RanTask :=
  if initialized then initTasks processes ++ ranTasks true ops else []

end Queue

variable {reclaimConfigSet : ReclaimConfigSet} {userId : Int} {log : List RanTask} {input : RanTask}

section Tasks

variable {m : MemcgMgr} {answers : GroupAnswers}

theorem addProcToMemcg_of_some {group : UserMemcg} {pid : Nat} (hOld : m.getUserMemcg userId = some group) :
    m.addProcToMemcg answers pid userId = (m, answers.writeProcs, [.addProc group.userId pid]) := by
  rw [MemcgMgr.addProcToMemcg, hOld]

theorem addProcToMemcg_of_none {pid : Nat} (hOld : m.getUserMemcg userId = none) :
    m.addProcToMemcg answers pid userId =
      if answers.makeUserMemcg = false then (m, false, [])
      else
        ({ m with
            userMemcgsMap :=
              m.userMemcgsMap.insertIfNew userId ⟨userId, .create answers.makeReclaimRatios⟩ },
          answers.writeProcs, [.createDir userId, .addProc userId pid]) := by
  rw [MemcgMgr.addProcToMemcg, hOld]
  cases hMake : answers.makeUserMemcg <;> simp [MemcgMgr.addUserMemcg, hMake]

theorem getUserMemcg_addProcToMemcg (pid : Nat) (userId k : Int) :
    (m.addProcToMemcg answers pid userId).1.getUserMemcg k =
      if userId = k ∧ answers.makeUserMemcg = true then
        (m.getUserMemcg k).or (some ⟨k, .create answers.makeReclaimRatios⟩)
      else m.getUserMemcg k := by
  cases hOld : m.getUserMemcg userId with
  | some group =>
      rw [addProcToMemcg_of_some hOld]
      split_ifs with hMade
      · rw [← hMade.1, hOld, Option.some_or]
      · rfl
  | none =>
      rw [addProcToMemcg_of_none hOld]
      cases hMake : answers.makeUserMemcg with
      | false => simp
      | true =>
          simp only [Bool.true_eq_false, if_false, and_true]
          rw [MemcgMgr.getUserMemcg] at hOld
          simp only [MemcgMgr.getUserMemcg, getElem?_insertIfNew_of_none hOld,
            Std.LawfulEqCmp.compare_eq_iff_eq]
          split_ifs with hKey
          · rw [← hKey, hOld, Option.none_or]
          · rfl

theorem getUserMemcg_removeUserMemcg (userId k : Int) :
    (m.removeUserMemcg userId).1.getUserMemcg k = if userId = k then none else m.getUserMemcg k := by
  rw [MemcgMgr.removeUserMemcg]
  cases hOld : m.getUserMemcg userId with
  | none =>
      by_cases hKey : userId = k
      · subst hKey
        simp [hOld]
      · simp [hKey]
  | some group => simp [MemcgMgr.getUserMemcg, getElem?_erase]

theorem getUserMemcg_update (userId score : Int) (ratios : ReclaimRatios) (k : Int) :
    (m.updateMemcgScoreAndReclaimRatios answers userId score ratios).1.getUserMemcg k =
      if userId = k then
        (m.getUserMemcg k).map fun group =>
          { group with memcg := updated answers.kernel score ratios group.memcg }
      else m.getUserMemcg k := by
  rw [MemcgMgr.updateMemcgScoreAndReclaimRatios]
  cases hOld : m.getUserMemcg userId with
  | none =>
      by_cases hKey : userId = k
      · subst hKey
        simp [hOld]
      · simp [hKey]
  | some group =>
      dsimp only
      by_cases hKey : userId = k
      · subst hKey
        rw [if_pos rfl, hOld, Option.map_some, updated]
        split <;> simp_all [MemcgMgr.getUserMemcg]
      · rw [if_neg hKey]
        split <;> simp [MemcgMgr.getUserMemcg, getElem?_insert, hKey]

theorem getUserMemcg_handleAppStateChanged (reclaimPara : ReclaimParam) (k : Int) :
    (handleAppStateChanged answers m (some reclaimPara)).1.getUserMemcg k =
      if reclaimPara.accountId = k then
        changeGroup reclaimConfigSet (.handleAppStateChanged (some reclaimPara), answers) (m.getUserMemcg k)
      else m.getUserMemcg k := by
  obtain ⟨pid, accountId, action⟩ := reclaimPara
  have hAdd := @getUserMemcg_addProcToMemcg m answers (unsignedOfInt pid) accountId k
  rw [handleAppStateChanged]
  by_cases hValid : accountId < validUserIdMin
  · simp [hValid, changeGroup, isDeath, makesGroup, Int.not_le.mpr hValid, updatedBy, asks]
  · have hMin : validUserIdMin ≤ accountId := Int.not_lt.mp hValid
    cases action with
    | createProcessAndApp | createProcessOnly =>
        simp only [hValid, if_false, handleProcessCreate, hAdd]
        by_cases hKey : accountId = k
        · subst hKey
          cases hMake : answers.makeUserMemcg <;>
            simp [changeGroup, isDeath, makesGroup, hMin, hMake, userOf, updatedBy, asks]
        · simp [hKey]
    | appDied | appForeground | appBackground | others =>
        simp [hValid, changeGroup, isDeath, makesGroup, updatedBy, asks]

theorem getUserMemcg_handleAccountPriorityChanged (accountId priority k : Int) :
    (handleAccountPriorityChanged reclaimConfigSet answers m accountId priority).1.getUserMemcg k =
      if accountId = k then
        (m.getUserMemcg k).map fun group =>
          { group with
            memcg := updatedBy reclaimConfigSet
              (.handleAccountPriorityChanged accountId priority, answers) group.memcg }
      else m.getUserMemcg k := by
  rw [handleAccountPriorityChanged]
  by_cases hNone : m.getUserMemcg accountId = none
  · rw [if_pos hNone]
    by_cases hKey : accountId = k
    · subst hKey
      simp [hNone]
    · simp [hKey]
  · rw [if_neg hNone]
    dsimp only
    cases hMake : answers.makeRatios with
    | false => simp [updatedBy, asks, hMake]
    | true =>
        cases hRatios : ReclaimConfig.getReclaimRatiosByScore reclaimConfigSet
            (getValidScore priority) ⟨memcgMem2ZramRatio, memcgZram2UfsRatio, memcgRefaultThreshold⟩ with
        | mk found ratios =>
            cases found with
            | false => simp [updatedBy, asks, hMake, hRatios]
            | true =>
                simpa [updatedBy, asks, hMake, hRatios] using getUserMemcg_update accountId _ ratios k

/-- A task changes the group of its user, and no other. -/
theorem performStep_local (reclaimConfigSet : ReclaimConfigSet) :
    Local MemcgMgr.getUserMemcg userOf (changeGroup reclaimConfigSet)
      (fun m input => (performStep reclaimConfigSet m input).1) := by
  rintro m ⟨task, answers⟩ k
  cases task with
  | handleAccountDied accountId =>
      simpa [performStep, perform, handleAccountDied, userOf, changeGroup, isDeath] using
        getUserMemcg_removeUserMemcg accountId k
  | handleAccountPriorityChanged accountId priority =>
      simpa [performStep, perform, userOf, changeGroup, isDeath, makesGroup] using
        getUserMemcg_handleAccountPriorityChanged accountId priority k
  | handleAppStateChanged reclaimPara =>
      cases reclaimPara with
      | none => simp [performStep, perform, handleAppStateChanged, userOf]
      | some reclaimPara =>
          simpa [performStep, perform, userOf] using getUserMemcg_handleAppStateChanged reclaimPara k

end Tasks

section Lifetime

variable {first : RanTask} {later : List RanTask} {memcg : Memcg} {kernel : MemcgKernel} {score : Int}
variable {ratios : ReclaimRatios}

/-- The ratios of before only count by being there. -/
theorem updated_eq : updated kernel score ratios memcg =
    match memcg.reclaimRatios with
    | none => ⟨score, none⟩
    | some _ =>
        (Memcg.setScoreAndReclaimRatiosToKernel kernel
          ⟨score, some (.ofValues ratios.mem2zramRatio ratios.zram2ufsRatio ratios.refaultThreshold)⟩).memcg := by
  obtain ⟨old, reclaimRatios⟩ := memcg
  cases reclaimRatios <;> rfl

theorem isSome_setScoreAndReclaimRatiosToKernel :
    (Memcg.setScoreAndReclaimRatiosToKernel kernel ⟨score, some ratios⟩).memcg.reclaimRatios.isSome = true := by
  rw [Memcg.setScoreAndReclaimRatiosToKernel]
  dsimp only
  split
  · rfl
  · split_ifs <;> rfl

/-- An update leaves nothing of an earlier one. -/
theorem updated_updated {kernel' : MemcgKernel} {score' : Int} {ratios' : ReclaimRatios} :
    updated kernel score ratios (updated kernel' score' ratios' memcg) = updated kernel score ratios memcg := by
  rw [updated_eq, updated_eq, updated_eq]
  cases memcg.reclaimRatios with
  | none => rfl
  | some old =>
      dsimp only
      obtain ⟨held, hHeld⟩ := Option.isSome_iff_exists.mp
        (@isSome_setScoreAndReclaimRatiosToKernel kernel' score'
          (.ofValues ratios'.mem2zramRatio ratios'.zram2ufsRatio ratios'.refaultThreshold))
      rw [hHeld]

theorem updatedBy_of_none (hNone : asks reclaimConfigSet input = none) :
    updatedBy reclaimConfigSet input memcg = memcg := by
  rw [updatedBy, hNone]

theorem updatedBy_updatedBy (hAsks : (asks reclaimConfigSet input).isSome = true) (earlier : RanTask) :
    updatedBy reclaimConfigSet input (updatedBy reclaimConfigSet earlier memcg) =
      updatedBy reclaimConfigSet input memcg := by
  obtain ⟨⟨score, ratios⟩, hSome⟩ := Option.isSome_iff_exists.mp hAsks
  simp only [updatedBy, hSome]
  split
  · rfl
  · exact updated_updated

theorem asks_of_makesGroup (hMakes : makesGroup input = true) : asks reclaimConfigSet input = none := by
  obtain ⟨task, answers⟩ := input
  cases task with
  | handleAppStateChanged reclaimPara => rfl
  | handleAccountDied accountId => rfl
  | handleAccountPriorityChanged accountId priority => cases hMakes

theorem lifetime_concat_death (hDeath : isDeath input = true) : lifetime (log ++ [input]) = [] := by
  rw [lifetime, List.rtakeWhile_concat_neg _ _ _ (by simp [hDeath]), List.dropWhile_nil]

theorem lifetime_concat (hAlive : isDeath input = false) : lifetime (log ++ [input]) =
    if lifetime log = [] ∧ makesGroup input = false then [] else lifetime log ++ [input] := by
  rw [lifetime, List.rtakeWhile_concat_pos _ _ _ (by simp [hAlive]), List.dropWhile_append, ← lifetime]
  cases lifetime log with
  | nil => cases hMakes : makesGroup input <;> simp [hMakes]
  | cons first later => simp

/-- What one more task of the user makes of the group. -/
theorem groupAfter_concat (hUser : userOf input = some userId) :
    groupAfter reclaimConfigSet userId (log ++ [input]) =
      changeGroup reclaimConfigSet input (groupAfter reclaimConfigSet userId log) := by
  rw [changeGroup]
  cases hDeath : isDeath input with
  | true => simp [groupAfter, lifetime_concat_death hDeath]
  | false =>
      rw [if_neg Bool.false_ne_true, groupAfter, lifetime_concat hDeath, groupAfter]
      cases hLife : lifetime log with
      | nil =>
          cases hMakes : makesGroup input with
          | false => simp
          | true => simp [hUser, asks_of_makesGroup hMakes]
      | cons first later =>
          rw [if_neg (by simp), List.filter_append]
          cases hMakes : makesGroup input with
          | true => simp [asks_of_makesGroup hMakes]
          | false =>
              cases hAsks : (asks reclaimConfigSet input).isSome with
              | false =>
                  have hNone : asks reclaimConfigSet input = none := by simpa using hAsks
                  simp [hNone, updatedBy_of_none hNone]
              | true =>
                  have hOnly : [input].filter (fun input => (asks reclaimConfigSet input).isSome) = [input] :=
                    List.filter_cons_of_pos hAsks
                  rw [hOnly, List.getLast?_concat]
                  cases ((first :: later).filter
                    fun input => (asks reclaimConfigSet input).isSome).getLast? with
                  | none => simp
                  | some last => simp [updatedBy_updatedBy hAsks]

/-- The tasks of a user leave the group that was to be expected. -/
theorem foldl_changeGroup (hUser : ∀ input ∈ log, userOf input = some userId) :
    log.foldl (fun group input => changeGroup reclaimConfigSet input group) none =
      groupAfter reclaimConfigSet userId log := by
  induction log using List.reverseRecOn with
  | nil => rfl
  | append_singleton log input ih =>
      rw [List.foldl_concat, ih fun other hOther => hUser other (List.mem_append_left _ hOther),
        groupAfter_concat (hUser input (by simp))]

end Lifetime

section Runs

variable {processes : EarlierProcesses} {m : MemcgMgr} {kernel : MemcgKernel}

def toQueued (m : ReclaimStrategyManager) : TaskQueue.Queued MemcgMgr StrategyTask :=
  ⟨m.memcgMgr, m.handler⟩

/-- The handler is a queue in front of the groups. -/
theorem step_queue (m : ReclaimStrategyManager) (op : Op) :
    toQueued (m.step reclaimConfigSet op).1 =
        Transducer.finalState (TaskQueue.queueStep (performStep reclaimConfigSet) Prod.mk) (toQueued m)
          (queueOps m.initialized op) ∧
      (m.step reclaimConfigSet op).2 =
        Transducer.outputs (TaskQueue.queueStep (performStep reclaimConfigSet) Prod.mk) (toQueued m)
          (queueOps m.initialized op) ∧
      (m.step reclaimConfigSet op).1.initialized = m.initialized := by
  obtain ⟨initialized, memcgMgr, handler⟩ := m
  cases op with
  | notifyAppStateChanged reclaimPara => cases initialized <;> exact ⟨rfl, rfl, rfl⟩
  | notifyAccountDied accountId =>
      cases initialized with
      | false => exact ⟨rfl, rfl, rfl⟩
      | true =>
          simp only [step, notifyAccountDied, queueOps, Bool.not_true, Bool.false_eq_true, if_false]
          split_ifs <;> exact ⟨rfl, rfl, rfl⟩
  | notifyAccountPriorityChanged accountId priority =>
      cases initialized with
      | false => exact ⟨rfl, rfl, rfl⟩
      | true =>
          simp only [step, notifyAccountPriorityChanged, queueOps, Bool.not_true, Bool.false_eq_true,
            if_false]
          split_ifs <;> exact ⟨rfl, rfl, rfl⟩
  | runTask answers =>
      cases handler with
      | nil => exact ⟨rfl, rfl, rfl⟩
      | cons task handler => exact ⟨rfl, (List.append_nil _).symm, rfl⟩

theorem run_queue (m : ReclaimStrategyManager) (ops : List Op) :
    toQueued (run reclaimConfigSet m ops) =
        Transducer.finalState (TaskQueue.queueStep (performStep reclaimConfigSet) Prod.mk) (toQueued m)
          (ops.flatMap (queueOps m.initialized)) ∧
      requests reclaimConfigSet m ops =
        Transducer.outputs (TaskQueue.queueStep (performStep reclaimConfigSet) Prod.mk) (toQueued m)
          (ops.flatMap (queueOps m.initialized)) := by
  induction ops generalizing m with
  | nil => exact ⟨rfl, rfl⟩
  | cons op ops ih =>
      obtain ⟨hQueue, hRequests, hInitialized⟩ := @step_queue reclaimConfigSet m op
      obtain ⟨hRest, hRestRequests⟩ := ih (m.step reclaimConfigSet op).1
      rw [hInitialized, hQueue] at hRest hRestRequests
      rw [List.flatMap_cons, Transducer.finalState_append, Transducer.outputs_append, ← hRequests,
        ← hRestRequests]
      exact ⟨hRest, rfl⟩

theorem not_now_mem_queueOps (initialized : Bool) (ops : List Op) (input : RanTask) :
    TaskQueue.Op.now input ∉ ops.flatMap (queueOps initialized) := by
  simp only [List.mem_flatMap, not_exists, not_and]
  intro op _
  cases op with
  | runTask answers => simp [queueOps]
  | notifyAppStateChanged | notifyAccountDied | notifyAccountPriorityChanged =>
      simp only [queueOps]
      split_ifs <;> simp

/-- The tasks that are posted. -/
def accepted (initialized : Bool) (ops : List Op) : List StrategyTask :=
  TaskQueue.posted (ops.flatMap (queueOps initialized))

theorem performed_queueOps (m : ReclaimStrategyManager) (ops : List Op) :
    TaskQueue.performed Prod.mk m.handler (ops.flatMap (queueOps m.initialized)) =
      TaskQueue.ran m.handler (ops.flatMap (queueOps m.initialized)) := by
  rw [TaskQueue.performed_eq_ran (not_now_mem_queueOps m.initialized ops)]
  exact List.map_id _

/-- A run performs its tasks, and nothing else touches the groups. -/
theorem memcgMgr_run (m : ReclaimStrategyManager) (ops : List Op) :
    (run reclaimConfigSet m ops).memcgMgr =
        Transducer.finalState (performStep reclaimConfigSet) m.memcgMgr
          (TaskQueue.ran m.handler (ops.flatMap (queueOps m.initialized))) ∧
      requests reclaimConfigSet m ops =
        Transducer.outputs (performStep reclaimConfigSet) m.memcgMgr
          (TaskQueue.ran m.handler (ops.flatMap (queueOps m.initialized))) := by
  obtain ⟨hQueue, hRequests⟩ := @run_queue reclaimConfigSet m ops
  rw [← performed_queueOps]
  constructor
  · exact (congrArg TaskQueue.Queued.state hQueue).trans TaskQueue.state_finalState
  · exact hRequests.trans TaskQueue.outputs_eq

theorem initProcess_eq (reclaimConfigSet : ReclaimConfigSet) (pid : Nat) :
    initProcess processes m pid =
      match processes.uidByPid pid with
      | none => (m, [])
      | some uid =>
          performStep reclaimConfigSet m
            (.handleAppStateChanged (some ⟨pid, getOsAccountIdByUid uid, .createProcessOnly⟩),
              processes.answers pid) := by
  rw [initProcess]
  cases processes.uidByPid pid with
  | none => rfl
  | some uid =>
      simp only [performStep, perform, handleAppStateChanged, handleProcessCreate]
      split_ifs <;> rfl

/-- The processes found at the start are handled like ones that are created. -/
theorem initProcessBeforeMemmgr_eq (reclaimConfigSet : ReclaimConfigSet) :
    initProcessBeforeMemmgr processes m =
      (Transducer.finalState (performStep reclaimConfigSet) m (initTasks processes),
        Transducer.outputs (performStep reclaimConfigSet) m (initTasks processes)) := by
  rw [initProcessBeforeMemmgr, initTasks]
  cases processes.allProcPids with
  | none => rfl
  | some pids =>
      dsimp only [Option.getD_some]
      induction pids generalizing m with
      | nil => rfl
      | cons pid pids ih =>
          have hPid := @initProcess_eq processes m reclaimConfigSet pid
          rw [List.filterMap_cons]
          cases hUid : processes.uidByPid pid with
          | none =>
              rw [hUid] at hPid
              simpa [Transducer.finalState, Transducer.outputs, hPid] using @ih m
          | some uid =>
              rw [hUid] at hPid
              have hRest := @ih (initProcess processes m pid).1
              simp only [Prod.mk.injEq] at hRest ⊢
              rw [hPid] at hRest
              simp only [Transducer.finalState, Transducer.outputs, List.foldl_cons, hPid] at hRest ⊢
              exact ⟨hRest.1, congrArg _ hRest.2⟩

theorem ranTasks_append_handler {m : ReclaimStrategyManager} (ops : List Op) (hHandler : m.handler = []) :
    (ranTasks m.initialized ops).map Prod.fst ++ (run reclaimConfigSet m ops).handler =
      accepted m.initialized ops := by
  obtain ⟨hQueue, -⟩ := @run_queue reclaimConfigSet m ops
  have hOrder := @TaskQueue.ran_append_handler _ _ _ _ _ (performStep reclaimConfigSet) Prod.mk m.memcgMgr
    m.handler (ops.flatMap (queueOps m.initialized))
  rw [← toQueued, ← hQueue, hHandler] at hOrder
  exact hOrder

/-- Writes to the files of the root group. -/
def rootRequests (writes : List (MemcgFile × String)) : List GroupRequest :=
  writes.map fun (file, content) => .writeRoot file content

/-- What the root group may be given at the start. -/
def rootWrites (kernel : MemcgKernel) : List (MemcgFile × String) :=
  (Memcg.setScoreAndReclaimRatiosToKernel kernel ⟨appScore, some (.ofValues rootMemcgMem2ZramRatio
    rootMemcgZram2UfsRatio rootMemcgRefaultThreshold)⟩).writes

/-- The groups at the start of a service. -/
theorem init_eq (reclaimConfigSet : ReclaimConfigSet) (makeHandler makeRootMemcg makeReclaimRatios : Bool)
    (kernel : MemcgKernel) (processes : EarlierProcesses) :
    ∃ root writes, let m := init makeHandler kernel processes (.create makeRootMemcg makeReclaimRatios)
      let tasks := if m.1.initialized then initTasks processes else []
      m.1.handler = [] ∧
        m.1.memcgMgr = Transducer.finalState (performStep reclaimConfigSet) ⟨root, ∅⟩ tasks ∧
        m.2 = rootRequests writes ++ Transducer.outputs (performStep reclaimConfigSet) ⟨root, ∅⟩ tasks ∧
        writes ⊆ rootWrites kernel := by
  rw [init]
  cases makeHandler with
  | false => exact ⟨_, [], rfl, rfl, rfl, List.nil_subset _⟩
  | true =>
      have hRoot : ∃ root writes ret,
          (MemcgMgr.create makeRootMemcg makeReclaimRatios).setRootMemcgPara kernel =
              (⟨root, ∅⟩, ret, rootRequests writes) ∧ writes ⊆ rootWrites kernel := by
        cases makeRootMemcg with
        | false => exact ⟨none, [], false, rfl, List.nil_subset _⟩
        | true =>
            cases makeReclaimRatios with
            | false => exact ⟨_, [], false, rfl, List.nil_subset _⟩
            | true => exact ⟨_, _, _, rfl, fun _ hWrite => hWrite⟩
      obtain ⟨root, writes, ret, hRoot, hWrites⟩ := hRoot
      rw [if_neg (by simp), hRoot]
      cases ret with
      | false => exact ⟨root, writes, rfl, rfl, (List.append_nil _).symm, hWrites⟩
      | true =>
          dsimp only
          rw [initProcessBeforeMemmgr_eq reclaimConfigSet]
          exact ⟨root, writes, rfl, rfl, rfl, hWrites⟩

theorem ran_not_initialized (ops : List Op) : ranTasks false ops = [] := by
  rw [ranTasks]
  induction ops with
  | nil => rfl
  | cons op ops ih => cases op <;> exact ih

/-- A run is the tasks of the start and then those that have run. -/
theorem memcgMgr_run_init (reclaimConfigSet : ReclaimConfigSet)
    (makeHandler makeRootMemcg makeReclaimRatios : Bool) (kernel : MemcgKernel)
    (processes : EarlierProcesses) (ops : List Op) :
    ∃ root writes, let m := init makeHandler kernel processes (.create makeRootMemcg makeReclaimRatios)
      let tasks := performedTasks m.1.initialized processes ops
      (run reclaimConfigSet m.1 ops).memcgMgr =
          Transducer.finalState (performStep reclaimConfigSet) ⟨root, ∅⟩ tasks ∧
        m.2 ++ requests reclaimConfigSet m.1 ops =
          rootRequests writes ++ Transducer.outputs (performStep reclaimConfigSet) ⟨root, ∅⟩ tasks ∧
        writes ⊆ rootWrites kernel := by
  obtain ⟨root, writes, hHandler, hStart, hTold, hWrites⟩ :=
    init_eq reclaimConfigSet makeHandler makeRootMemcg makeReclaimRatios kernel processes
  refine ⟨root, writes, ?_⟩
  dsimp only at hHandler hStart hTold ⊢
  obtain ⟨hRun, hRequests⟩ := @memcgMgr_run reclaimConfigSet
    (init makeHandler kernel processes (.create makeRootMemcg makeReclaimRatios)).1 ops
  rw [hRun, hRequests, hTold, hHandler, hStart, List.append_assoc]
  cases (init makeHandler kernel processes (.create makeRootMemcg makeReclaimRatios)).1.initialized with
  | true =>
      rw [performedTasks, if_pos rfl, if_pos rfl, Transducer.finalState_append,
        Transducer.outputs_append]
      exact ⟨rfl, rfl, hWrites⟩
  | false =>
      have hNone := ran_not_initialized ops
      rw [ranTasks] at hNone
      simpa [performedTasks, hNone] using hWrites

/-- Whatever other users do in between, a user has a group just from the first of its processes since
the account last died whose group could be allocated, if the start went well, and it holds what its
last change of priority has left. Every notification that was let in runs once, in its turn, or still
waits. -/
theorem getUserMemcg_run (reclaimConfigSet : ReclaimConfigSet)
    (makeHandler makeRootMemcg makeReclaimRatios : Bool) (kernel : MemcgKernel)
    (processes : EarlierProcesses) (ops : List Op) :
    let m := (init makeHandler kernel processes (.create makeRootMemcg makeReclaimRatios)).1
    (∀ userId, (run reclaimConfigSet m ops).memcgMgr.getUserMemcg userId =
        groupAfter reclaimConfigSet userId
          (eventsOf userOf userId (performedTasks m.initialized processes ops))) ∧
      (ranTasks m.initialized ops).map Prod.fst ++ (run reclaimConfigSet m ops).handler =
        accepted m.initialized ops := by
  obtain ⟨root, writes, hRun, -, -⟩ :=
    memcgMgr_run_init reclaimConfigSet makeHandler makeRootMemcg makeReclaimRatios kernel processes ops
  obtain ⟨-, -, hHandler, -, -, -⟩ :=
    init_eq reclaimConfigSet makeHandler makeRootMemcg makeReclaimRatios kernel processes
  dsimp only at hRun hHandler ⊢
  constructor
  · intro userId
    rw [hRun]
    refine ((performStep_local reclaimConfigSet).view_foldl _).trans ?_
    exact foldl_changeGroup fun input hInput => key_of_mem_eventsOf hInput
  · exact ranTasks_append_handler ops hHandler

end Runs

end MemMgr.ReclaimStrategyManager
