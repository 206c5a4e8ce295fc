import Std.Data.String.ToInt
import MemMgr.AbilityStart

/-! The handler of the manager, which runs the tasks that were posted. A pending
task may be the next one to run; it is taken off the list first. -/
namespace MemMgr

open Execution ReclaimPriorityManager BundlePriorityInfo

/-- What a posted task calls. -/
def DelayedTask.op : DelayedTask → Op
  | .checkAbilityStartCompleted _ pid bundleUid accountId =>
      .checkAbilityStartCompleted pid bundleUid accountId
  | .checkCreateProcPriorityDelay pid uid => .checkCreateProcPriorityDelay pid uid

/-- The operations that only posted tasks call. -/
def Op.isTask : Op → Bool
  | .checkAbilityStartCompleted _ _ _ => true
  | .checkCreateProcPriorityDelay _ _ => true
  | _ => false

inductive TimedOp where
  | call (op : Op)
  | fire (task : DelayedTask)

/-- The task that a starting process waits for. -/
def abilityStartTask (pid : Int) (proc : ProcessPriorityInfo) : DelayedTask :=
  .checkAbilityStartCompleted (abilityStartTaskName pid) pid proc.uid (getOsAccountIdByUid proc.uid)

/-- Every starting process has one task under its name, and it is its own. -/
def ReclaimPriorityManager.StartsTimed (s : ReclaimPriorityManager) : Prop :=
  ∀ bundle pid proc, s.TracksProc bundle pid proc → proc.isAbilityStarting = true →
    s.timersOf pid = [abilityStartTask pid proc]

/-- No process of that pid is starting an ability. -/
def ReclaimPriorityManager.NotStarting (s : ReclaimPriorityManager) (pid : Int) : Prop :=
  ∀ bundle proc, s.TracksProc bundle pid proc → proc.isAbilityStarting = false

namespace Service

/-- The service once a task is taken off the list. -/
def taken (sys : Service) (task : DelayedTask) : Service :=
  sys.withManager { sys.manager with handler := sys.manager.handler.erase task }

/-- A call from outside, or a pending task. -/
def TimedStep (platform : Platform) (sys : Service) : TimedOp → Service → Prop
  | .call op, sys' => op.isTask = false ∧ Step platform sys op sys'
  | .fire task, sys' => task ∈ sys.manager.handler ∧ Step platform (sys.taken task) task.op sys'

def eachPidOnce : Service → TimedOp → Prop := fun sys _ => sys.manager.PidsUnique

abbrev TimedRun (platform : Platform) : Service → Prop :=
  Execution.Run (TimedStep platform) eachPidOnce (init platform)

end Service

variable {platform : Platform} {s s₁ s' : ReclaimPriorityManager} {bundle : BundleRef} {pid : Int}
variable {proc : ProcessPriorityInfo} {sys sys' : Service} {task : DelayedTask}

/-- The name of a timer tells its process. -/
theorem abilityStartTaskName_injective : Function.Injective abilityStartTaskName := by
  intro first second hNames
  exact Int.repr_injective (String.append_left_inj _ |>.mp hNames)

/-- The timers of the other processes stay when one process gives up its own. -/
theorem timersOf_removed {other : Int} (hNe : other ≠ pid)
    (hHandler : s₁.handler = removeTimerForAbilityStartCompletedCheck pid s.handler) :
    s₁.timersOf other = s.timersOf other := by
  rw [timersOf, timersOf, hHandler, removeTimerForAbilityStartCompletedCheck, List.filter_filter]
  apply List.filter_congr
  intro task _
  have hNames := abilityStartTaskName_injective.ne hNe
  by_cases hName : task.taskName = abilityStartTaskName other <;> simp [hName, hNames]

/-- A process that gives up its timer has none left. -/
theorem timersOf_removeTimer (pid : Int) (handler : List DelayedTask) :
    (removeTimerForAbilityStartCompletedCheck pid handler).filter
      (fun task => task.taskName = abilityStartTaskName pid) = [] := by
  rw [removeTimerForAbilityStartCompletedCheck, List.filter_filter, List.filter_eq_nil_iff]
  intro task _
  simp

namespace ReclaimPriorityManager

/-- Each start has its timer as long as no start comes up and no timer changes. -/
theorem StartsTimed.of_startsFrom (h : s.StartsTimed) (hStarts : StartsFrom SameUid s s₁)
    (hTimers : s₁.timersOf = s.timersOf) : s₁.StartsTimed := by
  intro bundle pid after hTracks hStarting
  obtain ⟨before, hBefore, hStart, hUid⟩ := hStarts bundle pid after hTracks hStarting
  rw [hTimers, h bundle pid before hBefore hStart, abilityStartTask, abilityStartTask, hUid]

/-- An operation keeps the tasks and the starts together, while each pid stands for one process. -/
theorem StartsTimed.step (h : s.StartsTimed) (hUnique : s.PidsUnique) (hEffect : StartEffect s s₁) :
    s₁.StartsTimed := by
  cases hEffect with
  | quiet hStarts hTimers => exact h.of_startsFrom (hStarts.mono And.left) hTimers
  | finished bundle pid hTracked hStarts hDone hHandler =>
      intro other key after hTracks hStarting
      obtain ⟨before, hBefore, hStart, hUid, -⟩ := hStarts other key after hTracks hStarting
      have hNe : key ≠ pid := by
        intro hKey
        subst hKey
        obtain rfl := hUnique other bundle key ⟨before, hBefore⟩ hTracked
        rw [hDone after hTracks] at hStarting
        cases hStarting
      rw [timersOf_removed hNe hHandler, h other key before hBefore hStart, abilityStartTask,
        abilityStartTask, hUid]
  | begun bundle pid proc hTracked hStarts hRecord hHandler =>
      intro other key after hTracks hStarting
      by_cases hKey : key = pid
      · subst hKey
        have hOther : other = bundle := by
          by_contra hNe
          have hBefore := hStarts other key after hTracks (fun hBoth => hNe hBoth.1)
          exact hNe (hUnique other bundle key ⟨after, hBefore⟩ ⟨proc, hTracked⟩)
        subst hOther
        rw [timersOf, hHandler, setTimerForAbilityStartCompletedCheck, List.filter_append,
          timersOf_removeTimer, abilityStartTask, (hRecord after hTracks).1]
        simp [DelayedTask.taskName]
      · have hBefore := hStarts other key after hTracks (fun hBoth => hKey hBoth.2)
        have hNames := abilityStartTaskName_injective.ne hKey
        have hTimers : s₁.timersOf key =
            { s with handler := removeTimerForAbilityStartCompletedCheck pid s.handler }.timersOf key := by
          rw [timersOf, hHandler, setTimerForAbilityStartCompletedCheck, List.filter_append]
          simp [timersOf, DelayedTask.taskName, Ne.symm hNames]
        rw [hTimers, timersOf_removed hKey rfl, h other key after hBefore hStarting]

end ReclaimPriorityManager

namespace Service

/-- Up to the recomputation, a task starts nothing and posts nothing. -/
theorem prepare_task_quiet {op : Op} {prepared : Prepared} (hWf : WellFormed sys.manager)
    (hTask : op.isTask = true) (hPrepare : sys.prepare platform op = .ok prepared) :
    QuietChange SameStart sys.manager prepared.state := by
  cases preparedBy hPrepare with
  | startCompleted hTracks => exact startCompleted_quiet hWf hTracks
  | createDelayed hTracks => exact .refl _
  | unchanged => exact .refl _
  | _ => cases hTask

/-- The check of a start finds the process it was posted for and clears its flag. -/
theorem prepare_startCompleted {prepared : Prepared} (hWf : WellFormed sys.manager)
    (hTracks : sys.manager.TracksProc bundle pid proc)
    (hPrepare : sys.prepare platform (abilityStartTask pid proc).op = .ok prepared)
    {after : ProcessPriorityInfo} (hAfter : prepared.state.TracksProc bundle pid after) :
    after.isAbilityStarting = false := by
  obtain ⟨found, hFound, hPrepare⟩ := bind_eq_ok.mp hPrepare
  have hPid := ((hWf.covered bundle).record _ _ hTracks.2).pid
  have hSelf := hWf.lookupProc_self hTracks
  rw [hPid] at hSelf
  obtain rfl := Except.ok.inj (hSelf.symm.trans hFound)
  dsimp only at hPrepare
  split_ifs at hPrepare with hStarting
  · cases hPrepare
    subst hPid
    have hCleared : (sys.manager.setProc bundle { proc with isAbilityStarting := false }).TracksProc
      bundle proc.pid { proc with isAbilityStarting := false } := tracksProc_setProc hTracks
    obtain rfl := Option.some.inj (hCleared.2.symm.trans hAfter.2)
    rfl
  · cases hPrepare
    obtain rfl := Option.some.inj (hTracks.2.symm.trans hAfter.2)
    exact Bool.eq_false_iff.mpr hStarting

end Service

/-- Whatever the handler runs is the operation of a task. -/
theorem DelayedTask.op_isTask (task : DelayedTask) : task.op.isTask = true := by
  cases task <;> rfl

theorem WellFormed.taken (h : WellFormed sys.manager) (task : DelayedTask) :
    WellFormed (sys.taken task).manager := h.congr rfl rfl rfl rfl

/-- A process that is still starting after a task ran was not the one the task was for. -/
theorem ReclaimPriorityManager.StartsTimed.fired {prepared : Prepared} {after : ProcessPriorityInfo}
    (h : sys.manager.StartsTimed) (hWf : WellFormed sys.manager) (hTask : task ∈ sys.manager.handler)
    (hPrepare : (sys.taken task).prepare platform task.op = .ok prepared)
    (hTracks : prepared.state.TracksProc bundle pid after) (hStarting : after.isAbilityStarting = true) :
    task.taskName ≠ abilityStartTaskName pid ∧
      ∃ before, sys.manager.TracksProc bundle pid before ∧ before.isAbilityStarting = true ∧
        SameStart before after := by
  have hQuiet := Service.prepare_task_quiet (hWf.taken task) task.op_isTask hPrepare
  obtain ⟨before, hBefore, hStart, hSame⟩ := hQuiet.starts bundle pid after hTracks hStarting
  refine ⟨?_, before, hBefore, hStart, hSame⟩
  intro hName
  have hTimer : task ∈ sys.manager.timersOf pid := by
    rw [timersOf, List.mem_filter, decide_eq_true_eq]
    exact ⟨hTask, hName⟩
  rw [h bundle pid before hBefore hStart, List.mem_singleton] at hTimer
  subst hTimer
  have hDone := Service.prepare_startCompleted (hWf.taken _) hBefore hPrepare hTracks
  rw [hDone] at hStarting
  cases hStarting

/-- Taking one task off the list leaves the tasks under other names. -/
theorem timersOf_taken (hName : task.taskName ≠ abilityStartTaskName pid) :
    (sys.taken task).manager.timersOf pid = sys.manager.timersOf pid := by
  show (sys.manager.handler.erase task).filter _ = sys.manager.handler.filter _
  rw [← List.erase_filter, List.erase_of_not_mem]
  rw [List.mem_filter, decide_eq_true_eq]
  exact fun hMem => hName hMem.2

namespace Service

/-- Calls and timers that fire keep the state well formed. -/
theorem TimedStep.wellFormed {op : TimedOp} (hWf : WellFormed sys.manager)
    (hStep : TimedStep platform sys op sys') : WellFormed sys'.manager := by
  cases op with
  | call op => exact (hStep.2.effect hWf).wellFormed hWf
  | fire task => exact (hStep.2.effect (hWf.taken task)).wellFormed (hWf.taken task)

/-- After a call, and after a timer has fired, each start still has its one timer. -/
theorem TimedStep.startsTimed {op : TimedOp} (hWf : WellFormed sys.manager)
    (hUnique : sys.manager.PidsUnique) (h : sys.manager.StartsTimed)
    (hStep : TimedStep platform sys op sys') : sys'.manager.StartsTimed := by
  cases op with
  | call op =>
      obtain ⟨prepared, fuel, hPrepare, hFinish⟩ := hStep.2.prepared
      obtain ⟨hStarts, hHandler⟩ := finish_starts hWf hPrepare hFinish
      have hPrepared : prepared.state.StartsTimed := by
        cases hMoves : op.movesPriorities with
        | false => exact h.step hUnique (prepare_startEffect hWf hMoves hPrepare)
        | true =>
            have hMoved := prepare_moves hMoves hPrepare
            exact h.of_startsFrom hMoved.starts (timersOf_congr hMoved.handler)
      exact hPrepared.of_startsFrom hStarts (timersOf_congr hHandler)
  | fire task =>
      obtain ⟨hTask, hStep⟩ := hStep
      obtain ⟨prepared, fuel, hPrepare, hFinish⟩ := hStep.prepared
      obtain ⟨hStarts, hHandler⟩ := finish_starts (hWf.taken task) hPrepare hFinish
      have hQuiet := prepare_task_quiet (hWf.taken task) task.op_isTask hPrepare
      intro bundle pid after hTracks hStarting
      obtain ⟨middle, hMiddle, hStart, hUid⟩ := hStarts bundle pid after hTracks hStarting
      obtain ⟨hName, before, hBefore, hFirst, hSame⟩ := h.fired hWf hTask hPrepare hMiddle hStart
      calc sys'.manager.timersOf pid
          = (sys.taken task).manager.timersOf pid := by
            rw [timersOf_congr (hHandler.trans hQuiet.handler)]
        _ = sys.manager.timersOf pid := timersOf_taken hName
        _ = [abilityStartTask pid before] := h bundle pid before hBefore hFirst
        _ = [abilityStartTask pid after] := by
            rw [abilityStartTask, abilityStartTask, hUid, hSame.1]

/-- Once a task under the name of a pid has run, no process of that pid is starting. -/
theorem TimedStep.notStarting (hWf : WellFormed sys.manager) (h : sys.manager.StartsTimed)
    (hName : task.taskName = abilityStartTaskName pid)
    (hStep : TimedStep platform sys (.fire task) sys') : sys'.manager.NotStarting pid := by
  obtain ⟨hTask, hStep⟩ := hStep
  obtain ⟨prepared, fuel, hPrepare, hFinish⟩ := hStep.prepared
  obtain ⟨hStarts, -⟩ := finish_starts (hWf.taken task) hPrepare hFinish
  intro bundle after hTracks
  by_contra hStarting
  obtain ⟨middle, hMiddle, hStart, -⟩ := hStarts bundle pid after hTracks (Bool.not_eq_false _ ▸ hStarting)
  exact (h.fired hWf hTask hPrepare hMiddle hStart).1 hName

/-- In a run with its timers the state is well formed, and each start has its timer. -/
theorem TimedRun.invariant (run : TimedRun platform sys) :
    WellFormed sys.manager ∧ sys.manager.StartsTimed := by
  apply Execution.Run.invariant (fun sys => WellFormed sys.manager ∧ sys.manager.StartsTimed) run
  · constructor
    · exact .start platform
    · intro bundle pid proc hTracks
      exact absurd hTracks.1 (not_tracked_init platform bundle)
  · intro sys op sys' h hUnique hStep
    exact ⟨hStep.wellFormed h.1, hStep.startsTimed h.1 hUnique h.2⟩

/-- Each starting process has one pending task, which leads back to it, and the task
ends the start when it runs. -/
theorem start_timed (run : TimedRun platform sys) :
    (∀ bundle pid proc, sys.manager.TracksProc bundle pid proc → proc.isAbilityStarting = true →
      (sys.manager.handler.filter fun task => task.taskName = abilityStartTaskName pid) =
          [.checkAbilityStartCompleted (abilityStartTaskName pid) pid proc.uid
            (getOsAccountIdByUid proc.uid)] ∧
        sys.manager.lookupProc pid proc.uid (getOsAccountIdByUid proc.uid) =
          .ok (some (bundle, proc))) ∧
      ∀ task pid sys', task.taskName = abilityStartTaskName pid →
        TimedStep platform sys (.fire task) sys' → sys'.manager.NotStarting pid := by
  obtain ⟨hWf, hTimed⟩ := run.invariant
  constructor
  · intro bundle pid proc hTracks hStarting
    constructor
    · exact hTimed bundle pid proc hTracks hStarting
    · rw [← hWf.lookupProc_self hTracks, ((hWf.covered bundle).record _ _ hTracks.2).pid]
  · intro task pid sys' hName hStep
    exact hStep.notStarting hWf hTimed hName

/-- A run in which no task is called but through the handler is a run with it. -/
theorem TimedRun.of_run
    (run : Run platform (fun sys op => sys.manager.PidsUnique ∧ op.isTask = false) sys) :
    TimedRun platform sys := by
  induction run with
  | zero => exact .zero
  | succ prior hAllowed last ih =>
      have hCall : TimedStep platform _ (.call _) _ := ⟨hAllowed.2, last⟩
      exact .succ ih hAllowed.1 hCall

/-- A process in the background, which starts an ability twice. -/
def renewedStart : Service :=
  (Scenario.reached [Scenario.event .createProcess 1 20000001, Scenario.event .background 1 20000001,
    Scenario.event .abilityStart 1 20000001, Scenario.event .abilityStart 1 20000001]).get (by decide)

/-- One task waits for it, and nothing is starting after that. -/
theorem start_timed_renewedStart :
    renewedStart.manager.timersOf 1 =
        [.checkAbilityStartCompleted (abilityStartTaskName 1) 1 20000001 100] ∧
      ∀ sys', TimedStep Scenario.platform renewedStart
          (.fire (.checkAbilityStartCompleted (abilityStartTaskName 1) 1 20000001 100)) sys' →
        sys'.manager.NotStarting 1 := by
  have hRun : TimedRun Scenario.platform renewedStart :=
    TimedRun.of_run (Scenario.run_checked (by decide) (by decide))
  obtain ⟨hTimers, hFires⟩ := start_timed hRun
  constructor
  · have hTracked : renewedStart.manager.Tracked 0 := ⟨100, 20000001, by decide⟩
    have hStarting : (((renewedStart.manager.bundles 0).procs[(1 : Int)]?).get (by decide)).isAbilityStarting =
        true := by decide
    exact (hTimers 0 1 _ ⟨hTracked, by simp⟩ hStarting).1
  · exact fun sys' => hFires _ 1 sys' rfl

end Service
end MemMgr
