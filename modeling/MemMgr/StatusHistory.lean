import Mathlib.Data.List.DropRight
import MemMgr.StatusNotices

/-! What is known of a process in terms of the notices it was ever given: whether it is known
at all, and each of its flags. -/
namespace MemMgr

open Execution ReclaimPriorityManager ProcessPriorityInfo

section LastTold

variable {α : Type*} {answer : α → Option Bool} {log : List α} {entry : α}

/-- The last answer that a log gives, which is no before it gives any. -/
def lastTold (answer : α → Option Bool) (log : List α) : Bool :=
  (log.filterMap answer).getLast?.getD false

theorem lastTold_concat : lastTold answer (log ++ [entry]) = (answer entry).getD (lastTold answer log) := by
  rw [lastTold, lastTold, List.filterMap_append]
  cases hAnswer : answer entry <;> simp [hAnswer]

end LastTold

namespace StatusNotice

def tellsVisible : StatusNotice → Option Bool
  | .event .visible => some true
  | .event .unVisible => some false
  | _ => none

def tellsFreground : StatusNotice → Option Bool
  | .event .foreground => some true
  | .event .background => some false
  | .linked => some false
  | _ => none

def tellsBackgroundRunning : StatusNotice → Option Bool
  | .event .backgroundRunningStart => some true
  | .event .backgroundRunningEnd => some false
  | _ => none

def tellsSuspendDelay : StatusNotice → Option Bool
  | .event .suspendDelayStart => some true
  | .event .suspendDelayEnd => some false
  | _ => none

def tellsEventStart : StatusNotice → Option Bool
  | .event .eventStart => some true
  | .event .eventEnd => some false
  | _ => none

def tellsDistDeviceConnected : StatusNotice → Option Bool
  | .event .distDeviceConnected => some true
  | .event .distDeviceDisconnected => some false
  | _ => none

def tellsExtension : StatusNotice → Option Bool
  | .linked => some true
  | _ => none

def tellsUI : StatusNotice → Option Bool
  | .event .foreground => some true
  | .event .background => some true
  | _ => none

/-- Every flag is the last thing that was said of it. -/
def remembered (notices : List StatusNotice) : ProcessStatus where
  isVisible := lastTold tellsVisible notices
  isFreground := lastTold tellsFreground notices
  isBackgroundRunning := lastTold tellsBackgroundRunning notices
  isSuspendDelay := lastTold tellsSuspendDelay notices
  isEventStart := lastTold tellsEventStart notices
  isDistDeviceConnected := lastTold tellsDistDeviceConnected notices
  isExtension := lastTold tellsExtension notices
  hasUI := lastTold tellsUI notices

/-- The notices from the creation on that no end of the process follows. -/
def life (notices : List StatusNotice) : List StatusNotice :=
  (notices.rtakeWhile fun notice => notice ≠ gone).dropWhile fun notice => notice ≠ created

/-- A process is known once it is created, until its end. -/
def known (notices : List StatusNotice) : Option ProcessStatus :=
  if life notices = [] then none else some (remembered (life notices))

variable {notices : List StatusNotice} {reason : AppStateUpdateReason}

theorem remembered_nil : remembered [] = .untold := rfl

theorem remembered_created : remembered (notices ++ [created]) = remembered notices := by
  simp only [remembered, lastTold_concat]
  rfl

theorem remembered_event : remembered (notices ++ [event reason]) = (remembered notices).told reason := by
  simp only [remembered, lastTold_concat]
  cases reason <;> rfl

theorem remembered_linked : remembered (notices ++ [linked]) = (remembered notices).linked := by
  simp only [remembered, lastTold_concat]
  rfl

theorem life_gone : life (notices ++ [gone]) = [] := by
  rw [life, List.rtakeWhile_concat_neg _ _ _ (by simp)]
  rfl

theorem life_created : life (notices ++ [created]) = life notices ++ [created] := by
  rw [life, List.rtakeWhile_concat_pos _ _ _ (by simp), List.dropWhile_append, life]
  split_ifs with hEmpty
  · rw [List.isEmpty_iff.mp hEmpty]
    simp
  · rfl

theorem life_concat {notice : StatusNotice} (hGone : notice ≠ gone) (hCreated : notice ≠ created) :
    life (notices ++ [notice]) = if life notices = [] then [] else life notices ++ [notice] := by
  rw [life, List.rtakeWhile_concat_pos _ _ _ (by simpa using hGone), List.dropWhile_append, life]
  simp only [List.isEmpty_iff]
  split_ifs
  · simp [hCreated]
  · rfl

theorem known_concat_of_ne {notice : StatusNotice} (hGone : notice ≠ gone) (hCreated : notice ≠ created) :
    known (notices ++ [notice]) =
      (known notices).map fun _ => remembered (life notices ++ [notice]) := by
  rw [known, life_concat hGone hCreated, known]
  by_cases hNone : life notices = []
  · rw [if_pos hNone, if_pos rfl, if_pos hNone]
    rfl
  · rw [if_neg hNone, if_neg (by simp), if_neg hNone]
    rfl

/-- What is known after one more notice. -/
theorem known_concat (notice : StatusNotice) : known (notices ++ [notice]) = notice.hear (known notices) := by
  have hMap : ∀ change : ProcessStatus → ProcessStatus,
      (known notices).map (fun _ => change (remembered (life notices))) = (known notices).map change := by
    intro change
    rw [known]
    split_ifs <;> rfl
  cases notice with
  | gone => rw [known, life_gone, if_pos rfl, hear]
  | created =>
      rw [known, life_created, if_neg (by simp), remembered_created, known, hear]
      split_ifs with hNone
      · rw [hNone]
        rfl
      · rfl
  | event reason =>
      rw [known_concat_of_ne (by simp) (by simp), remembered_event]
      exact hMap fun status => status.told reason
  | linked =>
      rw [known_concat_of_ne (by simp) (by simp), remembered_linked]
      exact hMap ProcessStatus.linked

/-- An operation that may have told nothing. -/
theorem known_append_toList (notice : Option StatusNotice) :
    known (notices ++ notice.toList) = heard notice (known notices) := by
  cases notice with
  | none => rw [Option.toList_none, List.append_nil, heard]
  | some notice => exact known_concat notice

end StatusNotice

namespace Service

/-- Runs with what each of their operations tells a process. -/
abbrev NoticedTrace (platform : Platform) (process : Int × Int) :
    Service → List (Op × Option StatusNotice) → Service → Prop :=
  Execution.Trace (fun sys label sys' => Step platform sys label.1 sys')
    fun sys label => label.2 = sys.manager.noticeOf process label.1

variable {platform : Platform} {process : Int × Int} {labels : List (Op × Option StatusNotice)}
variable {sys : Service}

/-- A process is known in every run from its creation to its end, and each of its flags is the
last thing it was told about it. -/
theorem NoticedTrace.statusOf_eq_known
    (trace : NoticedTrace platform process (Service.init platform) labels sys) :
    sys.manager.statusOf process = StatusNotice.known (labels.filterMap Prod.snd) := by
  have hBoth := trace.invariant (fun labels sys => WellFormed sys.manager ∧
    sys.manager.statusOf process = StatusNotice.known (labels.filterMap Prod.snd))
  refine (hBoth ⟨.start platform, statusOf_of_untracked (not_tracked_init platform)⟩ ?_).2
  rintro labels sys label sys' ⟨hWf, hKnown⟩ hNotice hStep
  refine ⟨(hStep.effect hWf).wellFormed hWf, ?_⟩
  have hStatus : sys'.manager.statusOf process = _ := Step.statusOf hWf hStep
  rw [hStatus, ← hNotice, hKnown, ← StatusNotice.known_append_toList, List.filterMap_append]
  cases hLabel : label.2 <;> simp [hLabel]

end Service

namespace Scenario

/-- Some operations, and what they tell a process. -/
def withNotices (process : Int × Int) : List Op → Service → List (Op × Option StatusNotice)
  | [], _ => []
  | op :: ops, sys =>
      (op, sys.manager.noticeOf process op) ::
        match sys.exec platform 40 op with
        | .ok next => withNotices process ops next
        | .error _ => []

theorem noticedTrace_of_execAll {process : Int × Int} {ops : List Op} {start sys : Service}
    {labels : List (Op × Option StatusNotice)}
    (prior : Service.NoticedTrace platform process (Service.init platform) labels start)
    (hExec : Service.execAll platform 40 ops start = .ok sys) :
    Service.NoticedTrace platform process (Service.init platform)
      (labels ++ withNotices process ops start) sys := by
  induction ops generalizing start labels with
  | nil =>
      cases hExec
      rw [withNotices, List.append_nil]
      exact prior
  | cons op ops ih =>
      obtain ⟨next, hStep, hRest⟩ := Execution.bind_eq_ok.mp hExec
      have hNext : Service.NoticedTrace platform process (Service.init platform)
          (labels ++ [(op, start.manager.noticeOf process op)]) next := .snoc prior rfl ⟨40, hStep⟩
      have hTail := ih hNext hRest
      rw [List.append_assoc] at hTail
      rw [withNotices, hStep]
      exact hTail

/-- The first process is at the foreground, is visible, and goes to the background, while a second
one is connected to it and ends. -/
def historyOps : List Op :=
  [event .createProcess 1 20000001, event .foreground 1 20000001, event .createProcess 2 20000002,
    event .visible 1 20000001, bind 2 20000002 1 20000001, event .processTerminated 2 20000002,
    event .background 1 20000001]

theorem statusOf_eq_known_history : ∃ (sys : Service) (labels : List (Op × Option StatusNotice)),
    labels.filterMap Prod.snd = [.created, .event .foreground, .event .visible, .linked,
      .event .background] ∧
    sys.manager.statusOf (1, 20000001) = StatusNotice.known (labels.filterMap Prod.snd) ∧
    sys.manager.statusOf (1, 20000001) = some { ProcessStatus.untold with
      isVisible := true, isExtension := true, hasUI := true } := by
  have hTrace := @noticedTrace_of_execAll (1, 20000001) historyOps _ _ [] .nil
    (execAll_reached (by decide +kernel))
  have hNotices : (withNotices (1, 20000001) historyOps (Service.init platform)).filterMap Prod.snd =
      [.created, .event .foreground, .event .visible, .linked, .event .background] := by
    decide +kernel
  refine ⟨_, _, hNotices, hTrace.statusOf_eq_known, ?_⟩
  decide +kernel

end Scenario
end MemMgr
