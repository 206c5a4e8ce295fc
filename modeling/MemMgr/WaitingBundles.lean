import MemMgr.BundleMembers
import MemMgr.SetOrder
import MemMgr.LowMemoryKiller
import MemMgr.Scenario

/-! The killer between the operations of the manager. It holds the lock to choose a
bundle and to set its state, but not to send the signals, so anything may happen
from one of its steps to the next. -/
namespace MemMgr

open Execution ReclaimPriorityManager BundlePriorityInfo ProcessPriorityInfo

/-- What `GetPidProcInfo` reads of a process. -/
structure ProcInfo where
  status : String
  size : Int

/-- What is found at one kill: the process, if it can be read, and whether `kill` succeeds. -/
structure KillAnswer where
  procInfo : Option ProcInfo
  killed : Bool

/-- The buffer counted as freed, and whether the process was sent the signal. -/
def killOneProcessByPid (answer : KillAnswer) : Int × Bool :=
  match answer.procInfo with
  | none => (0, false)
  | some procInfo =>
      if procInfo.status = "D" then (0, false)
      -- A signal that is refused is counted as well.
      else (procInfo.size, answer.killed)

namespace ReclaimPriorityManager

variable (s : ReclaimPriorityManager)

/-- The bundles that `killableFrom` meets and cannot copy. -/
def failedCopies (copySucceeds : Nat → Bool) (minPrio : Int) : List BundleRef → Nat → List BundleRef
  | [], _ => []
  | bundle :: bundles, position =>
      if (s.bundles bundle).priority < minPrio then []
      else if (s.bundles bundle).state = .stateWaitingForKill then
        failedCopies copySucceeds minPrio bundles (position + 1)
      else if copySucceeds position then []
      else bundle :: failedCopies copySucceeds minPrio bundles (position + 1)

/-- The processes killed at once, by uid and pid. -/
def quickKills (copySucceeds : Nat → Bool) (minPrio : Int) : List (Int × Int) :=
  (s.failedCopies copySucceeds minPrio s.prioList.reverse 0).flatMap fun bundle =>
    (s.bundles bundle).procs.toList.map fun entry => ((s.bundles bundle).uid, entry.2.pid)

/-- The bundle is chosen once nothing before it can be copied. -/
def Offered (bundle : BundleRef) : Prop :=
  ∃ copySucceeds, (s.getOneKillableBundle copySucceeds reclaimPriorityMin).1 =
    some (s.bundles bundle).copy

end ReclaimPriorityManager

/-- Where `KillOneBundleByPrio` stands: the copy it works on and the pids still to be killed. -/
inductive KillerPhase where
  | idle
  | killing (bundle : BundlePriorityInfo) (pids : List Int)

/-- The manager, the killer, and the processes that were sent the signal since they were
created, by uid and pid. -/
structure KillerSystem where
  service : Service
  phase : KillerPhase
  freedBuf : Int
  signalled : List (Int × Int)

/-- The operations of the framework. Only the killer sets states. -/
def Op.isProcessEvent : Op → Bool
  | .setBundleState _ _ _ => false
  | .osAccountsChanged _ _ _ => false
  | _ => true

inductive KillerAction where
  | event (op : Op) (hEvent : op.isProcessEvent = true)
  | getOneKillableBundle (minPrio : Int) (copySucceeds : Nat → Bool) (quick : Int × Int → KillAnswer)
      (systemCurTime : Int)
  | killOneProcessByPid (answer : KillAnswer)
  | setBundleState

namespace KillerSystem

variable (platform : Platform) (fuel : Nat)

def init : KillerSystem := ⟨.init platform, .idle, 0, []⟩

/-- One action. The killer leaves out what is not its turn. -/
def act (k : KillerSystem) : KillerAction → Except Fault KillerSystem
  | .event op _ => do
      let service ← k.service.exec platform fuel op
      return { k with
        service := service
        -- A new process was sent nothing yet.
        signalled := k.signalled.filter fun process =>
          op.created.map (fun target => (target.uid, target.pid)) ≠ some process }
  | .getOneKillableBundle minPrio copySucceeds quick systemCurTime =>
      match k.phase with
      | .killing _ _ => .ok k
      | .idle =>
          let s := k.service.manager
          let signalled := (s.quickKills copySucceeds minPrio).filter fun process =>
            (killOneProcessByPid (quick process)).2
          let k := { k with freedBuf := 0, signalled := signalled ++ k.signalled }
          match (s.getOneKillableBundle copySucceeds minPrio).1 with
          | none => .ok k
          | some bundle =>
              if bundle.priority < minPrio then .ok k
              else if systemCurTime - bundle.createTime < notToKillDuring then .ok k
              else if bundle.state = .stateWaitingForKill then .ok k
              else .ok { k with phase := .killing bundle bundle.procs.keys }
  | .killOneProcessByPid answer =>
      match k.phase with
      | .killing bundle (pid :: pids) =>
          let (freed, sent) := MemMgr.killOneProcessByPid answer
          .ok { k with
            phase := .killing bundle pids
            freedBuf := k.freedBuf + freed
            signalled := if sent then (bundle.uid, pid) :: k.signalled else k.signalled }
      | _ => .ok k
  | .setBundleState =>
      match k.phase with
      | .killing bundle [] =>
          .ok { k with
            service := k.service.withManager
              (k.service.manager.setBundleState bundle.accountId bundle.uid .stateWaitingForKill)
            phase := .idle }
      | _ => .ok k

def Step (k : KillerSystem) (action : KillerAction) (k' : KillerSystem) : Prop :=
  ∃ fuel, k.act platform fuel action = .ok k'

abbrev Run (allowed : KillerSystem → KillerAction → Prop) : KillerSystem → Prop :=
  Execution.Run (Step platform) allowed (init platform)

/-- A bundle that waits for its end holds only processes that were sent the signal. -/
def OnlySignalledWait (k : KillerSystem) : Prop :=
  ∀ bundle pid proc, k.service.manager.TracksProc bundle pid proc →
    (k.service.manager.bundles bundle).state = .stateWaitingForKill →
    ((k.service.manager.bundles bundle).uid, pid) ∈ k.signalled

/-- A bundle with a process that was not sent the signal can be chosen. -/
def NoneHidden (k : KillerSystem) : Prop :=
  ∀ bundle pid proc, k.service.manager.TracksProc bundle pid proc →
    ((k.service.manager.bundles bundle).uid, pid) ∉ k.signalled → k.service.manager.Offered bundle

/-- No process joins a bundle that waits, and the killer lets a bundle wait when every process
in it by then was sent the signal. -/
def KillsAll (k : KillerSystem) : KillerAction → Prop
  | .event op _ => ∀ target, op.created = some target → ∀ bundle,
      k.service.manager.findBundle target.uid (getOsAccountIdByUid target.uid) = some bundle →
        (k.service.manager.bundles bundle).state ≠ .stateWaitingForKill
  | .setBundleState => ∀ copied, k.phase = .killing copied [] → ∀ bundle,
      k.service.manager.findBundle copied.uid copied.accountId = some bundle → ∀ (pid : Int) proc,
        (k.service.manager.bundles bundle).procs[pid]? = some proc → (copied.uid, pid) ∈ k.signalled
  | _ => True

end KillerSystem

variable {platform : Platform} {s : ReclaimPriorityManager} {bundle : BundleRef}

namespace ReclaimPriorityManager

/-- The pids are those `killableFrom` returns. -/
theorem killableFrom_killed (copySucceeds : Nat → Bool) (minPrio : Int) (bundles : List BundleRef)
    (position : Nat) : (s.killableFrom copySucceeds minPrio bundles position).2 =
      (s.failedCopies copySucceeds minPrio bundles position).flatMap fun bundle =>
        (s.bundles bundle).procs.toList.map fun entry => entry.2.pid := by
  induction bundles generalizing position with
  | nil => rfl
  | cons bundle bundles ih =>
      rw [killableFrom, failedCopies]
      dsimp only
      split_ifs
      · rfl
      · exact ih (position + 1)
      · rfl
      · rw [List.flatMap_cons, ← ih (position + 1)]

theorem quickKills_pids (copySucceeds : Nat → Bool) (minPrio : Int) :
    (s.quickKills copySucceeds minPrio).map Prod.snd =
      (s.getOneKillableBundle copySucceeds minPrio).2 := by
  rw [quickKills, getOneKillableBundle, killableFrom_killed, List.map_flatMap]
  simp only [List.map_map, Function.comp_def]

theorem killableFrom_at {minPrio : Int} (hAbove : ∀ bundle, minPrio ≤ (s.bundles bundle).priority)
    (hState : (s.bundles bundle).state ≠ .stateWaitingForKill) (before after : List BundleRef)
    (position : Nat) : (s.killableFrom (fun index => index == position + before.length) minPrio
      (before ++ bundle :: after) position).1 = some (s.bundles bundle).copy := by
  induction before generalizing position with
  | nil =>
      rw [List.nil_append, killableFrom]
      simp [not_lt.mpr (hAbove bundle), hState]
  | cons first before ih =>
      have hNext := ih (position + 1)
      have hShift : position + (first :: before).length = position + 1 + before.length := by
        rw [List.length_cons]
        omega
      have hLater : (position == position + 1 + before.length) = false := by
        rw [beq_eq_false_iff_ne]
        omega
      rw [List.cons_append, killableFrom, hShift]
      dsimp only
      rw [if_neg (not_lt.mpr (hAbove first))]
      simp only [hLater, Bool.false_eq_true, ↓reduceIte]
      split_ifs
      · exact hNext
      · exact hNext

/-- Every bundle of the set that does not wait can be chosen. -/
theorem offered_of_mem (hWf : WellFormed s) (hMem : bundle ∈ s.prioList)
    (hState : (s.bundles bundle).state ≠ .stateWaitingForKill) : s.Offered bundle := by
  obtain ⟨before, after, hList⟩ := List.append_of_mem (List.mem_reverse.mpr hMem)
  refine ⟨fun index => index == 0 + before.length, ?_⟩
  rw [getOneKillableBundle, hList]
  exact killableFrom_at (fun bundle => (hWf.covered bundle).least) hState before after 0

end ReclaimPriorityManager

namespace KillerSystem

variable {k k' : KillerSystem} {action : KillerAction}

/-- The manager takes steps of its own, and one for every state that is set. -/
theorem Step.service (hStep : Step platform k action k') : k'.service = k.service ∨
    ∃ op, Service.noAccountSwitch k.service op ∧ Service.Step platform k.service op k'.service := by
  obtain ⟨fuel, hAct⟩ := hStep
  cases action with
  | event op hEvent =>
      obtain ⟨service, hExec, hReturn⟩ := bind_eq_ok.mp hAct
      cases hReturn
      apply Or.inr
      refine ⟨op, ?_, fuel, hExec⟩
      cases op <;> trivial
  | getOneKillableBundle minPrio copySucceeds quick systemCurTime =>
      rw [act] at hAct
      split at hAct
      · cases hAct
        exact Or.inl rfl
      · dsimp only at hAct
        split at hAct
        · cases hAct
          exact Or.inl rfl
        · split_ifs at hAct <;> cases hAct <;> exact Or.inl rfl
  | killOneProcessByPid answer =>
      rw [act] at hAct
      split at hAct <;> cases hAct <;> exact Or.inl rfl
  | setBundleState =>
      rw [act] at hAct
      split at hAct
      · cases hAct
        exact Or.inr ⟨.setBundleState _ _ _, trivial, fuel, rfl⟩
      · cases hAct
        exact Or.inl rfl

theorem Run.service {allowed : KillerSystem → KillerAction → Prop} (run : Run platform allowed k) :
    Service.Run platform Service.noAccountSwitch k.service := by
  apply Execution.Run.invariant (fun k => Service.Run platform Service.noAccountSwitch k.service) run
  · exact .zero
  · intro k action k' before _ hStep
    rcases hStep.service with hSame | ⟨op, hOp, hLast⟩
    · rw [hSame]
      exact before
    · exact .succ before hOp hLast

theorem stored (hWf : WellFormed k.service.manager) {pid : Int} {proc : ProcessPriorityInfo}
    (hTracks : k.service.manager.TracksProc bundle pid proc) :
    k.service.manager.findBundle (k.service.manager.bundles bundle).uid
      (getOsAccountIdByUid (k.service.manager.bundles bundle).uid) = some bundle := by
  obtain ⟨accountId, uid, hFind⟩ := hTracks.1
  obtain ⟨hUid, rfl⟩ := hWf.stored hFind
  rw [hUid]
  exact hFind

namespace OnlySignalledWait

/-- Signals are only added. -/
theorem signal (h : k.OnlySignalledWait) (hManager : k'.service.manager = k.service.manager)
    (hSignalled : k.signalled ⊆ k'.signalled) : k'.OnlySignalledWait := by
  intro bundle pid proc hTracks hState
  rw [hManager] at hTracks hState ⊢
  exact hSignalled (h bundle pid proc hTracks hState)

theorem noneJoins (h : k.OnlySignalledWait) (hSame : NoneJoins k.service.manager k'.service.manager)
    (hSignalled : k'.signalled = k.signalled) : k'.OnlySignalledWait := by
  intro bundle pid proc hTracks hState
  rw [hSame.state bundle] at hState
  rw [hSame.uid bundle, hSignalled]
  cases hBefore : (k.service.manager.bundles bundle).procs[pid]? with
  | none => exact absurd ((hSame.absent hBefore).symm.trans hTracks.2) (by simp)
  | some before => exact h bundle pid before ⟨hSame.tracked hTracks.1, hBefore⟩ hState

/-- The target joins a bundle that does not wait, and its bundle is the only one of its uid. -/
theorem joins (h : k.OnlySignalledWait) (hWf : WellFormed k.service.manager) {target : ReqProc}
    (hJoins : Joins target k.service.manager k'.service.manager)
    (hSignalled : ∀ process ∈ k.signalled, process ≠ (target.uid, target.pid) → process ∈ k'.signalled)
    (hState : ∀ bundle, k.service.manager.findBundle target.uid (getOsAccountIdByUid target.uid) =
      some bundle → (k.service.manager.bundles bundle).state ≠ .stateWaitingForKill) :
    k'.OnlySignalledWait := by
  intro bundle pid proc hTracks hWaits
  by_cases hOwn : k.service.manager.findBundle target.uid (getOsAccountIdByUid target.uid) = some bundle
  · obtain ⟨-, -, hSame, -⟩ := hJoins.own hOwn
    exact absurd (hSame.symm.trans hWaits) (hState bundle hOwn)
  · rcases hJoins.others hTracks.1 hOwn with ⟨hTracked, hSame⟩ | hDefault
    · have hProc := hTracks.2
      rw [hSame] at hProc hWaits ⊢
      have hBefore : k.service.manager.TracksProc bundle pid proc := ⟨hTracked, hProc⟩
      apply hSignalled _ (h bundle pid proc hBefore hWaits)
      intro hIs
      have hStored := stored hWf hBefore
      rw [(Prod.mk.inj hIs).1] at hStored
      exact hOwn hStored
    · rw [hDefault] at hWaits
      cases hWaits

theorem waits (h : k.OnlySignalledWait) (hWf : WellFormed k.service.manager) {uid accountId : Int}
    (hManager : k'.service.manager = k.service.manager.setBundleState accountId uid .stateWaitingForKill)
    (hSignalled : k'.signalled = k.signalled)
    (hAll : ∀ bundle, k.service.manager.findBundle uid accountId = some bundle → ∀ (pid : Int) proc,
      (k.service.manager.bundles bundle).procs[pid]? = some proc → (uid, pid) ∈ k.signalled) :
    k'.OnlySignalledWait := by
  intro bundle pid proc hTracks hWaits
  rw [setBundleState] at hManager
  cases hFind : k.service.manager.findBundle uid accountId with
  | none =>
      rw [hFind] at hManager
      rw [hManager] at hTracks hWaits ⊢
      rw [hSignalled]
      exact h bundle pid proc hTracks hWaits
  | some marked =>
      rw [hFind] at hManager
      rw [hManager] at hTracks hWaits ⊢
      have hTracked : k.service.manager.Tracked bundle := (tracked_congr rfl).mp hTracks.1
      have hProc := hTracks.2
      rw [hSignalled]
      dsimp only at hProc hWaits ⊢
      rw [modifyBundle_bundles, Function.update_apply] at hProc hWaits ⊢
      split_ifs at hProc hWaits ⊢ with hIs
      · have hUid : (k.service.manager.bundles marked).uid = uid := (hWf.stored hFind).1
        rw [hUid]
        exact hAll marked hFind pid proc hProc
      · exact h bundle pid proc ⟨hTracked, hProc⟩ hWaits

end OnlySignalledWait

theorem Step.onlySignalledWait (hWf : WellFormed k.service.manager) (h : k.OnlySignalledWait)
    (hStep : Step platform k action k') (hAll : k.KillsAll action) : k'.OnlySignalledWait := by
  obtain ⟨fuel, hAct⟩ := hStep
  cases action with
  | event op hEvent =>
      obtain ⟨service, hExec, hReturn⟩ := bind_eq_ok.mp hAct
      have hOp : Service.Step platform k.service op service := ⟨fuel, hExec⟩
      cases hReturn
      cases hCreated : op.created with
      | none =>
          have hState : op.setsState = false := by
            cases op <;> first | rfl | cases hEvent
          apply h.noneJoins (hOp.noneJoins hWf hCreated hState)
          simp
      | some target =>
          apply h.joins hWf (hOp.joins hWf hCreated) _ (hAll target hCreated)
          intro process hProcess hNe
          simp [hProcess, hNe.symm]
  | getOneKillableBundle minPrio copySucceeds quick systemCurTime =>
      rw [act] at hAct
      split at hAct
      · cases hAct
        exact h
      · dsimp only at hAct
        split at hAct
        · cases hAct
          exact h.signal rfl (List.subset_append_right _ _)
        · split_ifs at hAct <;> cases hAct <;> exact h.signal rfl (List.subset_append_right _ _)
  | killOneProcessByPid answer =>
      rw [act] at hAct
      split at hAct
      · cases hAct
        refine OnlySignalledWait.signal h rfl ?_
        dsimp only
        split_ifs
        · exact List.subset_cons_self _ _
        · exact List.Subset.refl _
      · cases hAct
        exact h
  | setBundleState =>
      rw [act] at hAct
      split at hAct
      · rename_i copied hPhase
        cases hAct
        exact h.waits hWf rfl rfl (hAll copied hPhase)
      · cases hAct
        exact h

/-- A step that does not meet the condition is seen afterwards. -/
theorem Step.killsAll (hWf : WellFormed k.service.manager) (hStep : Step platform k action k')
    (h : k'.OnlySignalledWait) : k.KillsAll action := by
  obtain ⟨fuel, hAct⟩ := hStep
  cases action with
  | event op hEvent =>
      obtain ⟨service, hExec, hReturn⟩ := bind_eq_ok.mp hAct
      have hOp : Service.Step platform k.service op service := ⟨fuel, hExec⟩
      cases hReturn
      intro target hCreated bundle hFind hWaits
      obtain ⟨hTracked, hUid, hState, proc, hProc⟩ := (hOp.joins hWf hCreated).own hFind
      have hSignalled := h bundle target.pid proc ⟨hTracked, hProc⟩ (hState.trans hWaits)
      dsimp only at hSignalled
      rw [hUid, (hWf.stored hFind).1] at hSignalled
      simp [hCreated] at hSignalled
  | setBundleState =>
      intro copied hPhase bundle hFind pid proc hProc
      rw [act, hPhase] at hAct
      cases hAct
      have hUid : (k.service.manager.bundles bundle).uid = copied.uid := (hWf.stored hFind).1
      have hMarked : (k.service.withManager (k.service.manager.setBundleState copied.accountId copied.uid
          .stateWaitingForKill)).manager = k.service.manager.modifyBundle bundle
            fun info => { info with state := .stateWaitingForKill } := by
        rw [Service.withManager, setBundleState, hFind]
      have hSignalled := h bundle pid proc
      dsimp only at hSignalled
      rw [hMarked, modifyBundle_bundles, Function.update_self, hUid] at hSignalled
      apply hSignalled
      · constructor
        · exact (tracked_congr rfl).mpr ⟨_, _, hFind⟩
        · rw [modifyBundle_bundles, Function.update_self]
          exact hProc
      · rfl
  | _ => trivial

/-- The condition is exact, step by step. -/
theorem Step.onlySignalledWait_iff (hWf : WellFormed k.service.manager) (h : k.OnlySignalledWait)
    (hStep : Step platform k action k') : k'.OnlySignalledWait ↔ k.KillsAll action :=
  ⟨hStep.killsAll hWf, hStep.onlySignalledWait hWf h⟩

theorem Run.onlySignalledWait (run : Run platform KillsAll k) : k.OnlySignalledWait := by
  have hBoth : WellFormed k.service.manager ∧ k.OnlySignalledWait := by
    apply Execution.Run.invariant (fun k => WellFormed k.service.manager ∧ k.OnlySignalledWait) run
    · constructor
      · exact .start platform
      · intro bundle pid proc hTracks
        exact absurd hTracks.1 (not_tracked_init platform bundle)
    · intro k action k' h hAll hStep
      refine ⟨?_, (hStep.onlySignalledWait_iff h.1 h.2).mpr hAll⟩
      rcases hStep.service with hSame | ⟨op, -, hOp⟩
      · rw [hSame]
        exact h.1
      · exact (hOp.effect h.1).wellFormed h.1
  exact hBoth.2

/-- While every step meets the condition, only bundles whose processes were all sent the signal
wait, and no other one is hidden. -/
theorem Run.waiting_signalled (run : Run platform KillsAll k) : k.OnlySignalledWait ∧ k.NoneHidden := by
  have hWaits := run.onlySignalledWait
  obtain ⟨hWf, hOrdered⟩ := Service.setOrdered_of_run run.service (.start platform) (.start platform)
  refine ⟨hWaits, fun bundle pid proc hTracks hNot => ?_⟩
  apply offered_of_mem hWf ((hOrdered.exact bundle).mpr hTracks.1)
  exact fun hState => hNot (hWaits bundle pid proc hTracks hState)

/-- One action after the other, as long as each is allowed. -/
def actAll (platform : Platform) (fuel : Nat) (allowed : KillerSystem → KillerAction → Prop)
    [∀ k action, Decidable (allowed k action)] : List KillerAction → KillerSystem → Option KillerSystem
  | [], k => some k
  | action :: actions, k =>
      if allowed k action then
        match k.act platform fuel action with
        | .ok next => actAll platform fuel allowed actions next
        | .error _ => none
      else none

theorem run_of_actAll {fuel : Nat} {allowed : KillerSystem → KillerAction → Prop}
    [∀ k action, Decidable (allowed k action)] {actions : List KillerAction} {start : KillerSystem}
    (prior : Run platform allowed start)
    (hActs : actAll platform fuel allowed actions start = some k) :
    Run platform allowed k := by
  induction actions generalizing start with
  | nil =>
      cases hActs
      exact prior
  | cons action actions ih =>
      rw [actAll] at hActs
      split at hActs
      · rename_i hAllowed
        split at hActs
        · rename_i next hAct
          exact ih (.succ prior hAllowed ⟨fuel, hAct⟩) hActs
        · cases hActs
      · cases hActs

/-- Nothing but the kills of a round. -/
theorem killAll_acts {fuel : Nat} {copied : BundlePriorityInfo} (pids : List Int)
    (answers : List KillAnswer) (hLength : answers.length = pids.length)
    (hPhase : k.phase = .killing copied pids) :
    ∃ k', actAll platform fuel (fun _ _ => True) (answers.map .killOneProcessByPid) k =
      some k' ∧ k'.phase = .killing copied [] ∧ k'.service = k.service := by
  induction pids generalizing answers k with
  | nil =>
      obtain rfl := List.length_eq_zero_iff.mp hLength
      exact ⟨k, rfl, hPhase, rfl⟩
  | cons pid pids ih =>
      obtain ⟨answer, answers, rfl⟩ := List.exists_cons_of_length_eq_add_one hLength
      rw [List.map_cons, actAll, if_pos trivial, act, hPhase]
      exact ih answers (Nat.succ.inj hLength) rfl

theorem actAll_append {fuel : Nat} {allowed : KillerSystem → KillerAction → Prop}
    [∀ k action, Decidable (allowed k action)] (first second : List KillerAction) (k : KillerSystem) :
    actAll platform fuel allowed (first ++ second) k =
      (actAll platform fuel allowed first k).bind
        (actAll platform fuel allowed second) := by
  induction first generalizing k with
  | nil => rfl
  | cons action first ih =>
      rw [List.cons_append, actAll, actAll]
      split_ifs
      · cases k.act platform fuel action with
        | error fault => rfl
        | ok next => exact ih next
      · rfl

theorem idle_acts {fuel : Nat} (answers : List KillAnswer) (hIdle : k.phase = .idle) :
    actAll platform fuel (fun _ _ => True)
      (answers.map .killOneProcessByPid ++ [.setBundleState]) k = some k := by
  induction answers with
  | nil =>
      rw [List.map_nil, List.nil_append, actAll, if_pos trivial, act, hIdle]
      rfl
  | cons answer answers ih =>
      rw [List.map_cons, List.cons_append, actAll, if_pos trivial, act, hIdle]
      exact ih

/-- The kills of a round, and the state that is set in the end. -/
theorem killAndMark_acts {fuel : Nat} {copied : BundlePriorityInfo} (answers : List KillAnswer)
    (hLength : answers.length = copied.procs.keys.length)
    (hPhase : k.phase = .killing copied copied.procs.keys) :
    ∃ k', actAll platform fuel (fun _ _ => True)
        (answers.map .killOneProcessByPid ++ [.setBundleState]) k = some k' ∧ k'.phase = .idle ∧
      k'.service.manager =
        k.service.manager.setBundleState copied.accountId copied.uid .stateWaitingForKill := by
  obtain ⟨killed, hKilled, hDone, hService⟩ := @killAll_acts platform k fuel copied
    copied.procs.keys answers hLength hPhase
  rw [actAll_append, hKilled, Option.bind_some, actAll, if_pos trivial, act, hDone]
  apply Exists.intro
  refine ⟨rfl, rfl, ?_⟩
  rw [Service.withManager, hService]

/-- A round that nothing interrupts is the killer's own. -/
theorem killOneBundleByPrio_acts {fuel : Nat} (event : PressureEvent) (round : Nat) (minPrio : Int)
    (quick : Int × Int → KillAnswer) (answers : List KillAnswer) (killer : KillerState)
    (hIdle : k.phase = .idle) (hManager : k.service.manager = killer.manager)
    (hAnswers : ∀ found, (killer.manager.getOneKillableBundle (event.copyBundle round) minPrio).1 =
      some found → answers.length = found.procs.keys.length) :
    ∃ k', actAll platform fuel (fun _ _ => True)
        (.getOneKillableBundle minPrio (event.copyBundle round) quick (event.getSystemCurTime round) ::
          (answers.map .killOneProcessByPid ++ [.setBundleState])) k = some k' ∧ k'.phase = .idle ∧
      k'.service.manager = (LowMemoryKiller.killOneBundleByPrio event round minPrio killer).1.manager := by
  have hQuick : ∀ (pids : List Int) (killer : KillerState),
      (LowMemoryKiller.killAll event pids killer).1.manager = killer.manager := by
    intro pids killer
    rw [LowMemoryKiller.killAll_eq]
  rw [actAll, if_pos trivial, act, hIdle]
  dsimp only
  rw [hManager, LowMemoryKiller.killOneBundleByPrio]
  rcases hFound : killer.manager.getOneKillableBundle (event.copyBundle round) minPrio with
    ⟨found, quickly⟩
  have hCount := hAnswers
  rw [hFound] at hCount
  dsimp only
  cases found with
  | none => exact ⟨_, idle_acts answers rfl, rfl, hManager.trans (hQuick _ _).symm⟩
  | some copied =>
      dsimp only
      split_ifs
      · exact ⟨_, idle_acts answers rfl, rfl, hManager.trans (hQuick _ _).symm⟩
      · exact ⟨_, idle_acts answers rfl, rfl, hManager.trans (hQuick _ _).symm⟩
      · exact ⟨_, idle_acts answers rfl, rfl, hManager.trans (hQuick _ _).symm⟩
      · generalize List.filter _ _ ++ k.signalled = signalled
        obtain ⟨k', hActs, hPhase, hMarked⟩ := @killAndMark_acts platform
          ⟨k.service, .killing copied copied.procs.keys, 0, signalled⟩ fuel copied answers
          (hCount copied rfl) rfl
        refine ⟨k', hActs, hPhase, ?_⟩
        rw [hMarked, hManager, hQuick, hQuick]

instance (k : KillerSystem) (action : KillerAction) : Decidable (k.KillsAll action) :=
  match action with
  | .event op _ => decidable_of_iff (∀ target ∈ op.created, ∀ bundle ∈ k.service.manager.findBundle
      target.uid (getOsAccountIdByUid target.uid),
        (k.service.manager.bundles bundle).state ≠ .stateWaitingForKill) Iff.rfl
  | .setBundleState =>
      match hPhase : k.phase with
      | .killing copied [] => decidable_of_iff (∀ bundle ∈ k.service.manager.findBundle copied.uid
          copied.accountId, ∀ entry ∈ (k.service.manager.bundles bundle).procs.toList,
            (copied.uid, entry.1) ∈ k.signalled) <| by
          simp only [KillsAll, hPhase, KillerPhase.killing.injEq, and_true, forall_eq', Prod.forall,
            Std.ExtTreeMap.mem_toList_iff_getElem?_eq_some, Option.mem_def]
      | .killing copied (pid :: pids) => isTrue (by simp [KillsAll, hPhase])
      | .idle => isTrue (by simp [KillsAll, hPhase])
  | .getOneKillableBundle _ _ _ _ => isTrue trivial
  | .killOneProcessByPid _ => isTrue trivial

/-- One process in the background, killed with this answer. -/
def killed (answer : KillAnswer) : List KillerAction :=
  [.event (Scenario.event .createProcess 1 20000001) rfl, .event (Scenario.event .background 1 20000001) rfl,
    .getOneKillableBundle 400 (fun _ => true) (fun _ => answer) 10, .killOneProcessByPid answer,
    .setBundleState]

/-- A sleeping process gets its signal. -/
def sleepingKilled : KillerSystem :=
  (actAll Scenario.platform 40 KillsAll (killed ⟨some ⟨"S", 100⟩, true⟩)
    (init Scenario.platform)).get (by decide)

theorem waiting_signalled_sleeping :
    (sleepingKilled.service.manager.bundles 0).state = .stateWaitingForKill ∧
      sleepingKilled.OnlySignalledWait ∧ sleepingKilled.NoneHidden :=
  ⟨by decide, Run.waiting_signalled (run_of_actAll .zero (Option.some_get _).symm)⟩

/-- A process in state D is left out, and its bundle waits all the same. -/
def blockedLeftOut : KillerSystem :=
  (actAll Scenario.platform 40 (fun _ _ => True) (killed ⟨some ⟨"D", 100⟩, true⟩)
    (init Scenario.platform)).get (by decide)

theorem waiting_unsignalled_blocked : ∃ k : KillerSystem,
    Run Scenario.platform (fun _ _ => True) k ∧ ¬ (k.OnlySignalledWait ∧ k.NoneHidden) := by
  refine ⟨blockedLeftOut, run_of_actAll .zero (Option.some_get _).symm, fun hBoth => ?_⟩
  have hSignalled := hBoth.1 0 1 _ ⟨⟨100, 20000001, by decide⟩, (Option.some_get (by decide)).symm⟩
    (by decide)
  exact absurd hSignalled (by decide)

end KillerSystem
end MemMgr
