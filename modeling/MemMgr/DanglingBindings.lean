import MemMgr.Termination

/-! What a terminated process leaves in the bindings of others. Its record goes with both of its
maps, and no other record is touched. -/
namespace MemMgr

open Execution ReclaimPriorityManager BundlePriorityInfo ProcessPriorityInfo

/-- The process is an end of one of the record's bindings. -/
def ProcessPriorityInfo.BoundWith (proc : ProcessPriorityInfo) (pid : Int) : Prop :=
  pid ∈ proc.procsBindToMe ∨ pid ∈ proc.procsBindFromMe

instance (proc : ProcessPriorityInfo) (pid : Int) : Decidable (proc.BoundWith pid) :=
  inferInstanceAs (Decidable (_ ∨ _))

namespace ReclaimPriorityManager

variable {platform : Platform} {s s' : ReclaimPriorityManager} {bundle other : BundleRef} {uid pid : Int}
variable {proc found : ProcessPriorityInfo}

/-- The priority a recomputation gives an extension. -/
def recomputedPriority (s : ReclaimPriorityManager) (proc : ProcessPriorityInfo) : Except Fault Int := do
  let minExtensionPriority ← s.minConnectorPriority connectorView proc.procsBindToMe.toList
    reclaimPriorityBackground
  return (extensionPriorityUpdate proc minExtensionPriority).priority

/-- Nothing tracked is bound with the process, and no extension is counted with it. -/
structure Unbound (s : ReclaimPriorityManager) (pid : Int) : Prop where
  bindings : ∀ bundle q proc, s.TracksProc bundle q proc → ¬ proc.BoundWith pid
  recomputed : ∀ bundle q proc, s.TracksProc bundle q proc →
    s.recomputedPriority proc = s.recomputedPriority (proc.procUnBindToMe pid)

/-- No process but this one is bound with it. -/
def BoundOnlyWithin (s : ReclaimPriorityManager) (bundle : BundleRef) (pid : Int) : Prop :=
  ∀ other q proc, s.TracksProc other q proc → (other = bundle → q ≠ pid) → ¬ proc.BoundWith pid

instance (s : ReclaimPriorityManager) (bundle : BundleRef) (pid : Int) :
    Decidable (s.BoundOnlyWithin bundle pid) :=
  inferInstanceAs (Decidable (∀ other q proc, s.TracksProc other q proc → _))

/-- To unbind a process that is not bound changes nothing. -/
theorem procUnBindToMe_eq_self (h : pid ∉ proc.procsBindToMe) : proc.procUnBindToMe pid = proc := by
  have hErase : proc.procsBindToMe.erase pid = proc.procsBindToMe := by
    apply Std.ExtTreeMap.ext_getElem?
    intro q
    rw [Std.ExtTreeMap.getElem?_erase]
    split_ifs with hSame
    · rw [← Std.LawfulEqCmp.compare_eq_iff_eq.mp hSame]
      exact (Std.ExtTreeMap.getElem?_eq_none_iff.mpr h).symm
    · rfl
  rw [procUnBindToMe, hErase]

/-- Without a binding there is nothing to count. -/
theorem unbound_iff : s.Unbound pid ↔ ∀ bundle q proc, s.TracksProc bundle q proc → ¬ proc.BoundWith pid := by
  constructor
  · exact Unbound.bindings
  · intro hBindings
    refine ⟨hBindings, fun bundle q proc hTracks => ?_⟩
    rw [procUnBindToMe_eq_self fun hBound => hBindings bundle q proc hTracks (Or.inl hBound)]

/-- A termination takes one record away. -/
theorem tracksProc_terminated (h : WellFormed s)
    (hFind : s.findBundle uid (getOsAccountIdByUid uid) = some bundle)
    (hProc : (s.bundles bundle).procs[pid]? = some proc) (other : BundleRef) (q : Int) :
    (s.handleTerminateProcess platform proc bundle (getOsAccountIdByUid uid)).1.TracksProc other q found ↔
      s.TracksProc other q found ∧ (other = bundle → q ≠ pid) := by
  obtain rfl : proc.pid = pid := ((h.covered bundle).record _ _ hProc).pid
  have hAfter := wellFormed_withoutProc h hFind hProc platform
  rw [handleTerminateProcess_eq, TracksProc, TracksProc, tracked_closeIfEmpty hAfter.accountId,
    closeIfEmpty_bundles, tracked_withoutProc h hFind, withoutProc_bundles]
  by_cases hIs : other = bundle
  · subst hIs
    have hLookup : ∀ changed : Prop, [Decidable changed] → (if changed then
          ((s.bundles other).removeProcByPid proc.pid).updatePriority
        else (s.bundles other).removeProcByPid proc.pid).procs[q]? =
        if proc.pid = q then none else (s.bundles other).procs[q]? := by
      intro changed _
      rw [← removeProcByPid_procs]
      split_ifs <;> rfl
    rw [Function.update_self, hLookup]
    constructor
    · rintro ⟨⟨hTracked, -⟩, hFound⟩
      split_ifs at hFound with hGone
      exact ⟨⟨hTracked, hFound⟩, fun _ hSame => hGone hSame.symm⟩
    · rintro ⟨⟨hTracked, hFound⟩, hNe⟩
      have hKept : ¬ proc.pid = q := fun hGone => hNe rfl hGone.symm
      refine ⟨⟨hTracked, fun hLast => ?_⟩, by rw [if_neg hKept]; exact hFound⟩
      have hNone := getProcsCount_eq_zero.mp hLast q
      rw [removeProcByPid_procs, if_neg hKept, hFound] at hNone
      cases hNone
  · rw [Function.update_of_ne hIs]
    simp [hIs]

end ReclaimPriorityManager

namespace Service

variable {platform : Platform} {sys : Service}

/-- The end of a process of an application leaves no binding with it exactly when no other
process was bound with it. -/
theorem Run.unbound_terminated_iff (run : Run platform anyOp sys) {request : UpdateRequest}
    {eventTime : Int} {services : Services} {bundle : BundleRef} {proc : ProcessPriorityInfo} (fuel : Nat)
    (hReason : request.reason = .processTerminated)
    (hFind : sys.manager.findBundle request.target.uid (getOsAccountIdByUid request.target.uid) =
      some bundle)
    (hProc : (sys.manager.bundles bundle).procs[request.target.pid]? = some proc)
    (hAbove : reclaimPriorityKillableSystem < (sys.manager.bundles bundle).priority) :
    ∃ sys', sys.exec platform fuel (.updateReclaimPriorityInner request eventTime services) = .ok sys' ∧
      (sys'.manager.Unbound request.target.pid ↔
        sys.manager.BoundOnlyWithin bundle request.target.pid) := by
  obtain ⟨sys', hExec, hManager⟩ :=
    @exec_terminated platform sys request eventTime services bundle proc fuel hReason hFind hProc
  rw [if_neg (not_le.mpr hAbove)] at hManager
  refine ⟨sys', hExec, ?_⟩
  rw [unbound_iff, hManager, BoundOnlyWithin]
  simp only [tracksProc_terminated run.wellFormed hFind hProc, and_imp]

end Service

namespace Scenario

/-- The first process is bound to an extension, the third one to nothing. -/
def boundAndUnbound : Service :=
  (reached [event .createProcess 1 20000001, event .createProcess 2 20000002,
    event .createProcess 3 20000003, bind 1 20000001 2 20000002]).get (by decide)

/-- The three processes and their binding are reached from the start. -/
theorem run_boundAndUnbound : Service.Run platform Service.anyOp boundAndUnbound :=
  run_reached (fun _ _ _ => trivial) (by decide)

/-- A process without bindings ends and leaves none behind. -/
theorem unbound_terminated_boundAndUnbound : ∃ sys',
    boundAndUnbound.exec platform 40 (event .processTerminated 3 20000003) = .ok sys' ∧
      sys'.manager.Unbound 3 := by
  obtain ⟨sys', hExec, hIff⟩ := @Service.Run.unbound_terminated_iff platform boundAndUnbound
    run_boundAndUnbound ⟨⟨0, 0, "", ""⟩, ⟨3, 20000003, "", toString 20000003⟩, .processTerminated⟩ 0
    services 2 (((boundAndUnbound.manager.bundles 2).procs[(3 : Int)]?).get (by decide)) 40 rfl
    (by decide) (by decide) (by decide)
  exact ⟨sys', hExec, hIff.mpr (by decide)⟩

/-- The caller ends. The extension keeps its binding, and counts it as a native client. -/
def callerEnded : Service :=
  ((boundAndUnbound.exec platform 40 (event .processTerminated 1 20000001)).toOption).get (by decide)

theorem callerEnded_dangles : Service.Run platform Service.anyOp boundAndUnbound ∧
    boundAndUnbound.exec platform 40 (event .processTerminated 1 20000001) = .ok callerEnded ∧
      ¬ callerEnded.manager.Unbound 1 ∧
      ∃ proc, callerEnded.manager.TracksProc 1 2 proc ∧
        callerEnded.manager.recomputedPriority proc = .ok 100 ∧
        callerEnded.manager.recomputedPriority (proc.procUnBindToMe 1) = .ok 500 := by
  have hTracks : callerEnded.manager.TracksProc 1 2
      (((callerEnded.manager.bundles 1).procs[(2 : Int)]?).get (by decide)) :=
    ⟨by decide, (Option.some_get _).symm⟩
  have hBound : (((callerEnded.manager.bundles 1).procs[(2 : Int)]?).get (by decide)).BoundWith 1 := by
    decide
  refine ⟨run_boundAndUnbound, eq_ok_get _, ?_, _, hTracks, by decide, by decide⟩
  intro hUnbound
  exact hUnbound.bindings 1 2 _ hTracks hBound

end Scenario
end MemMgr
