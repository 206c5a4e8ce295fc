import MemMgr.Prepare
import MemMgr.ExtensionPass

/-! The priority a status event leaves depends on the flags of the process alone,
whatever its priority was before. -/
namespace MemMgr

open Execution ReclaimPriorityManager ProcessPriorityInfo

/-- The events that tell what a process is doing. -/
def statusReasons : List AppStateUpdateReason :=
  [.foreground, .background, .suspendDelayStart, .suspendDelayEnd, .backgroundRunningStart,
    .backgroundRunningEnd, .eventStart, .eventEnd, .distDeviceConnected, .distDeviceDisconnected,
    .visible, .unVisible]

/-- The flags of a process that is no extension, as far as its priority goes. -/
structure StatusFlags where
  isFreground : Bool
  isVisible : Bool
  isSuspendDelay : Bool
  isBackgroundRunning : Bool
  isEventStart : Bool
  isDistDeviceConnected : Bool
  isImportant : Bool
  priorityIfImportant : Int
  deriving DecidableEq

def ProcessPriorityInfo.statusFlags (proc : ProcessPriorityInfo) : StatusFlags where
  isFreground := proc.isFreground
  isVisible := proc.isVisible
  isSuspendDelay := proc.isSuspendDelay
  isBackgroundRunning := proc.isBackgroundRunning
  isEventStart := proc.isEventStart
  isDistDeviceConnected := proc.isDistDeviceConnected
  isImportant := proc.isImportant
  priorityIfImportant := proc.priorityIfImportant

namespace StatusFlags

variable (flags : StatusFlags)

/-- The background priority, or less for what the process does in the background. -/
def background : Int :=
  min reclaimPriorityBackground <|
    if flags.isSuspendDelay then reclaimPriorityBgSuspendDelay
    else if flags.isBackgroundRunning || flags.isEventStart then reclaimPriorityBgPerceived
    else if flags.isDistDeviceConnected then reclaimPriorityBgDistDevice
    else reclaimPriorityBackground

def base : Int :=
  if flags.isFreground then reclaimPriorityForeground
  else if flags.isVisible then min flags.background reclaimPriorityVisible
  else flags.background

/-- What a process with these flags is worth. -/
def priority : Int :=
  if flags.isImportant then min flags.base flags.priorityIfImportant else flags.base

end StatusFlags

namespace ProcessPriorityInfo

variable {proc : ProcessPriorityInfo}

theorem background_eq :
    proc.statusFlags.background =
      min reclaimPriorityBackground (proc.statusCap.getD reclaimPriorityBackground) := by
  rw [StatusFlags.background, statusCap]
  simp only [apply_ite (fun cap : Option Int => cap.getD reclaimPriorityBackground)]
  rfl

theorem background_nonneg : 0 ≤ proc.statusFlags.background := by
  rw [background_eq]
  cases hCap : proc.statusCap with
  | none => decide
  | some value =>
      have := proc.statusCap_pos hCap
      simp only [Option.getD_some, reclaimPriorityBackground]
      omega

theorem capBy_statusCap {priority : Int} (h : priority ≤ 400) :
    capBy priority proc.statusCap = min priority proc.statusFlags.background := by
  rw [background_eq]
  cases proc.statusCap with
  | none => simpa [capBy] using h
  | some value =>
      simp only [capBy, Option.getD_some, reclaimPriorityBackground]
      omega

/-- The one-sided comparisons lose their history once the old priority is not negative. -/
theorem statusPriority_eq (hPriority : 0 ≤ proc.priority) (hExtension : proc.isExtension = false) :
    proc.statusPriority = proc.statusFlags.priority := by
  have hStart : proc.statusStart = if proc.isFreground then 0 else 400 := by
    simp only [statusStart, hExtension, Bool.false_eq_true, ↓reduceIte, reclaimPriorityForeground,
      reclaimPriorityBackground]
    rw [min_eq_right hPriority]
  have hFlags : proc.statusFlags.base = if proc.isFreground then 0
      else if proc.isVisible then min proc.statusFlags.background 50
      else proc.statusFlags.background := rfl
  have hBase : capBy (if proc.isVisible then min proc.statusStart reclaimPriorityVisible
      else proc.statusStart) proc.statusCap = proc.statusFlags.base := by
    have hNonneg := @background_nonneg proc
    have hLess : proc.statusFlags.background ≤ 400 := background_eq ▸ min_le_left _ _
    rw [hStart, hFlags, capBy_statusCap]
    · simp only [reclaimPriorityVisible]
      split_ifs <;> omega
    · simp only [reclaimPriorityVisible]
      split_ifs <;> omega
  rw [statusPriority, hBase]
  rfl

end ProcessPriorityInfo

namespace ReclaimPriorityManager

variable {platform : Platform} {services : Services} {s : ReclaimPriorityManager}
variable {request : UpdateRequest} {eventTime : Int} {bundle : BundleRef} {proc : ProcessPriorityInfo}

/-- A status event of a recorded process only sets its flags, then recomputes. -/
theorem prepareRequest_status (hReason : request.reason ∈ statusReasons)
    (hFind : s.findBundle request.target.uid (getOsAccountIdByUid request.target.uid) = some bundle)
    (hProc : (s.bundles bundle).procs[request.target.pid]? = some proc)
    (hPriority : 0 ≤ (s.bundles bundle).priority) :
    s.prepareRequest platform services request eventTime =
      .ok (s.prepareUpdate request.reason bundle proc eventTime) := by
  have hExist : s.isProcExist request.target.pid request.target.uid
      (getOsAccountIdByUid request.target.uid) = true := by
    simp only [isProcExist, hFind, BundlePriorityInfo.hasProc_iff.mpr ⟨proc, hProc⟩, ite_self]
  have hTracked : request.reason ≠ .applicationSuspend → request.reason ≠ .processTerminated →
      s.prepareTracked platform request eventTime =
        .ok (s.prepareUpdate request.reason bundle proc eventTime) := by
    intro hSuspend hTerminated
    have hAbove : ¬ (s.bundles bundle).priority ≤ reclaimPriorityKillableSystem := by
      simp only [reclaimPriorityKillableSystem]
      omega
    rw [prepareTracked]
    simp only [hExist, hFind, hAbove, hSuspend, hTerminated, ↓reduceIte,
      BundlePriorityInfo.findProcByPid_eq_ok.mpr hProc]
    rfl
  rw [prepareRequest]
  cases hIs : request.reason <;> rw [hIs] at hReason hTracked <;>
    first
      | exact absurd hReason (by decide)
      | exact hTracked (by decide) (by decide)

end ReclaimPriorityManager

/-- The record some status event has left of a process that is no extension and in
no ability start, and whose bundle was not above the foreground. -/
inductive AfterStatusEvent (platform : Platform) : ProcessPriorityInfo → Prop where
  | mk {sys sys' : Service} {request : UpdateRequest} {eventTime : Int} {services : Services}
      {bundle : BundleRef} {proc after : ProcessPriorityInfo}
      (run : Service.Run platform Service.anyOp sys)
      (hReason : request.reason ∈ statusReasons)
      (hFind : sys.manager.findBundle request.target.uid
        (getOsAccountIdByUid request.target.uid) = some bundle)
      (hProc : (sys.manager.bundles bundle).procs[request.target.pid]? = some proc)
      (hPriority : 0 ≤ (sys.manager.bundles bundle).priority)
      (hExtension : proc.isExtension = false)
      (hStep : Service.Step platform sys (.updateReclaimPriorityInner request eventTime services) sys')
      (hAfter : (sys'.manager.bundles bundle).procs[request.target.pid]? = some after)
      (hStarted : after.isAbilityStarting = false) : AfterStatusEvent platform after

section

variable {platform : Platform} {after : ProcessPriorityInfo}

/-- Recomputed from its flags, a process that is no extension is not touched again. -/
theorem recomputed_record {s s' : ReclaimPriorityManager} {fuel : Nat} {bundle : BundleRef} {pid : Int}
    {proc : ProcessPriorityInfo} (hWf : WellFormed s) (hTracks : s.TracksProc bundle pid proc)
    (hPriority : 0 ≤ (s.bundles bundle).priority) (hExtension : proc.isExtension = false)
    (hRun : s.updatePriorityByProcStatus platform fuel bundle proc = .ok s') :
    (s'.bundles bundle).procs[pid]? = some (proc.setPriority proc.statusPriority) := by
  have hCases : (s.bundles bundle).priority < 0 ∧ s' = s ∨ 0 ≤ (s.bundles bundle).priority ∧
      Repricing (fun record => record.isExtension = true) (withFlagPriority platform s bundle proc) s' :=
    updatePriorityByProcStatus_repricing hWf hTracks (fun other hOther _ _ _ _ => hOther) hRun
  rcases hCases with ⟨hLess, -⟩ | ⟨-, hRepricing⟩
  · omega
  · obtain ⟨priority, hRecord, rfl | hIs⟩ :=
      hRepricing.record (tracksProc_withFlagPriority hWf hTracks).2
    · exact hRecord
    · exact Bool.noConfusion (hExtension.symm.trans hIs)

theorem AfterStatusEvent.flagPriority (h : AfterStatusEvent platform after) :
    after.priority = after.statusFlags.priority := by
  obtain ⟨run, hReason, hFind, hProc, hPriority, hExtension, hStep, hAfter, hStarted⟩ := h
  rename_i sys sys' request eventTime services bundle proc
  have hWf := run.wellFormed
  have hTracks : sys.manager.TracksProc bundle request.target.pid proc := ⟨⟨_, _, hFind⟩, hProc⟩
  have hFlagged : (sys.manager.flagged request.reason bundle proc eventTime).TracksProc bundle
      request.target.pid (changeProc request.reason eventTime (proc, sys.manager.handler)).1 :=
    tracksProc_flagged hWf hTracks
  obtain ⟨prepared, fuel, hPrepare, hFinish⟩ := hStep.prepared
  rw [Service.prepare, prepareRequest_status hReason hFind hProc hPriority] at hPrepare
  obtain rfl := Except.ok.inj hPrepare
  rw [prepareUpdate_eq] at hFinish
  split_ifs at hFinish with hSkip
  · -- A skipped event leaves the process in its ability start.
    rw [← Except.ok.inj hFinish, writeBundleOomScoreAdj_bundles, hFlagged.2] at hAfter
    obtain rfl := Option.some.inj hAfter
    rw [needSkipEventBeforeAbilityStart, hStarted] at hSkip
    cases hSkip
  · obtain ⟨s₂, hRun, hReturn⟩ := bind_eq_ok.mp hFinish
    have hKept := (changeProc_same request.reason eventTime proc sys.manager.handler).2
    have hNone := (changeProc_bindings request.reason eventTime proc sys.manager.handler).isExtension
    have hNonneg : 0 ≤ ((sys.manager.flagged request.reason bundle proc eventTime).bundles
        bundle).priority := by
      rw [flagged_priority]
      exact hPriority
    have hRecord := recomputed_record (wellFormed_flagged hWf hTracks) hFlagged hNonneg
      (hNone.trans hExtension) hRun
    rw [← Except.ok.inj hReturn, writeBundleOomScoreAdj_bundles, hRecord] at hAfter
    obtain rfl := Option.some.inj hAfter
    refine statusPriority_eq ?_ (hNone.trans hExtension)
    rw [hKept]
    exact hPriority.trans ((hWf.covered bundle).below _ _ hProc)

/-- Whatever led to the flags, they give the priority. -/
theorem AfterStatusEvent.priority_eq_of_flags (h : AfterStatusEvent platform after) :
    after.priority = after.statusFlags.priority ∧
      ∀ other, AfterStatusEvent platform other → other.statusFlags = after.statusFlags →
        other.priority = after.priority := by
  refine ⟨h.flagPriority, fun other hOther hSame => ?_⟩
  rw [h.flagPriority, hOther.flagPriority, hSame]

end

namespace Scenario

def createdVisible : Service :=
  (reached [event .createProcess 1 20000001, event .visible 1 20000001]).get (by decide)

def visibleInBackground : Service :=
  (createdVisible.exec platform 40 (event .background 1 20000001)).toOption.get (by decide)

def visibleProc : ProcessPriorityInfo :=
  ((visibleInBackground.manager.bundles 0).procs[(1 : Int)]?).get (by decide)

/-- Put to the background while it is visible. -/
theorem visibleProc_priority : visibleProc.priority = visibleProc.statusFlags.priority ∧
    ∀ other, AfterStatusEvent platform other → other.statusFlags = visibleProc.statusFlags →
      other.priority = visibleProc.priority := by
  have hRun : Service.Run platform Service.anyOp createdVisible :=
    run_reached (fun _ _ _ => trivial) (by decide)
  have hStep : Service.Step platform createdVisible (event .background 1 20000001)
      visibleInBackground := ⟨40, eq_ok_get _⟩
  exact AfterStatusEvent.priority_eq_of_flags <| @AfterStatusEvent.mk platform createdVisible
    visibleInBackground ⟨⟨0, 0, "", ""⟩, ⟨1, 20000001, "", toString 20000001⟩, .background⟩ 0 services 0
    (((createdVisible.manager.bundles 0).procs[(1 : Int)]?).get (by decide)) visibleProc hRun
    (by decide) (by decide) (by decide) (by decide) (by decide) hStep (by decide) (by decide)

end Scenario
end MemMgr
