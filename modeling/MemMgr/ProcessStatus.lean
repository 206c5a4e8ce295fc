import MemMgr.BindingCounts
import MemMgr.FreshRecords

/-! The flags that a process is known by, and what its own notices make of them. Nothing else may
touch them: not the notices of other processes, and not what carries priorities about. -/
namespace MemMgr

open Std (ExtTreeMap)
open Execution ReclaimPriorityManager ProcessPriorityInfo

/-- What a process is doing, as far as it has been told. -/
structure ProcessStatus where
  isVisible : Bool
  isFreground : Bool
  isBackgroundRunning : Bool
  isSuspendDelay : Bool
  isEventStart : Bool
  isDistDeviceConnected : Bool
  isExtension : Bool
  hasUI : Bool
  deriving DecidableEq

namespace ProcessStatus

/-- Nothing has been told yet. -/
def untold : ProcessStatus := ⟨false, false, false, false, false, false, false, false⟩

variable (status : ProcessStatus)

def told : AppStateUpdateReason → ProcessStatus
  | .foreground => { status with isFreground := true, hasUI := true }
  | .background => { status with isFreground := false, hasUI := true }
  | .suspendDelayStart => { status with isSuspendDelay := true }
  | .suspendDelayEnd => { status with isSuspendDelay := false }
  | .backgroundRunningStart => { status with isBackgroundRunning := true }
  | .backgroundRunningEnd => { status with isBackgroundRunning := false }
  | .eventStart => { status with isEventStart := true }
  | .eventEnd => { status with isEventStart := false }
  | .distDeviceConnected => { status with isDistDeviceConnected := true }
  | .distDeviceDisconnected => { status with isDistDeviceConnected := false }
  | .visible => { status with isVisible := true }
  | .unVisible => { status with isVisible := false }
  | _ => status

/-- An extension is never at the foreground. -/
def linked : ProcessStatus := { status with isFreground := false, isExtension := true }

end ProcessStatus

def ProcessPriorityInfo.status (proc : ProcessPriorityInfo) : ProcessStatus where
  isVisible := proc.isVisible
  isFreground := proc.isFreground
  isBackgroundRunning := proc.isBackgroundRunning
  isSuspendDelay := proc.isSuspendDelay
  isEventStart := proc.isEventStart
  isDistDeviceConnected := proc.isDistDeviceConnected
  isExtension := proc.isExtension
  hasUI := proc.hasUI

/-- The part of an update that sets the flags is what the status of a process is told. -/
theorem ProcessPriorityInfo.status_changeProc (reason : AppStateUpdateReason) (eventTime : Int)
    (proc : ProcessPriorityInfo) (handler : List DelayedTask) :
    (changeProc reason eventTime (proc, handler)).1.status = proc.status.told reason := by
  have hFinish : ∀ proc : ProcessPriorityInfo,
      (finishAbilityStartIfNeed eventTime (proc, handler)).1.status = proc.status := by
    intro proc
    rw [finishAbilityStartIfNeed]
    split_ifs <;> rfl
  cases reason with
  | foreground => exact hFinish _
  | background => exact hFinish _
  | bindExtension =>
      change (if proc.extensionConnectorsCount > 0 then _ else proc).status = _
      split_ifs <;> rfl
  | unbindExtension =>
      change (if proc.extensionConnectorsCount = 0 then _ else proc).status = _
      split_ifs <;> rfl
  | _ => rfl

namespace ReclaimPriorityManager

variable {platform : Platform} {services : Services} {s s₁ s' : ReclaimPriorityManager}
variable {bundle : BundleRef} {pid uid eventTime : Int} {proc proc' : ProcessPriorityInfo}
variable {process : Int × Int} {reason : AppStateUpdateReason} {request : UpdateRequest} {fuel : Nat}

/-- The flags of the process with this pid and uid. -/
def statusOf (s : ReclaimPriorityManager) (process : Int × Int) : Option ProcessStatus :=
  (s.boundProc process).map ProcessPriorityInfo.status

/-- A process that is found has its own status. -/
theorem statusOf_eq_some (hFind : s.findBundle uid (getOsAccountIdByUid uid) = some bundle)
    (hProc : (s.bundles bundle).procs[pid]? = some proc) :
    s.statusOf (pid, uid) = some proc.status := by
  rw [statusOf, boundProc_eq_some.mpr ⟨bundle, hFind, hProc⟩]
  rfl

/-- The flags are a matter of the records alone. -/
theorem statusOf_of_records (hMap : s'.osAccountsInfoMap = s.osAccountsInfoMap)
    (hRecords : ∀ bundle (pid : Int), (s'.bundles bundle).procs[pid]?.map status =
      (s.bundles bundle).procs[pid]?.map status) : s'.statusOf = s.statusOf := by
  funext process
  rw [statusOf, statusOf, boundProc, boundProc, findBundle_congr hMap]
  cases s.findBundle process.2 (getOsAccountIdByUid process.2) with
  | none => rfl
  | some bundle => exact hRecords bundle process.1

/-- The status of the processes depends on the maps and the bundles only. -/
theorem statusOf_congr (hMap : s'.osAccountsInfoMap = s.osAccountsInfoMap)
    (hHeap : s'.bundles = s.bundles) : s'.statusOf = s.statusOf :=
  statusOf_of_records hMap fun _ _ => by rw [hHeap]

/-- One object changes, and not in the flags of its records. -/
theorem statusOf_of_update {info : BundlePriorityInfo} (hMap : s'.osAccountsInfoMap = s.osAccountsInfoMap)
    (hHeap : s'.bundles = Function.update s.bundles bundle info)
    (hInfo : ∀ pid : Int, info.procs[pid]?.map status = (s.bundles bundle).procs[pid]?.map status) :
    s'.statusOf = s.statusOf := by
  refine statusOf_of_records hMap fun other pid => ?_
  rw [hHeap, Function.update_apply]
  split_ifs with hIs
  · rw [hIs]
    exact hInfo pid
  · rfl

/-- A record that is written back is found under its own pid and uid. -/
theorem boundProc_setProc (h : WellFormed s)
    (hFind : s.findBundle uid (getOsAccountIdByUid uid) = some bundle) (hPid : proc'.pid = pid) :
    (s.setProc bundle proc').boundProc = Function.update s.boundProc (pid, uid) (some proc') := by
  funext process
  obtain ⟨otherPid, otherUid⟩ := process
  have hMap : (s.setProc bundle proc').findBundle = s.findBundle := findBundle_congr rfl
  rw [Function.update_apply, boundProc, boundProc, hMap]
  dsimp only
  cases hOther : s.findBundle otherUid (getOsAccountIdByUid otherUid) with
  | none =>
      rw [if_neg]
      · rfl
      · intro hSame
        obtain ⟨rfl, rfl⟩ := Prod.mk.inj hSame
        rw [hFind] at hOther
        cases hOther
  | some other =>
      rw [Option.bind_some, Option.bind_some, setProc, modifyBundle_bundles, Function.update_apply]
      by_cases hIs : other = bundle
      · subst hIs
        have hUid : otherUid = uid := (h.stored hOther).1.symm.trans (h.stored hFind).1
        rw [if_pos rfl, BundlePriorityInfo.setProc_procs, hPid, hUid]
        by_cases hSame : otherPid = pid
        · simp [hSame]
        · simp [hSame, Ne.symm hSame]
      · have hNe : (otherPid, otherUid) ≠ (pid, uid) := by
          intro hSame
          obtain ⟨rfl, rfl⟩ := Prod.mk.inj hSame
          exact hIs (Option.some.inj (hOther.symm.trans hFind))
        rw [if_neg hIs, if_neg hNe]

/-- A record that is written back changes the flags of one process. -/
theorem statusOf_setProc (h : WellFormed s)
    (hFind : s.findBundle uid (getOsAccountIdByUid uid) = some bundle) (hPid : proc'.pid = pid) :
    (s.setProc bundle proc').statusOf = Function.update s.statusOf (pid, uid) (some proc'.status) := by
  funext process
  rw [statusOf, boundProc_setProc h hFind hPid, Function.update_apply, Function.update_apply]
  split_ifs <;> rfl

end ReclaimPriorityManager

/-- New priorities leave the flags alone. -/
theorem Repricing.statusOf {result : ProcessPriorityInfo → Prop} {s s' : ReclaimPriorityManager}
    (h : Repricing result s s') : s'.statusOf = s.statusOf := by
  refine statusOf_of_records h.osAccountsInfoMap fun bundle pid => ?_
  cases hProc : (s.bundles bundle).procs[pid]? with
  | none => rw [h.missing hProc]
  | some proc =>
      obtain ⟨priority, hRecord, -⟩ := h.record hProc
      rw [hRecord]
      rfl

namespace ReclaimPriorityManager

variable {platform : Platform} {services : Services} {s s₁ s' : ReclaimPriorityManager}
variable {bundle : BundleRef} {pid uid eventTime : Int} {proc : ProcessPriorityInfo}
variable {process : Int × Int} {reason : AppStateUpdateReason} {request : UpdateRequest} {fuel : Nat}

/-- Writing the scores to the kernel changes no status. -/
theorem statusOf_written (bundle : BundleRef) :
    (s.writeBundleOomScoreAdj bundle).statusOf = s.statusOf :=
  statusOf_congr writeBundleOomScoreAdj_osAccountsInfoMap writeBundleOomScoreAdj_bundles

/-- Counting the flags in and carrying the priority on. -/
theorem statusOf_updatePriorityByProcStatus (h : WellFormed s) (hTracks : s.TracksProc bundle pid proc)
    (hRun : s.updatePriorityByProcStatus platform fuel bundle proc = .ok s') : s'.statusOf = s.statusOf := by
  rcases @updatePriorityByProcStatus_repricing (fun _ => True) platform _ _ h _ _ _ _ hTracks
    (fun _ _ _ _ _ _ => trivial) hRun with ⟨-, rfl⟩ | ⟨-, hRepricing⟩
  · rfl
  · exact ((repricing_withFlagPriority h hTracks).trans hRepricing).statusOf

/-- What is left of an operation after its preparation. -/
theorem statusOf_recompute (h : s.Recomputable bundle proc)
    (hFinish : (Prepared.recompute s bundle proc).finish platform fuel = .ok s') :
    s'.statusOf = s.statusOf := by
  obtain ⟨hWf, pid, hTracks⟩ := h
  obtain ⟨after, hRun, hWritten⟩ := bind_eq_ok.mp hFinish
  cases hWritten
  rw [statusOf_written]
  exact statusOf_updatePriorityByProcStatus hWf hTracks hRun

/-- Setting the flags changes the status of its own process only. -/
theorem statusOf_flagged (h : WellFormed s)
    (hFind : s.findBundle uid (getOsAccountIdByUid uid) = some bundle)
    (hProc : (s.bundles bundle).procs[pid]? = some proc) :
    (s.flagged reason bundle proc eventTime).statusOf =
      Function.update s.statusOf (pid, uid) (some (proc.status.told reason)) := by
  have hPid := ((changeProc_same reason eventTime proc s.handler).1.pid).trans
    ((h.covered bundle).record _ _ hProc).pid
  rw [← status_changeProc reason eventTime proc s.handler, ← statusOf_setProc h hFind hPid]
  exact statusOf_congr rfl rfl

/-- An event changes the status of its own process, as the event tells it. -/
theorem statusOf_prepareUpdate (h : WellFormed s)
    (hFind : s.findBundle uid (getOsAccountIdByUid uid) = some bundle)
    (hProc : (s.bundles bundle).procs[pid]? = some proc) :
    (s.prepareUpdate reason bundle proc eventTime).state.statusOf =
      Function.update s.statusOf (pid, uid) (some (proc.status.told reason)) := by
  rw [prepareUpdate_eq, ← statusOf_flagged h hFind hProc]
  split_ifs
  · exact statusOf_written bundle
  · rfl

/-- A suspension sets priorities, and tells no process a status. -/
theorem statusOf_handleApplicationSuspend (bundle : BundleRef) :
    (s.handleApplicationSuspend platform bundle).1.statusOf = s.statusOf := by
  apply statusOf_of_update (handleApplicationSuspend_osAccountsInfoMap bundle)
    (handleApplicationSuspend_bundles bundle)
  intro pid
  rw [BundlePriorityInfo.updatePriority, suspendProcs, ExtTreeMap.getElem?_map]
  cases (s.bundles bundle).procs[pid]? <;> rfl

/-- The start of an ability sets priorities and the time of the start, and no status. -/
theorem statusOf_handleAbilityStart (h : WellFormed s) {ret : Bool}
    (hRun : s.handleAbilityStart platform request eventTime = .ok (s', ret)) :
    s'.statusOf = s.statusOf := by
  rcases handleAbilityStart_form hRun with rfl | ⟨bundle, proc, -, hProc, -, rfl⟩
  · rfl
  · have hBegun : (s.abilityStartingBegin platform bundle proc eventTime).statusOf = s.statusOf := by
      apply statusOf_of_update (abilityStartingBegin_osAccountsInfoMap eventTime)
        (abilityStartingBegin_bundles eventTime)
      intro pid
      have hPid : (startedProc proc eventTime).pid = request.target.pid :=
        ((h.covered bundle).record _ _ hProc).pid
      rw [BundlePriorityInfo.updatePriority, BundlePriorityInfo.setProc_procs, hPid]
      split_ifs with hIs
      · rw [← hIs, hProc]
        rfl
      · rfl
    rw [← hBegun]
    exact statusOf_congr rfl rfl

/-- A hot switch shifts priorities, and leaves every status as it was. -/
theorem statusOf_handleAccountHotSwitch (h : WellFormed s) (accounts : MultiAccountManager)
    (updatedAccountIds : List Int) :
    (accounts.handleAccountHotSwitch updatedAccountIds s).statusOf = s.statusOf := by
  apply statusOf_of_records (MultiAccountManager.handleAccountHotSwitch_osAccountsInfoMap _)
  intro bundle pid
  rw [MultiAccountManager.handleAccountHotSwitch_object h.stored, MultiAccountManager.shifted_iterate_procs]
  cases (s.bundles bundle).procs[pid]? <;> rfl

/-- The state of a bundle is no part of the status of its processes. -/
theorem statusOf_setBundleState (accountId uid : Int) (state : BundleState) :
    (s.setBundleState accountId uid state).statusOf = s.statusOf := by
  rw [setBundleState]
  cases s.findBundle uid accountId with
  | none => rfl
  | some bundle => exact statusOf_of_update rfl rfl fun _ => rfl

theorem statusOf_of_untracked (hNone : ∀ bundle, ¬ s.Tracked bundle) : s.statusOf process = none := by
  rw [statusOf, Option.map_eq_none_iff, Option.eq_none_iff_forall_ne_some]
  intro proc hBound
  obtain ⟨bundle, hFind, -⟩ := boundProc_eq_some.mp hBound
  exact hNone bundle ⟨_, _, hFind⟩

/-- Whose flags are known, in terms of what is tracked. -/
theorem statusOf_eq_some_iff (h : WellFormed s) {status : ProcessStatus} :
    s.statusOf (pid, uid) = some status ↔
      ∃ bundle proc, s.TracksProc bundle pid proc ∧ proc.uid = uid ∧ proc.status = status := by
  rw [statusOf, Option.map_eq_some_iff]
  constructor
  · rintro ⟨proc, hBound, hStatus⟩
    obtain ⟨⟨bundle, hTracks⟩, hUid⟩ := tracks_of_boundProc h hBound
    exact ⟨bundle, proc, hTracks, hUid, hStatus⟩
  · rintro ⟨bundle, proc, hTracks, hUid, hStatus⟩
    exact ⟨proc, boundProc_of_tracks h hTracks hUid, hStatus⟩

/-- A termination takes one process away. -/
theorem statusOf_handleTerminateProcess (h : WellFormed s)
    (hFind : s.findBundle uid (getOsAccountIdByUid uid) = some bundle)
    (hProc : (s.bundles bundle).procs[pid]? = some proc)
    (hAfter : WellFormed (s.handleTerminateProcess platform proc bundle (getOsAccountIdByUid uid)).1) :
    (s.handleTerminateProcess platform proc bundle (getOsAccountIdByUid uid)).1.statusOf =
      Function.update s.statusOf (pid, uid) none := by
  funext process
  obtain ⟨other, otherUid⟩ := process
  have hUid : ∀ found, s.TracksProc bundle other found → found.uid = uid := by
    intro found hFound
    rw [((h.covered bundle).record _ _ hFound.2).uid]
    exact (h.stored hFind).1
  ext status
  rw [statusOf_eq_some_iff hAfter, Function.update_apply]
  simp only [tracksProc_terminated h hFind hProc]
  split_ifs with hSame
  · obtain ⟨rfl, rfl⟩ := Prod.mk.inj hSame
    constructor
    · rintro ⟨found, record, ⟨hTracks, hNe⟩, hOwn, -⟩
      obtain ⟨⟨accountId, owner, hFound⟩, hRecord⟩ := hTracks
      obtain ⟨hOwner, rfl⟩ := h.stored hFound
      rw [((h.covered found).record _ _ hRecord).uid, hOwner] at hOwn
      subst hOwn
      exact absurd rfl (hNe (Option.some.inj (hFound.symm.trans hFind)))
    · exact fun hNone => absurd hNone (by simp)
  · rw [statusOf_eq_some_iff h]
    constructor
    · rintro ⟨found, record, ⟨hTracks, -⟩, hOwn, hStatus⟩
      exact ⟨found, record, hTracks, hOwn, hStatus⟩
    · rintro ⟨found, record, hTracks, hOwn, hStatus⟩
      refine ⟨found, record, ⟨hTracks, fun hIs hPid => ?_⟩, hOwn, hStatus⟩
      subst hIs hPid
      exact hSame (Prod.ext rfl (hOwn.symm.trans (hUid record hTracks)))

section Creation

variable {target : ReqProc}

/-- A creation in a bundle leaves the records that are there. -/
theorem tracksProc_handleCreateProcess_finish (accountId : Int) {other : BundleRef}
    (hTracks : s.TracksProc other pid proc) :
    (handleCreateProcess.finish platform services target accountId s bundle).1.TracksProc other pid
      proc := by
  obtain ⟨s', created, hForm, -, hBundles, -, hAll, -⟩ := handleCreateProcess_finish_joins platform
    services s target accountId bundle
  obtain ⟨hTracked, hProc⟩ := hTracks
  rw [hForm]
  apply And.intro (hAll other hTracked)
  rw [hBundles, Function.update_apply]
  split_ifs with hIs
  · subst hIs
    rw [BundlePriorityInfo.updatePriority, BundlePriorityInfo.addProc_procs, if_neg]
    · exact hProc
    · rintro ⟨rfl, hNew⟩
      exact hNew (ExtTreeMap.mem_iff_isSome_getElem?.mpr (by rw [hProc]; rfl))
  · exact hProc

theorem tracksProc_createInAccount (h : WellFormed s) (accountId : Int) {other : BundleRef}
    (hTracks : s.TracksProc other pid proc) :
    (match s.findBundle target.uid accountId with
      | some bundle => handleCreateProcess.finish platform services target accountId s bundle
      | none =>
          if !services.makeBundle then (s, false)
          else handleCreateProcess.finish platform services target accountId
            (s.newBundle platform (.create target.bundleName target.uid reclaimPriorityBackground
              services.systemCurTime)) s.nextRef).1.TracksProc other pid proc := by
  cases s.findBundle target.uid accountId with
  | some bundle => exact tracksProc_handleCreateProcess_finish accountId hTracks
  | none =>
      dsimp only
      split_ifs
      · exact hTracks
      · apply tracksProc_handleCreateProcess_finish
        obtain ⟨hTracked, hProc⟩ := hTracks
        apply And.intro hTracked
        rw [newBundle_bundles, Function.update_of_ne (h.allocated hTracked).ne]
        exact hProc

/-- A creation keeps the processes that are tracked. -/
theorem tracksProc_handleCreateProcess (h : WellFormed s) {other : BundleRef}
    (hTracks : s.TracksProc other pid proc) :
    (s.handleCreateProcess platform services target (getOsAccountIdByUid target.uid)
      false).1.TracksProc other pid proc := by
  rw [handleCreateProcess, if_neg (by simp)]
  split
  · exact hTracks
  · cases hAccount : s.findOsAccountById (getOsAccountIdByUid target.uid) with
    | some account => exact tracksProc_createInAccount h _ hTracks
    | none =>
        have hEffect : Effect platform noBundle s
            (s.addOsAccountInfo (.create (getOsAccountIdByUid target.uid))) := .openAccount hAccount
        apply tracksProc_createInAccount (h.effect hEffect)
        exact ⟨(tracked_openAccount hAccount).mpr hTracks.1, hTracks.2⟩

theorem createdProc_uid (platform : Platform) (target : ReqProc) (killable : Bool) :
    (createdProc platform target killable).uid = target.uid := by
  rw [createdProc]
  dsimp only
  split_ifs <;> rfl

/-- A process is created with the status of one that was told nothing. -/
theorem status_createdProc (platform : Platform) (target : ReqProc) (killable : Bool) :
    (createdProc platform target killable).status = .untold := by
  obtain ⟨hVisible, -, hFreground, hRunning, hDelay, hEvent, hDist, hExtension, hUI⟩ :=
    (fresh_createdProc platform target killable).noFlag
  rw [status, hVisible, hFreground, hRunning, hDelay, hEvent, hDist, hExtension, hUI]
  rfl

instance : Decidable (s.HasRoom services target) :=
  decidable_of_iff
    ((s.findOsAccountById (getOsAccountIdByUid target.uid) ≠ none ∨ services.makeAccount = true) ∧
      (s.findBundle target.uid (getOsAccountIdByUid target.uid) ≠ none ∨ services.makeBundle = true))
    ⟨fun h => ⟨h.1, h.2⟩, fun h => ⟨h.account, h.bundle⟩⟩

/-- A creation knows nothing of its process, unless a record is left of an earlier one. -/
theorem statusOf_handleCreateProcess (h : WellFormed s)
    (hAfter : WellFormed (s.handleCreateProcess platform services target
      (getOsAccountIdByUid target.uid) false).1) :
    (s.handleCreateProcess platform services target (getOsAccountIdByUid target.uid) false).1.statusOf =
      Function.update s.statusOf (target.pid, target.uid)
        (if s.HasRoom services target then
          some ((s.statusOf (target.pid, target.uid)).getD .untold)
        else s.statusOf (target.pid, target.uid)) := by
  have hEnters := @handleCreateProcess_enters platform services s h target
  funext process
  obtain ⟨pid, uid⟩ := process
  rw [Function.update_apply]
  split_ifs with hSame hRoom
  · obtain ⟨rfl, rfl⟩ := Prod.mk.inj hSame
    rw [statusOf, statusOf]
    cases hBound : s.boundProc (target.pid, target.uid) with
    | some proc =>
        rw [boundProc_handleCreateProcess_of_some h hBound hAfter]
        rfl
    | none =>
        rw [boundProc_handleCreateProcess_of_none h hBound hAfter,
          admitted_eq_some.mpr ⟨hRoom, hBound, rfl⟩, Option.map_some, Option.map_some,
          status_createdProc]
        rfl
  · obtain ⟨rfl, rfl⟩ := Prod.mk.inj hSame
    rw [statusOf, statusOf]
    cases hBound : s.boundProc (target.pid, target.uid) with
    | some proc => rw [boundProc_handleCreateProcess_of_some h hBound hAfter]
    | none =>
        have hNone : s.admitted services target = none := by
          rw [Option.eq_none_iff_forall_ne_some]
          exact fun killable hAdmitted => hRoom (admitted_eq_some.mp hAdmitted).1
        rw [boundProc_handleCreateProcess_of_none h hBound hAfter, hNone]
        rfl
  · ext status
    rw [statusOf_eq_some_iff hAfter, statusOf_eq_some_iff h]
    constructor
    · rintro ⟨bundle, proc, hTracks, rfl, hStatus⟩
      rcases hEnters.only hTracks with hOld | ⟨killable, -, rfl⟩
      · exact ⟨bundle, proc, hOld, rfl, hStatus⟩
      · have hPid := ((hAfter.covered bundle).record _ _ hTracks.2).pid
        rw [createdProc_pid] at hPid
        exact absurd (Prod.ext hPid.symm (createdProc_uid platform target killable)) hSame
    · rintro ⟨bundle, proc, hTracks, hUid, hStatus⟩
      exact ⟨bundle, proc, tracksProc_handleCreateProcess h hTracks, hUid, hStatus⟩

end Creation

end ReclaimPriorityManager
end MemMgr
