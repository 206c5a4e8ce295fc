import MemMgr.Service
import MemMgr.WellFormed

/-! A request up to the recomputation of a priority. Handlers look processes up,
change flags and bindings, and then either return or hand one record to
`updatePriorityByProcStatus`; only that call has loops. -/
namespace MemMgr

open Execution ReclaimPriorityManager ProcessPriorityInfo

/-- Where a request stands when its flags are set. -/
inductive Prepared where
  | done (s : ReclaimPriorityManager)
  | recompute (s : ReclaimPriorityManager) (bundle : BundleRef) (proc : ProcessPriorityInfo)

/-- The rest of a request: the recomputation, where one is left to do. -/
def Prepared.finish (platform : Platform) (fuel : Nat) : Prepared → Except Fault ReclaimPriorityManager
  | .done s => .ok s
  | .recompute s bundle proc => do
      let s ← s.updatePriorityByProcStatus platform fuel bundle proc
      return s.writeBundleOomScoreAdj bundle

namespace ProcessPriorityInfo

/-- What the search for extensions reads of a record. -/
structure SameBindings (before after : ProcessPriorityInfo) : Prop where
  isExtension : after.isExtension = before.isExtension
  procsBindToMe : after.procsBindToMe = before.procsBindToMe
  procsBindFromMe : after.procsBindFromMe = before.procsBindFromMe

/-- A change of a status keeps the bindings of the process. -/
theorem changeProc_bindings (reason : AppStateUpdateReason) (eventTime : Int)
    (proc : ProcessPriorityInfo) (handler : List DelayedTask) :
    SameBindings proc (changeProc reason eventTime (proc, handler)).1 := by
  obtain ⟨flagged, hSame, hSet | ⟨-, hFinish⟩⟩ := changeProc_flags reason proc
  · rw [hSet]
    exact ⟨hSame.isExtension, hSame.procsBindToMe, hSame.procsBindFromMe⟩
  · rw [hFinish, finishAbilityStartIfNeed]
    split_ifs <;> exact ⟨hSame.isExtension, hSame.procsBindToMe, hSame.procsBindFromMe⟩

end ProcessPriorityInfo

namespace ReclaimPriorityManager

variable (platform : Platform) (services : Services) (s : ReclaimPriorityManager)

def prepareUpdate (reason : AppStateUpdateReason) (bundle : BundleRef) (proc : ProcessPriorityInfo)
    (eventTime : Int) : Prepared :=
  let changed := changeProc reason eventTime (proc, s.handler)
  let s := { s.setProc bundle changed.1 with handler := changed.2 }
  if changed.1.needSkipEventBeforeAbilityStart eventTime then .done (s.writeBundleOomScoreAdj bundle)
  else .recompute s bundle changed.1

def prepareTarget (request : UpdateRequest) (eventTime : Int) : Except Fault Prepared := do
  let target := request.target
  match ← s.lookupProc target.pid target.uid (getOsAccountIdByUid target.uid) with
  | none => return .done s
  | some (bundle, proc) =>
      if proc.priority ≤ reclaimPriorityKillableSystem ∨
          (s.bundles bundle).priority ≤ reclaimPriorityKillableSystem then return .done s
      else
        let (s, killable) := s.isKillableSystemApp services bundle
        if killable then return .done s
        else
          let proc := bindTarget request proc
          return (s.setProc bundle proc).prepareUpdate request.reason bundle proc eventTime

def prepareBinding (request : UpdateRequest) (eventTime : Int) : Except Fault Prepared := do
  let (s, _) ← s.updateExtensionStatusForCaller request
  s.prepareTarget services request eventTime

/-- The reasons that start from a tracked bundle. -/
def prepareTracked (request : UpdateRequest) (eventTime : Int) : Except Fault Prepared :=
  let target := request.target
  let accountId := getOsAccountIdByUid target.uid
  if s.isProcExist target.pid target.uid accountId then
    match s.findBundle target.uid accountId with
    | none => .ok (.done s)
    | some bundle =>
        if (s.bundles bundle).priority ≤ reclaimPriorityKillableSystem then .ok (.done s)
        else if request.reason = .applicationSuspend then
          .ok (.done (s.handleApplicationSuspend platform bundle).1)
        else do
          let proc ← (s.bundles bundle).findProcByPid target.pid
          if request.reason = .processTerminated then
            return .done (s.handleTerminateProcess platform proc bundle accountId).1
          else return s.prepareUpdate request.reason bundle proc eventTime
  else .ok (.done s)

def prepareRequest (request : UpdateRequest) (eventTime : Int) : Except Fault Prepared :=
  match request.reason with
  | .bindExtension => s.prepareBinding services request eventTime
  | .unbindExtension => s.prepareBinding services request eventTime
  | .createProcess => .ok (.done (s.handleCreateProcess platform services request.target
      (getOsAccountIdByUid request.target.uid) false).1)
  | .renderCreateProcess => .ok (.done (s.handleCreateProcess platform services request.target
      (getOsAccountIdByUid request.target.uid) true).1)
  | .abilityStart => do
      let (s, _) ← s.handleAbilityStart platform request eventTime
      return .done s
  | _ => s.prepareTracked platform request eventTime

variable {platform : Platform} {services : Services} {fuel : Nat} {s : ReclaimPriorityManager}

/-- The state with the flags of an event, before anything is recomputed. -/
def flagged (s : ReclaimPriorityManager) (reason : AppStateUpdateReason) (bundle : BundleRef)
    (proc : ProcessPriorityInfo) (eventTime : Int) : ReclaimPriorityManager :=
  (s.setProc bundle (changeProc reason eventTime (proc, s.handler)).1).noting
    (changeProc reason eventTime (proc, s.handler)).2 s.allKillableSystemApps

/-- The update of a process, as the part that is done before its priority is recomputed. -/
theorem prepareUpdate_eq (reason : AppStateUpdateReason) (bundle : BundleRef)
    (proc : ProcessPriorityInfo) (eventTime : Int) :
    s.prepareUpdate reason bundle proc eventTime =
      if (changeProc reason eventTime (proc, s.handler)).1.needSkipEventBeforeAbilityStart eventTime then
        .done ((s.flagged reason bundle proc eventTime).writeBundleOomScoreAdj bundle)
      else .recompute (s.flagged reason bundle proc eventTime) bundle
        (changeProc reason eventTime (proc, s.handler)).1 := rfl

/-- The handler of an update is this part, and the recomputation after it. -/
theorem handleUpdateProcess_eq (reason : AppStateUpdateReason) (bundle : BundleRef)
    (proc : ProcessPriorityInfo) (eventTime : Int) :
    (do
      let s ← s.handleUpdateProcess platform fuel reason bundle proc eventTime
      return (s.applyReclaimPriority bundle).1) =
    (s.prepareUpdate reason bundle proc eventTime).finish platform fuel := by
  simp only [handleUpdateProcess, prepareUpdate]
  split_ifs <;> rfl

/-- The part of the target is what is prepared, and the recomputation. -/
theorem updateExtensionStatusForTarget_eq (request : UpdateRequest) (eventTime : Int) :
    Prod.fst <$> s.updateExtensionStatusForTarget platform services fuel request eventTime =
      (do (← s.prepareTarget services request eventTime).finish platform fuel) := by
  rw [updateExtensionStatusForTarget, prepareTarget]
  cases s.lookupProc request.target.pid request.target.uid (getOsAccountIdByUid request.target.uid) with
  | error fault => rfl
  | ok found =>
      cases found with
      | none => rfl
      | some found =>
          obtain ⟨bundle, proc⟩ := found
          rcases hKillable : s.isKillableSystemApp services bundle with ⟨s', killable⟩
          simp only [bind, Except.bind, hKillable]
          split_ifs
          · rfl
          · rfl
          · simp only [pure, Except.pure]
            rw [← handleUpdateProcess_eq]
            cases handleUpdateProcess platform fuel (s'.setProc bundle (bindTarget request proc))
              request.reason bundle (bindTarget request proc) eventTime <;> rfl

/-- The handler of a binding is what is prepared, and the recomputation. -/
theorem handleExtensionProcess_eq (request : UpdateRequest) (eventTime : Int) :
    Prod.fst <$> s.handleExtensionProcess platform services fuel request eventTime =
      (do (← s.prepareBinding services request eventTime).finish platform fuel) := by
  rw [handleExtensionProcess, prepareBinding]
  cases s.updateExtensionStatusForCaller request with
  | error fault => rfl
  | ok caller => exact updateExtensionStatusForTarget_eq request eventTime

private theorem trackedReason_eq {request : UpdateRequest} {reason : AppStateUpdateReason}
    (eventTime : Int) (hReason : request.reason = reason) :
    Prod.fst <$> (if s.isProcExist request.target.pid request.target.uid
          (getOsAccountIdByUid request.target.uid) then
        match s.findBundle request.target.uid (getOsAccountIdByUid request.target.uid) with
        | none => .ok (s, false)
        | some bundle =>
            if (s.bundles bundle).priority ≤ reclaimPriorityKillableSystem then .ok (s, true)
            else if reason = .applicationSuspend then
              .ok (s.handleApplicationSuspend platform bundle)
            else do
              let proc ← (s.bundles bundle).findProcByPid request.target.pid
              if reason = .processTerminated then
                return s.handleTerminateProcess platform proc bundle
                  (getOsAccountIdByUid request.target.uid)
              else
                let s ← s.handleUpdateProcess platform fuel reason bundle proc eventTime
                return s.applyReclaimPriority bundle
      else .ok (s, false) : Except Fault (ReclaimPriorityManager × Bool)) =
      (do (← s.prepareTracked platform request eventTime).finish platform fuel) := by
  subst hReason
  rw [prepareTracked]
  split
  · cases s.findBundle request.target.uid (getOsAccountIdByUid request.target.uid) with
    | none => rfl
    | some bundle =>
        dsimp only
        split
        · rfl
        split
        · rfl
        cases (s.bundles bundle).findProcByPid request.target.pid with
        | error fault => rfl
        | ok proc =>
            simp only [bind, Except.bind]
            split
            · rfl
            · simp only [pure, Except.pure]
              rw [← handleUpdateProcess_eq]
              cases s.handleUpdateProcess platform fuel request.reason bundle proc eventTime <;> rfl
  · rfl

variable {reason : AppStateUpdateReason} {bundle : BundleRef} {pid eventTime : Int}
variable {proc : ProcessPriorityInfo}

theorem flagged_bundles : (s.flagged reason bundle proc eventTime).bundles =
    Function.update s.bundles bundle
      ((s.bundles bundle).setProc (changeProc reason eventTime (proc, s.handler)).1) := rfl

/-- Setting a flag leaves the priority of the bundle. -/
theorem flagged_priority : ((s.flagged reason bundle proc eventTime).bundles bundle).priority =
    (s.bundles bundle).priority := by
  rw [flagged_bundles, Function.update_self]
  rfl

/-- Setting a flag keeps the manager well formed. -/
theorem wellFormed_flagged (h : WellFormed s) (hTracks : s.TracksProc bundle pid proc) :
    WellFormed (s.flagged reason bundle proc eventTime) := by
  obtain ⟨hSame, hKept⟩ := changeProc_same reason eventTime proc s.handler
  have hEffect : Effect ⟨.none, .empty⟩ noBundle s
      (s.setProc bundle (changeProc reason eventTime (proc, s.handler)).1) := .edit hTracks hSame hKept
  exact (h.effect hEffect).congr rfl rfl rfl rfl

theorem tracksProc_flagged (h : WellFormed s) (hTracks : s.TracksProc bundle pid proc) :
    (s.flagged reason bundle proc eventTime).TracksProc bundle pid
      (changeProc reason eventTime (proc, s.handler)).1 := by
  refine ⟨(tracked_congr rfl).mpr hTracks.1, ?_⟩
  rw [flagged_bundles, Function.update_self, BundlePriorityInfo.setProc_procs]
  exact if_pos ((changeProc_same reason eventTime proc s.handler).1.pid.trans
    ((h.covered bundle).record _ _ hTracks.2).pid)

/-- What is left to recompute is a tracked record of a well formed state. -/
def Recomputable (s : ReclaimPriorityManager) (bundle : BundleRef) (proc : ProcessPriorityInfo) : Prop :=
  WellFormed s ∧ ∃ pid, s.TracksProc bundle pid proc

/-- What an update leaves to be recomputed can be. -/
theorem prepareUpdate_recompute {s₁ : ReclaimPriorityManager} {bundle₁ : BundleRef}
    {proc₁ : ProcessPriorityInfo} (h : WellFormed s) (hTracks : s.TracksProc bundle pid proc)
    (hPrepare : s.prepareUpdate reason bundle proc eventTime = .recompute s₁ bundle₁ proc₁) :
    s₁.Recomputable bundle₁ proc₁ := by
  rw [prepareUpdate_eq] at hPrepare
  split_ifs at hPrepare
  cases hPrepare
  exact ⟨wellFormed_flagged h hTracks, pid, tracksProc_flagged h hTracks⟩

/-- How the target of a binding can be prepared. -/
inductive PreparedTarget (s : ReclaimPriorityManager) (request : UpdateRequest) (eventTime : Int) :
    Prepared → Prop where
  | unchanged : PreparedTarget s request eventTime (.done s)
  | killable (apps : Std.ExtTreeSet String) :
      PreparedTarget s request eventTime (.done (s.noting s.handler apps))
  | bound {apps : Std.ExtTreeSet String} {bundle : BundleRef} {proc : ProcessPriorityInfo}
      (hTracks : (s.noting s.handler apps).TracksProc bundle request.target.pid proc) :
      PreparedTarget s request eventTime
        (((s.noting s.handler apps).setProc bundle (bindTarget request proc)).prepareUpdate
          request.reason bundle (bindTarget request proc) eventTime)

theorem preparedTarget {request : UpdateRequest} {prepared : Prepared}
    (hPrepare : s.prepareTarget services request eventTime = .ok prepared) :
    PreparedTarget s request eventTime prepared := by
  obtain ⟨found, hFound, hPrepare⟩ := bind_eq_ok.mp hPrepare
  cases found with
  | none =>
      cases hPrepare
      exact .unchanged
  | some found =>
      obtain ⟨bundle, proc⟩ := found
      obtain ⟨hFind, hProc⟩ := lookupProc_eq_some.mp hFound
      obtain ⟨apps, killable, hApps⟩ := isKillableSystemApp_eq s services bundle
      dsimp only at hPrepare
      rw [hApps] at hPrepare
      split_ifs at hPrepare
      · cases hPrepare
        exact .unchanged
      · cases hPrepare
        exact .killable apps
      · cases hPrepare
        exact .bound ⟨⟨_, _, hFind⟩, hProc⟩

/-- Binding a target keeps the manager well formed. -/
theorem wellFormed_bindTarget (h : WellFormed s) (hTracks : s.TracksProc bundle pid proc)
    (request : UpdateRequest) : WellFormed (s.setProc bundle (bindTarget request proc)) := by
  obtain ⟨hSame, hKept⟩ := bindTarget_same request proc
  have hEffect : Effect ⟨.none, .empty⟩ noBundle s (s.setProc bundle (bindTarget request proc)) :=
    .edit hTracks hSame hKept
  exact h.effect hEffect

/-- Updating the caller keeps the manager well formed. -/
theorem wellFormed_caller (h : WellFormed s) {request : UpdateRequest}
    {caller : ReclaimPriorityManager × Bool}
    (hCaller : s.updateExtensionStatusForCaller request = .ok caller) : WellFormed caller.1 := by
  have hChain : Chain ⟨.none, .empty⟩ noBundle s caller.1 :=
    updateExtensionStatusForCaller_chain hCaller
  exact h.chain hChain

theorem wellFormed_noting (h : WellFormed s) (handler : List DelayedTask)
    (apps : Std.ExtTreeSet String) : WellFormed (s.noting handler apps) := h.congr rfl rfl rfl rfl

/-- What the part of the target leaves to be recomputed can be. -/
theorem prepareTarget_recompute {request : UpdateRequest} {s₁ : ReclaimPriorityManager}
    {bundle₁ : BundleRef} {proc₁ : ProcessPriorityInfo} (h : WellFormed s)
    (hPrepare : s.prepareTarget services request eventTime = .ok (.recompute s₁ bundle₁ proc₁)) :
    s₁.Recomputable bundle₁ proc₁ := by
  generalize hIs : Prepared.recompute s₁ bundle₁ proc₁ = prepared at hPrepare
  cases preparedTarget hPrepare with
  | unchanged => cases hIs
  | killable apps => cases hIs
  | bound hTracks =>
      exact prepareUpdate_recompute (wellFormed_bindTarget (wellFormed_noting h _ _) hTracks request)
        (tracksProc_setProc hTracks) hIs.symm

/-- How a request that starts from a tracked bundle can be prepared. -/
inductive PreparedTracked (platform : Platform) (s : ReclaimPriorityManager)
    (request : UpdateRequest) (eventTime : Int) : Prepared → Prop where
  | unchanged : PreparedTracked platform s request eventTime (.done s)
  | suspended (bundle : BundleRef) (hReason : request.reason = .applicationSuspend) :
      PreparedTracked platform s request eventTime
        (.done (s.handleApplicationSuspend platform bundle).1)
  | terminated {bundle : BundleRef} {proc : ProcessPriorityInfo}
      (hReason : request.reason = .processTerminated)
      (hFind : s.findBundle request.target.uid (getOsAccountIdByUid request.target.uid) = some bundle)
      (hProc : (s.bundles bundle).procs[request.target.pid]? = some proc) :
      PreparedTracked platform s request eventTime
        (.done (s.handleTerminateProcess platform proc bundle
          (getOsAccountIdByUid request.target.uid)).1)
  | updated {bundle : BundleRef} {proc : ProcessPriorityInfo}
      (hReason : request.reason ≠ .applicationSuspend)
      (hTracks : s.TracksProc bundle request.target.pid proc) :
      PreparedTracked platform s request eventTime
        (s.prepareUpdate request.reason bundle proc eventTime)

theorem preparedTracked {request : UpdateRequest} {prepared : Prepared}
    (hPrepare : s.prepareTracked platform request eventTime = .ok prepared) :
    PreparedTracked platform s request eventTime prepared := by
  rw [prepareTracked] at hPrepare
  split at hPrepare
  · cases hFind : s.findBundle request.target.uid (getOsAccountIdByUid request.target.uid) with
    | none =>
        rw [hFind] at hPrepare
        cases hPrepare
        exact .unchanged
    | some bundle =>
        rw [hFind] at hPrepare
        dsimp only at hPrepare
        split_ifs at hPrepare with hKept hSuspend hTerminated
        · cases hPrepare
          exact .unchanged
        · cases hPrepare
          exact .suspended bundle hSuspend
        · obtain ⟨proc, hProc, hPrepare⟩ := bind_eq_ok.mp hPrepare
          cases hPrepare
          exact .terminated hTerminated hFind (BundlePriorityInfo.findProcByPid_eq_ok.mp hProc)
        · obtain ⟨proc, hProc, hPrepare⟩ := bind_eq_ok.mp hPrepare
          cases hPrepare
          exact .updated hSuspend
            ⟨⟨_, _, hFind⟩, BundlePriorityInfo.findProcByPid_eq_ok.mp hProc⟩
  · cases hPrepare
    exact .unchanged

theorem prepareRequest_recompute {request : UpdateRequest} {s₁ : ReclaimPriorityManager}
    {bundle₁ : BundleRef} {proc₁ : ProcessPriorityInfo} (h : WellFormed s)
    (hPrepare : s.prepareRequest platform services request eventTime =
      .ok (.recompute s₁ bundle₁ proc₁)) : s₁.Recomputable bundle₁ proc₁ := by
  have hBinding : s.prepareBinding services request eventTime = .ok (.recompute s₁ bundle₁ proc₁) →
      s₁.Recomputable bundle₁ proc₁ := by
    intro hPrepare
    obtain ⟨caller, hCaller, hPrepare⟩ := bind_eq_ok.mp hPrepare
    exact prepareTarget_recompute (wellFormed_caller h hCaller) hPrepare
  have hTracked : s.prepareTracked platform request eventTime = .ok (.recompute s₁ bundle₁ proc₁) →
      s₁.Recomputable bundle₁ proc₁ := by
    intro hPrepare
    generalize hIs : Prepared.recompute s₁ bundle₁ proc₁ = prepared at hPrepare
    cases preparedTracked hPrepare with
    | updated hReason hTracks => exact prepareUpdate_recompute h hTracks hIs.symm
    | _ => cases hIs
  rw [prepareRequest] at hPrepare
  cases hReason : request.reason <;> rw [hReason] at hPrepare
  case bindExtension => exact hBinding hPrepare
  case unbindExtension => exact hBinding hPrepare
  case createProcess => cases hPrepare
  case renderCreateProcess => cases hPrepare
  case abilityStart =>
    obtain ⟨started, -, hPrepare⟩ := bind_eq_ok.mp hPrepare
    cases hPrepare
  all_goals exact hTracked hPrepare

/-- A request is its preparation and the recomputation that is left. -/
theorem updateReclaimPriorityInner_eq (request : UpdateRequest) (eventTime : Int) :
    Prod.fst <$> s.updateReclaimPriorityInner platform services fuel request eventTime =
      (do (← s.prepareRequest platform services request eventTime).finish platform fuel) := by
  unfold updateReclaimPriorityInner prepareRequest
  cases hReason : request.reason
  case bindExtension => exact handleExtensionProcess_eq request eventTime
  case unbindExtension => exact handleExtensionProcess_eq request eventTime
  case createProcess => rfl
  case renderCreateProcess => rfl
  case abilityStart => cases s.handleAbilityStart platform request eventTime <;> rfl
  all_goals exact trackedReason_eq eventTime hReason

end ReclaimPriorityManager

namespace Service

variable (platform : Platform) (sys : Service)

/-- Any operation up to the recomputation of a priority. -/
def prepare : Op → Except Fault Prepared
  | .updateReclaimPriorityInner request eventTime services =>
      sys.manager.prepareRequest platform services request eventTime
  | .updateRecalimPrioritySyncWithLock request systemTimeMs => do
      let (s, _) ← sys.manager.updateRecalimPrioritySyncWithLock platform request systemTimeMs
      return .done s
  | .checkAbilityStartCompleted pid bundleUid accountId => do
      match ← sys.manager.lookupProc pid bundleUid accountId with
      | none => return .done sys.manager
      | some (bundle, proc) =>
          if proc.isAbilityStarting then
            let proc := { proc with isAbilityStarting := false }
            return .recompute (sys.manager.setProc bundle proc) bundle proc
          else return .done sys.manager
  | .checkCreateProcPriorityDelay pid uid => do
      match ← sys.manager.lookupProc pid uid (getOsAccountIdByUid uid) with
      | none => return .done sys.manager
      | some (bundle, proc) => return .recompute sys.manager bundle proc
  | .filterDiedProcess alivePids => .ok (.done (sys.manager.filterDiedProcess platform alivePids))
  | .setBundleState accountId uid state => .ok (.done (sys.manager.setBundleState accountId uid state))
  | .reset => .ok (.done sys.manager.reset)
  | .initAccounts _ => .ok (.done sys.manager)
  | .osAccountsChanged accountId switchMod answers =>
      .ok (.done (updateAllPrioForOsAccountChanged sys.accounts answers accountId switchMod
        sys.manager).manager)

variable {platform : Platform} {fuel : Nat} {sys : Service}

theorem exec_eq (op : Op) :
    Service.manager <$> sys.exec platform fuel op =
      (do (← sys.prepare platform op).finish platform fuel) := by
  cases op with
  | updateReclaimPriorityInner request eventTime services =>
      rw [prepare, ← updateReclaimPriorityInner_eq, exec]
      cases sys.manager.updateReclaimPriorityInner platform services fuel request eventTime <;> rfl
  | updateRecalimPrioritySyncWithLock request systemTimeMs =>
      rw [prepare, exec]
      cases sys.manager.updateRecalimPrioritySyncWithLock platform request systemTimeMs <;> rfl
  | checkAbilityStartCompleted pid bundleUid accountId =>
      rw [prepare, exec, checkAbilityStartCompleted]
      cases sys.manager.lookupProc pid bundleUid accountId with
      | error fault => rfl
      | ok found =>
          cases found with
          | none => rfl
          | some found =>
              simp only [bind, Except.bind]
              split_ifs
              · simp only [pure, Except.pure, Prepared.finish]
                cases (sys.manager.setProc found.1 { found.2 with
                  isAbilityStarting := false }).updatePriorityByProcStatus platform fuel found.1
                    { found.2 with isAbilityStarting := false } <;> rfl
              · rfl
  | checkCreateProcPriorityDelay pid uid =>
      rw [prepare, exec, checkCreateProcPriorityDelay]
      cases sys.manager.lookupProc pid uid (getOsAccountIdByUid uid) with
      | error fault => rfl
      | ok found =>
          cases found with
          | none => rfl
          | some found =>
              simp only [bind, Except.bind, pure, Except.pure, Prepared.finish]
              cases sys.manager.updatePriorityByProcStatus platform fuel found.1 found.2 <;> rfl
  | _ => rfl

/-- How far an operation can have come. -/
inductive PreparedBy (platform : Platform) (sys : Service) : Op → Prepared → Prop where
  | request {request eventTime services prepared}
      (hPrepare : sys.manager.prepareRequest platform services request eventTime = .ok prepared) :
      PreparedBy platform sys (.updateReclaimPriorityInner request eventTime services) prepared
  | syncStart {request systemTimeMs started}
      (hStarted : sys.manager.handleAbilityStart platform request systemTimeMs = .ok started) :
      PreparedBy platform sys (.updateRecalimPrioritySyncWithLock request systemTimeMs)
        (.done started.1)
  | startCompleted {pid bundleUid accountId bundle proc}
      (hTracks : sys.manager.TracksProc bundle pid proc) :
      PreparedBy platform sys (.checkAbilityStartCompleted pid bundleUid accountId)
        (.recompute (sys.manager.setProc bundle { proc with isAbilityStarting := false }) bundle
          { proc with isAbilityStarting := false })
  | createDelayed {pid uid bundle proc} (hTracks : sys.manager.TracksProc bundle pid proc) :
      PreparedBy platform sys (.checkCreateProcPriorityDelay pid uid)
        (.recompute sys.manager bundle proc)
  | purge (alivePids : Option (List Nat)) :
      PreparedBy platform sys (.filterDiedProcess alivePids)
        (.done (sys.manager.filterDiedProcess platform alivePids))
  | setState (accountId uid : Int) (state : BundleState) :
      PreparedBy platform sys (.setBundleState accountId uid state)
        (.done (sys.manager.setBundleState accountId uid state))
  | reset : PreparedBy platform sys .reset (.done sys.manager.reset)
  | switched (accountId : Int) (switchMod : OsAccountSwitchMod) (answers : AccountServices) :
      PreparedBy platform sys (.osAccountsChanged accountId switchMod answers)
        (.done (updateAllPrioForOsAccountChanged sys.accounts answers accountId switchMod
          sys.manager).manager)
  | unchanged (op : Op) : PreparedBy platform sys op (.done sys.manager)

theorem preparedBy {op : Op} {prepared : Prepared} (hPrepare : sys.prepare platform op = .ok prepared) :
    PreparedBy platform sys op prepared := by
  cases op with
  | updateReclaimPriorityInner request eventTime services => exact .request hPrepare
  | updateRecalimPrioritySyncWithLock request systemTimeMs =>
      obtain ⟨started, hStarted, hPrepare⟩ := bind_eq_ok.mp hPrepare
      cases hPrepare
      rw [updateRecalimPrioritySyncWithLock] at hStarted
      split_ifs at hStarted
      · cases hStarted
        exact .unchanged _
      · exact .syncStart hStarted
      · cases hStarted
        exact .unchanged _
  | checkAbilityStartCompleted pid bundleUid accountId =>
      obtain ⟨found, hFound, hPrepare⟩ := bind_eq_ok.mp hPrepare
      cases found with
      | none =>
          cases hPrepare
          exact .unchanged _
      | some found =>
          obtain ⟨hFind, hProc⟩ := lookupProc_eq_some.mp hFound
          dsimp only at hPrepare
          split_ifs at hPrepare
          · cases hPrepare
            exact .startCompleted ⟨⟨_, _, hFind⟩, hProc⟩
          · cases hPrepare
            exact .unchanged _
  | checkCreateProcPriorityDelay pid uid =>
      obtain ⟨found, hFound, hPrepare⟩ := bind_eq_ok.mp hPrepare
      cases found with
      | none =>
          cases hPrepare
          exact .unchanged _
      | some found =>
          obtain ⟨hFind, hProc⟩ := lookupProc_eq_some.mp hFound
          cases hPrepare
          exact .createDelayed ⟨⟨_, _, hFind⟩, hProc⟩
  | filterDiedProcess alivePids =>
      cases hPrepare
      exact .purge alivePids
  | setBundleState accountId uid state =>
      cases hPrepare
      exact .setState accountId uid state
  | reset =>
      cases hPrepare
      exact .reset
  | initAccounts answers =>
      cases hPrepare
      exact .unchanged _
  | osAccountsChanged accountId switchMod answers =>
      cases hPrepare
      exact .switched accountId switchMod answers

theorem prepare_recompute {op : Op} {s : ReclaimPriorityManager} {bundle : BundleRef}
    {proc : ProcessPriorityInfo} (h : WellFormed sys.manager)
    (hPrepare : sys.prepare platform op = .ok (.recompute s bundle proc)) :
    s.Recomputable bundle proc := by
  cases preparedBy hPrepare with
  | request hPrepare => exact prepareRequest_recompute h hPrepare
  | @startCompleted pid bundleUid accountId bundle found hTracks =>
      have hEffect : Effect ⟨.none, .empty⟩ noBundle sys.manager
          (sys.manager.setProc bundle { found with isAbilityStarting := false }) :=
        .edit hTracks ⟨rfl, rfl, rfl, rfl, rfl⟩ rfl
      exact ⟨h.effect hEffect, _, tracksProc_setProc hTracks⟩
  | createDelayed hTracks => exact ⟨h, _, hTracks⟩

theorem exec_eq_ok {op : Op} {sys' : Service} (hExec : sys.exec platform fuel op = .ok sys') :
    ∃ prepared, sys.prepare platform op = .ok prepared ∧
      prepared.finish platform fuel = .ok sys'.manager := by
  have hFinish := @exec_eq platform fuel sys op
  rw [hExec] at hFinish
  exact bind_eq_ok.mp hFinish.symm

theorem Step.prepared {op : Op} {sys' : Service} (hStep : Step platform sys op sys') :
    ∃ prepared fuel, sys.prepare platform op = .ok prepared ∧
      prepared.finish platform fuel = .ok sys'.manager := by
  obtain ⟨fuel, hExec⟩ := hStep
  obtain ⟨prepared, hPrepare, hFinish⟩ := exec_eq_ok hExec
  exact ⟨prepared, fuel, hPrepare, hFinish⟩

end Service
end MemMgr
