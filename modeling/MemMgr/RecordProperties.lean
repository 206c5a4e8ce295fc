import MemMgr.AbilityStartPriorities
import MemMgr.BundleMembers
import MemMgr.DanglingBindings
import MemMgr.SwitchedPriorities

/-! Properties of every tracked record. Most of what an operation does to a record leaves its
priority alone, starts an ability, or computes the priority again. A property that survives
these can be lost in three ways only: a creation, a suspension and a hot switch. -/
namespace MemMgr

open Execution ReclaimPriorityManager BundlePriorityInfo ProcessPriorityInfo MultiAccountManager

namespace ProcessPriorityInfo

/-- Two records with one priority and one bound for it. -/
structure SameBound (before after : ProcessPriorityInfo) : Prop where
  priority : after.priority = before.priority
  isImportant : after.isImportant = before.isImportant
  priorityIfImportant : after.priorityIfImportant = before.priorityIfImportant

/-- A property of the priority and its bound that a start keeps, and every priority that is
computed has. -/
structure Restored (good : ProcessPriorityInfo → Prop) : Prop where
  same : ∀ {before after}, good before → SameBound before after → good after
  started : ∀ {proc}, reclaimPriorityForeground ≤ proc.priority → good proc →
    good (proc.setPriority reclaimPriorityForeground)
  counted : ∀ {proc}, good proc → good (proc.setPriority proc.statusPriority)
  linked : ∀ {proc} {minExtensionPriority : Int}, 0 ≤ minExtensionPriority → good proc →
    good (proc.setPriority (proc.extensionPriority minExtensionPriority))

variable {before after proc : ProcessPriorityInfo} {good : ProcessPriorityInfo → Prop}

theorem SameIdentity.sameBound (h : SameIdentity before after) (hPriority : after.priority = before.priority) :
    SameBound before after :=
  ⟨hPriority, h.isImportant, h.priorityIfImportant⟩

/-- A process that satisfies the condition of a start is not below the foreground. -/
theorem foreground_le_of_satisfied (h : proc.checkSatifyAbilityStartCondition = true) :
    reclaimPriorityForeground ≤ proc.priority := by
  rw [checkSatifyAbilityStartCondition] at h
  split_ifs at h <;> omega

end ProcessPriorityInfo

namespace ReclaimPriorityManager

/-- Every tracked record has the property. -/
def Records (s : ReclaimPriorityManager) (good : ProcessPriorityInfo → Prop) : Prop :=
  ∀ bundle pid proc, s.TracksProc bundle pid proc → good proc

instance (s : ReclaimPriorityManager) (good : ProcessPriorityInfo → Prop) [DecidablePred good] :
    Decidable (s.Records good) :=
  inferInstanceAs (Decidable (∀ bundle pid proc, s.TracksProc bundle pid proc → good proc))

/-- Whether the app is killable that a creation puts its process in, unless an object cannot be
made or the process is recorded. -/
def admitted (services : Services) (s : ReclaimPriorityManager) (target : ReqProc) : Option Bool :=
  if s.findOsAccountById (getOsAccountIdByUid target.uid) = none ∧ !services.makeAccount then none
  else
    match s.findBundle target.uid (getOsAccountIdByUid target.uid) with
    | some bundle =>
        if target.pid ∈ (s.bundles bundle).procs then none
        else some (s.killableApp services (s.bundles bundle).name (s.bundles bundle).uid)
    | none =>
        if !services.makeBundle then none
        else some (s.killableApp services target.bundleName target.uid)

variable {platform : Platform} {services : Services} {s s₁ s' : ReclaimPriorityManager}
variable {bundle : BundleRef} {pid : Int} {proc after : ProcessPriorityInfo} {info : BundlePriorityInfo}
variable {good : ProcessPriorityInfo → Prop}

namespace Records

/-- The same records in the same maps. -/
theorem congr (h : s.Records good) (hMap : s'.osAccountsInfoMap = s.osAccountsInfoMap)
    (hHeap : s'.bundles = s.bundles) : s'.Records good :=
  fun bundle pid proc hTracks => h bundle pid proc ((tracksProc_congr hMap hHeap).mp hTracks)

/-- One object changes. -/
theorem update (h : s.Records good) (hTracked : ∀ other, s'.Tracked other → s.Tracked other)
    (hHeap : s'.bundles = Function.update s.bundles bundle info)
    (hInfo : s.Tracked bundle → ∀ (pid : Int) proc, info.procs[pid]? = some proc → good proc) :
    s'.Records good := by
  intro other pid proc hTracks
  rcases hTracks.of_update hHeap with ⟨hIs, hProc⟩ | ⟨-, hProc⟩
  · exact hInfo (hIs ▸ hTracked other hTracks.1) pid proc hProc
  · exact h other pid proc ⟨hTracked other hTracks.1, hProc⟩

theorem modifyBundle (h : s.Records good) {change : BundlePriorityInfo → BundlePriorityInfo}
    (hChange : s.Tracked bundle → ∀ (pid : Int) proc,
      (change (s.bundles bundle)).procs[pid]? = some proc → good proc) :
    (s.modifyBundle bundle change).Records good :=
  h.update (fun _ hTracked => hTracked) rfl hChange

/-- One record changes. -/
theorem setProc (h : s.Records good) (hAfter : good after) : (s.setProc bundle after).Records good := by
  apply h.modifyBundle
  intro hBundle pid found hFound
  rw [setProc_procs] at hFound
  split_ifs at hFound
  · exact Option.some.inj hFound ▸ hAfter
  · exact h bundle pid found ⟨hBundle, hFound⟩

theorem written (h : s.Records good) (bundle : BundleRef) : (s.writeBundleOomScoreAdj bundle).Records good :=
  h.congr writeBundleOomScoreAdj_osAccountsInfoMap writeBundleOomScoreAdj_bundles

end Records

section

variable (hGood : Restored good)
include hGood

/-- Flags and bindings are not what the property is about. -/
theorem prepareUpdate_records (hRecords : s.Records good) (hProc : good proc)
    (reason : AppStateUpdateReason) (eventTime : Int) :
    (s.prepareUpdate reason bundle proc eventTime).state.Records good := by
  obtain ⟨hSame, hPriority⟩ := changeProc_same reason eventTime proc s.handler
  have hSet : (s.setProc bundle (changeProc reason eventTime (proc, s.handler)).1).Records good :=
    hRecords.setProc (hGood.same hProc (hSame.sameBound hPriority))
  have hFlagged : (s.flagged reason bundle proc eventTime).Records good := hSet.congr rfl rfl
  rw [prepareUpdate_eq]
  split_ifs
  · exact hFlagged.written bundle
  · exact hFlagged

/-- The part of the target keeps what the records satisfy. -/
theorem prepareTarget_records (hRecords : s.Records good) {request : UpdateRequest} {eventTime : Int}
    {prepared : Prepared} (hPrepare : s.prepareTarget services request eventTime = .ok prepared) :
    prepared.state.Records good := by
  cases preparedTarget hPrepare with
  | unchanged => exact hRecords
  | killable apps => exact hRecords.congr rfl rfl
  | @bound apps bundle proc hTracks =>
      obtain ⟨hSame, hPriority⟩ := bindTarget_same request proc
      have hNoted : (s.noting s.handler apps).Records good := hRecords.congr rfl rfl
      have hBound : good (bindTarget request proc) :=
        hGood.same (hNoted bundle _ proc hTracks) (hSame.sameBound hPriority)
      exact prepareUpdate_records hGood (hNoted.setProc hBound) hBound request.reason eventTime

/-- The preparation of a binding keeps it. -/
theorem prepareBinding_records (hRecords : s.Records good) {request : UpdateRequest} {eventTime : Int}
    {prepared : Prepared} (hPrepare : s.prepareBinding services request eventTime = .ok prepared) :
    prepared.state.Records good := by
  obtain ⟨⟨called, ret⟩, hCaller, hPrepare⟩ := bind_eq_ok.mp hPrepare
  apply prepareTarget_records hGood _ hPrepare
  rcases updateExtensionStatusForCaller_form hCaller with rfl | ⟨bundle, proc, bindings, hTracks, rfl⟩
  · exact hRecords
  · exact hRecords.setProc (hGood.same (hRecords bundle _ proc hTracks) ⟨rfl, rfl, rfl⟩)

/-- Only a process behind the foreground, or at it, starts an ability. -/
theorem handleAbilityStart_records (hRecords : s.Records good) {request : UpdateRequest} {eventTime : Int}
    {ret : Bool} (hRun : s.handleAbilityStart platform request eventTime = .ok (s', ret)) :
    s'.Records good := by
  rcases handleAbilityStart_form hRun with rfl | ⟨bundle, proc, hFind, hProc, hSatisfied, rfl⟩
  · exact hRecords
  · have hRaised : good (proc.setPriority reclaimPriorityForeground) :=
      hGood.started (foreground_le_of_satisfied hSatisfied) (hRecords bundle _ proc ⟨⟨_, _, hFind⟩, hProc⟩)
    have hStarted : good (startedProc proc eventTime) := hGood.same hRaised ⟨rfl, rfl, rfl⟩
    have hTracked : ∀ other, (s.abilityStartingBegin platform bundle proc eventTime).Tracked other →
        s.Tracked other :=
      fun other => (tracked_congr (abilityStartingBegin_osAccountsInfoMap eventTime)).mp
    apply hRecords.update hTracked (abilityStartingBegin_bundles eventTime)
    intro hBundle pid found hFound
    rw [BundlePriorityInfo.updatePriority, setProc_procs] at hFound
    split_ifs at hFound
    · exact Option.some.inj hFound ▸ hStarted
    · exact hRecords bundle pid found ⟨hBundle, hFound⟩

/-- The filter of the died processes keeps what the records satisfy. -/
theorem filterDiedProcess_records (hRecords : s.Records good) (alivePids : Option (List Nat)) :
    (s.filterDiedProcess platform alivePids).Records good := by
  cases alivePids with
  | none => exact hRecords
  | some alivePids =>
      apply filterDiedProcess_invariant (fun s => s.Records good) hRecords
      intro s s' hPurge h
      have hSurvivors : ∀ bundle, s.Tracked bundle → ∀ (pid : Int) after,
          (filterDiedProcs alivePids (s.bundles bundle)).procs[pid]? = some after → good after := by
        intro bundle hBundle pid after hFound
        obtain ⟨before, hBefore, -, rfl⟩ := filterDiedProcs_lookup.mp hFound
        obtain ⟨toMe, fromMe, hForm⟩ := survivor_eq alivePids before
        rw [hForm]
        exact hGood.same (h bundle pid before ⟨hBundle, hBefore⟩) ⟨rfl, rfl, rfl⟩
      cases hPurge with
      | keep hMem hLeft => exact h.update (fun _ hTracked => hTracked) rfl (hSurvivors _)
      | orphan hMem hEmpty hNone => exact h.update (fun _ hTracked => hTracked) rfl (hSurvivors _)
      | drop position hAt hEmpty =>
          exact h.update (fun _ hTracked => tracked_of_removeBundle hTracked) rfl (hSurvivors _)

/-- A recomputation. -/
theorem updatePriorityByProcStatus_records {fuel : Nat} (hWf : WellFormed s) (hRecords : s.Records good)
    (hTracks : s.TracksProc bundle pid proc)
    (hRun : s.updatePriorityByProcStatus platform fuel bundle proc = .ok s') : s'.Records good := by
  apply updatePriorityByProcStatus_forall hWf hTracks hRecords _ _ hRun
  · intro _
    exact hGood.counted (hRecords bundle pid proc hTracks)
  · intro _ other _ _ priority minExtensionPriority hNonneg hBefore
    have hLinked := hGood.linked hNonneg hBefore
    rwa [setPriority_setPriority] at hLinked

end

/-- The end of a process keeps what the records satisfy. -/
theorem handleTerminateProcess_records (hRecords : s.Records good) (hWf : WellFormed s) {uid : Int}
    (hFind : s.findBundle uid (getOsAccountIdByUid uid) = some bundle)
    (hProc : (s.bundles bundle).procs[pid]? = some proc) :
    (s.handleTerminateProcess platform proc bundle (getOsAccountIdByUid uid)).1.Records good := by
  intro other key found hFound
  exact hRecords other key found ((tracksProc_terminated hWf hFind hProc other key).mp hFound).1

/-- The state of a bundle is no part of its records. -/
theorem setBundleState_records (hRecords : s.Records good) (accountId uid : Int) (state : BundleState) :
    (s.setBundleState accountId uid state).Records good := by
  rw [setBundleState]
  cases s.findBundle uid accountId with
  | none => exact hRecords
  | some bundle =>
      apply hRecords.modifyBundle
      intro hBundle pid found hFound
      exact hRecords bundle pid found ⟨hBundle, hFound⟩

/-- A creation adds one record at most, made for the app that the process is put in. -/
structure Enters (platform : Platform) (target : ReqProc) (killable : Option Bool)
    (s s' : ReclaimPriorityManager) : Prop where
  only : ∀ {bundle pid after}, s'.TracksProc bundle pid after →
    s.TracksProc bundle pid after ∨ ∃ app, killable = some app ∧ after = createdProc platform target app
  entered : ∀ {app}, killable = some app →
    ∃ bundle, s'.TracksProc bundle target.pid (createdProc platform target app)

section Creation

variable {target : ReqProc}

/-- A creation in the bundle of the uid. -/
theorem handleCreateProcess_finish_enters
    (hFind : s.findBundle target.uid (getOsAccountIdByUid target.uid) = some bundle) :
    Enters platform target
      (if target.pid ∈ (s.bundles bundle).procs then none
        else some (s.killableApp services (s.bundles bundle).name (s.bundles bundle).uid)) s
      (handleCreateProcess.finish platform services target (getOsAccountIdByUid target.uid) s bundle).1 := by
  obtain ⟨s', created, hForm, hCreated, hBundles, hOnly, hAll, -⟩ := handleCreateProcess_finish_joins
    platform services s target (getOsAccountIdByUid target.uid) bundle
  have hTracked : s.Tracked bundle := ⟨_, _, hFind⟩
  have hPid : created.pid = target.pid := by rw [hCreated, createdProc_pid]
  rw [hForm, ← isKillableSystemApp_snd]
  constructor
  · intro other pid found hFound
    rcases hFound.of_update hBundles with ⟨hIs, hProc⟩ | ⟨hIs, hProc⟩
    · rw [BundlePriorityInfo.updatePriority, addProc_procs, hPid] at hProc
      split_ifs at hProc with hNew
      · rw [if_neg hNew.2]
        exact Or.inr ⟨_, rfl, (Option.some.inj hProc).symm.trans hCreated⟩
      · exact Or.inl ⟨hIs ▸ hTracked, hIs ▸ hProc⟩
    · exact Or.inl ⟨(hOnly other hFound.1).resolve_left hIs, hProc⟩
  · intro app hApp
    split_ifs at hApp with hNew
    obtain rfl := Option.some.inj hApp
    refine ⟨bundle, hAll bundle hTracked, ?_⟩
    rw [hBundles, Function.update_self, BundlePriorityInfo.updatePriority, addProc_procs, hPid,
      if_pos ⟨rfl, hNew⟩, hCreated]

/-- A creation in a bundle of its own. -/
theorem handleCreateProcess_finish_enters_new (hWf : WellFormed s) {account : AccountBundleInfo}
    (hAccount : s.osAccountsInfoMap[getOsAccountIdByUid target.uid]? = some account)
    (hNone : s.findBundle target.uid (getOsAccountIdByUid target.uid) = none) :
    Enters platform target (some (s.killableApp services target.bundleName target.uid)) s
      (handleCreateProcess.finish platform services target (getOsAccountIdByUid target.uid)
        (s.newBundle platform (.create target.bundleName target.uid reclaimPriorityBackground
          services.systemCurTime)) s.nextRef).1 := by
  obtain ⟨s', created, hForm, hCreated, hBundles, hOnly, -, hOwn⟩ := handleCreateProcess_finish_joins
    platform services (s.newBundle platform (.create target.bundleName target.uid reclaimPriorityBackground
      services.systemCurTime)) target (getOsAccountIdByUid target.uid) s.nextRef
  have hPid : created.pid = target.pid := by rw [hCreated, createdProc_pid]
  have hNew : (s.newBundle platform (.create target.bundleName target.uid reclaimPriorityBackground
      services.systemCurTime)).bundles s.nextRef = .create target.bundleName target.uid
        reclaimPriorityBackground services.systemCurTime := by
    rw [newBundle_bundles, Function.update_self]
  have hKillable : created = createdProc platform target
      (s.killableApp services target.bundleName target.uid) := by
    rw [hCreated, isKillableSystemApp_snd, hNew]
    rfl
  have hProcs : ∀ pid : Int, (s'.bundles s.nextRef).procs[pid]? =
      if target.pid = pid then some created else none := by
    intro pid
    rw [hBundles, Function.update_self, BundlePriorityInfo.updatePriority, addProc_procs, hPid, hNew]
    simp [BundlePriorityInfo.create]
  rw [hForm]
  constructor
  · intro other pid found hFound
    rcases hOnly other hFound.1 with rfl | hOld
    · have hProc := hFound.2
      rw [hProcs] at hProc
      split_ifs at hProc
      exact Or.inr ⟨_, rfl, (Option.some.inj hProc).symm.trans hKillable⟩
    · have hTracked : s.Tracked other := hOld
      have hProc := hFound.2
      rw [hBundles, Function.update_of_ne (hWf.allocated hTracked).ne, newBundle_bundles,
        Function.update_of_ne (hWf.allocated hTracked).ne] at hProc
      exact Or.inl ⟨hTracked, hProc⟩
  · intro app hApp
    obtain rfl := Option.some.inj hApp
    refine ⟨s.nextRef, hOwn account hAccount ?_, by rw [hProcs, if_pos rfl, hKillable]⟩
    intro found hFound
    rw [hNew] at hFound
    have hStored : s.findBundle target.uid (getOsAccountIdByUid target.uid) = some found :=
      findBundle_eq_some.mpr ⟨account, hAccount, hFound⟩
    rw [hNone] at hStored
    cases hStored

/-- Nothing is created. -/
theorem Enters.none (hTracks : ∀ {bundle pid after}, s'.TracksProc bundle pid after →
    s.TracksProc bundle pid after) : Enters platform target .none s s' where
  only := fun hAfter => Or.inl (hTracks hAfter)
  entered := by simp

theorem handleCreateProcess_enters (hWf : WellFormed s) (target : ReqProc) :
    Enters platform target (s.admitted services target) s
      (s.handleCreateProcess platform services target (getOsAccountIdByUid target.uid) false).1 := by
  rw [handleCreateProcess, if_neg (by simp), admitted]
  split
  · exact .none id
  · cases hAccount : s.findOsAccountById (getOsAccountIdByUid target.uid) with
    | some account =>
        dsimp only
        cases hFind : s.findBundle target.uid (getOsAccountIdByUid target.uid) with
        | some bundle => exact handleCreateProcess_finish_enters hFind
        | none =>
            dsimp only
            split_ifs
            · exact .none id
            · exact handleCreateProcess_finish_enters_new hWf hAccount hFind
    | none =>
        have hEffect : Effect platform noBundle s
            (s.addOsAccountInfo (.create (getOsAccountIdByUid target.uid))) := .openAccount hAccount
        have hNone : s.findBundle target.uid (getOsAccountIdByUid target.uid) = none := by
          simp [findBundle, hAccount]
        have hOpened := (findBundle_openAccount hAccount target.uid
          (getOsAccountIdByUid target.uid)).trans hNone
        dsimp only
        rw [hNone, hOpened]
        dsimp only
        split_ifs
        · exact .none fun hFound => ⟨(tracked_openAccount hAccount).mp hFound.1, hFound.2⟩
        · have hEntry : (s.addOsAccountInfo (.create (getOsAccountIdByUid target.uid))).osAccountsInfoMap[
              getOsAccountIdByUid target.uid]? = some (.create (getOsAccountIdByUid target.uid)) := by
            have hFree : s.osAccountsInfoMap[(AccountBundleInfo.create
                (getOsAccountIdByUid target.uid)).id]? = none := hAccount
            rw [addOsAccountInfo_lookup hFree]
            exact if_pos rfl
          have hNew := @handleCreateProcess_finish_enters_new platform services _ target
            (hWf.effect hEffect) _ hEntry hOpened
          refine ⟨fun hFound => ?_, hNew.entered⟩
          exact (hNew.only hFound).imp_left fun hOld =>
            ⟨(tracked_openAccount hAccount).mp hOld.1, hOld.2⟩

end Creation

/-- A suspend gives every process of the bundle the priority of suspended ones. -/
theorem handleApplicationSuspend_tracksProc :
    (s.handleApplicationSuspend platform bundle).1.TracksProc bundle pid after ↔
      ∃ before, s.TracksProc bundle pid before ∧ after = before.setPriority reclaimPrioritySuspend := by
  rw [TracksProc, tracked_congr (handleApplicationSuspend_osAccountsInfoMap bundle),
    handleApplicationSuspend_bundles, Function.update_self, BundlePriorityInfo.updatePriority, suspendProcs,
    Std.ExtTreeMap.getElem?_map, Option.map_eq_some_iff]
  constructor
  · rintro ⟨hTracked, before, hBefore, rfl⟩
    exact ⟨before, ⟨hTracked, hBefore⟩, rfl⟩
  · rintro ⟨before, hTracks, rfl⟩
    exact ⟨hTracks.1, before, hTracks.2, rfl⟩

theorem handleApplicationSuspend_records (hRecords : s.Records good)
    (hSuspended : ∀ pid proc, s.TracksProc bundle pid proc → good (proc.setPriority reclaimPrioritySuspend)) :
    (s.handleApplicationSuspend platform bundle).1.Records good := by
  intro other pid after hAfter
  by_cases hIs : other = bundle
  · subst hIs
    obtain ⟨before, hBefore, rfl⟩ := handleApplicationSuspend_tracksProc.mp hAfter
    exact hSuspended pid before hBefore
  · have hProc := hAfter.2
    rw [handleApplicationSuspend_bundles, Function.update_of_ne hIs] at hProc
    exact hRecords other pid after
      ⟨(tracked_congr (handleApplicationSuspend_osAccountsInfoMap bundle)).mp hAfter.1, hProc⟩

end ReclaimPriorityManager

/-- How far a hot switch moves a bundle, and each of its processes with it. -/
def MultiAccountManager.moved (accounts : MultiAccountManager) (s : ReclaimPriorityManager)
    (updatedAccountIds : List Int) (bundle : BundleRef) : Int :=
  accounts.accountShift (getOsAccountIdByUid (s.bundles bundle).uid)
    (timesShifted s updatedAccountIds bundle) (s.bundles bundle).priority - (s.bundles bundle).priority

theorem MultiAccountManager.handleAccountHotSwitch_tracksProc {accounts : MultiAccountManager}
    {s : ReclaimPriorityManager} (hStored : StoredByUid s) {updatedAccountIds : List Int} {bundle : BundleRef}
    {pid : Int} {after : ProcessPriorityInfo} :
    (accounts.handleAccountHotSwitch updatedAccountIds s).TracksProc bundle pid after ↔
      ∃ before, s.TracksProc bundle pid before ∧
        after = before.setPriority (before.priority + accounts.moved s updatedAccountIds bundle) := by
  rw [TracksProc, tracked_congr (handleAccountHotSwitch_osAccountsInfoMap updatedAccountIds),
    handleAccountHotSwitch_object hStored, shifted_iterate_procs, Option.map_eq_some_iff]
  constructor
  · rintro ⟨hTracked, before, hBefore, rfl⟩
    exact ⟨before, ⟨hTracked, hBefore⟩, rfl⟩
  · rintro ⟨before, hTracks, rfl⟩
    exact ⟨hTracks.1, before, hTracks.2, rfl⟩

/-- The process an operation enters, and whether its app is killable. -/
def Op.admits (sys : Service) : Op → Option (ReqProc × Bool)
  | .updateReclaimPriorityInner request _ services =>
      if request.reason = .createProcess then
        (sys.manager.admitted services request.target).map fun killable => (request.target, killable)
      else none
  | _ => none

/-- The hot switch an operation carries out. -/
def Op.switches (sys : Service) (op : Op) : Option (MultiAccountManager × List Int) :=
  if sys.manager.initialized then op.hotSwitch sys.accounts else none

namespace Service

/-- What an operation enters, suspends or shifts has the property afterwards. -/
structure Spares (platform : Platform) (good : ProcessPriorityInfo → Prop) (sys : Service) (op : Op) : Prop where
  entered : ∀ target killable, op.admits sys = some (target, killable) →
    good (createdProc platform target killable)
  suspended : ∀ bundle, op.suspends sys = some bundle → ∀ pid proc, sys.manager.TracksProc bundle pid proc →
    good (proc.setPriority reclaimPrioritySuspend)
  shifted : ∀ used updatedAccountIds, op.switches sys = some (used, updatedAccountIds) →
    ∀ bundle pid proc, sys.manager.TracksProc bundle pid proc →
      good (proc.setPriority (proc.priority + used.moved sys.manager updatedAccountIds bundle))

variable {platform : Platform} {services : Services} {good : ProcessPriorityInfo → Prop}
variable {sys sys' : Service} {op : Op}

/-- Most operations write no priority that is not computed. -/
theorem suspends_of_computed (h : op.movesPriorities = false) : op.suspends sys = none := by
  cases op with
  | updateReclaimPriorityInner request eventTime services =>
      exact if_neg fun hCarried => of_decide_eq_false h hCarried.1
  | _ => rfl

theorem switches_of_computed (h : op.movesPriorities = false) : op.switches sys = none := by
  cases op with
  | osAccountsChanged accountId switchMod answers => cases h
  | _ => exact ite_self none

theorem updateAllPrioForOsAccountChanged_switches (accountId : Int) (switchMod : OsAccountSwitchMod)
    (answers : AccountServices) :
    (updateAllPrioForOsAccountChanged sys.accounts answers accountId switchMod sys.manager).manager =
      match (Op.osAccountsChanged accountId switchMod answers).switches sys with
      | none => sys.manager
      | some (used, updatedAccountIds) => used.handleAccountHotSwitch updatedAccountIds sys.manager :=
  updateAllPrioForOsAccountChanged_eq sys.accounts answers accountId switchMod sys.manager

theorem prepareTracked_records (hGood : Restored good) (hWf : WellFormed sys.manager)
    (hRecords : sys.manager.Records good) {request : UpdateRequest} {eventTime : Int} {prepared : Prepared}
    (hReason : request.reason ≠ .applicationSuspend)
    (hPrepare : sys.manager.prepareTracked platform request eventTime = .ok prepared) :
    prepared.state.Records good := by
  cases preparedTracked hPrepare with
  | unchanged => exact hRecords
  | suspended bundle hSuspend => exact absurd hSuspend hReason
  | terminated _ hFind hProc => exact handleTerminateProcess_records hRecords hWf hFind hProc
  | updated _ hTracks =>
      exact prepareUpdate_records hGood hRecords (hRecords _ _ _ hTracks) request.reason eventTime

theorem prepareRequest_records (hGood : Restored good) (hWf : WellFormed sys.manager)
    (hRecords : sys.manager.Records good) {request : UpdateRequest} {eventTime : Int} {prepared : Prepared}
    (hSpares : Spares platform good sys (.updateReclaimPriorityInner request eventTime services))
    (hPrepare : sys.manager.prepareRequest platform services request eventTime = .ok prepared) :
    prepared.state.Records good := by
  by_cases hSuspend : request.reason = .applicationSuspend
  · obtain rfl := Except.ok.inj (hPrepare.symm.trans (prepare_suspend hSuspend))
    cases hBundle : (Op.updateReclaimPriorityInner request eventTime services).suspends sys with
    | none => exact hRecords
    | some bundle => exact handleApplicationSuspend_records hRecords (hSpares.suspended bundle hBundle)
  rw [prepareRequest] at hPrepare
  cases hReason : request.reason <;> rw [hReason] at hPrepare
  case bindExtension => exact prepareBinding_records hGood hRecords hPrepare
  case unbindExtension => exact prepareBinding_records hGood hRecords hPrepare
  case createProcess =>
    cases hPrepare
    intro bundle pid after hAfter
    rcases (handleCreateProcess_enters hWf request.target).only hAfter with hOld | hNew
    · exact hRecords bundle pid after hOld
    · obtain ⟨killable, hAdmitted, rfl⟩ := hNew
      apply hSpares.entered
      rw [Op.admits, if_pos hReason, hAdmitted]
      rfl
  case renderCreateProcess =>
    cases hPrepare
    exact hRecords.congr rfl rfl
  case abilityStart =>
    obtain ⟨started, hStarted, hPrepare⟩ := bind_eq_ok.mp hPrepare
    cases hPrepare
    exact handleAbilityStart_records hGood hRecords hStarted
  all_goals exact prepareTracked_records hGood hWf hRecords hSuspend hPrepare

/-- An operation up to the recomputation of a priority. -/
theorem prepare_records (hGood : Restored good) (hWf : WellFormed sys.manager)
    (hRecords : sys.manager.Records good) {prepared : Prepared} (hSpares : Spares platform good sys op)
    (hPrepare : sys.prepare platform op = .ok prepared) : prepared.state.Records good := by
  cases Service.preparedBy hPrepare with
  | request hPrepare => exact prepareRequest_records hGood hWf hRecords hSpares hPrepare
  | syncStart hStarted => exact handleAbilityStart_records hGood hRecords hStarted
  | startCompleted hTracks =>
      exact hRecords.setProc (hGood.same (hRecords _ _ _ hTracks) ⟨rfl, rfl, rfl⟩)
  | createDelayed hTracks => exact hRecords
  | purge alivePids => exact filterDiedProcess_records hGood hRecords alivePids
  | setState accountId uid state => exact setBundleState_records hRecords accountId uid state
  | reset =>
      intro bundle pid proc hTracks
      exact absurd hTracks.1 (not_tracked_reset bundle)
  | switched accountId switchMod answers =>
      rw [Prepared.state, updateAllPrioForOsAccountChanged_switches]
      cases hSwitch : (Op.osAccountsChanged accountId switchMod answers).switches sys with
      | none => exact hRecords
      | some switch =>
          intro bundle pid after hAfter
          obtain ⟨before, hBefore, rfl⟩ := (handleAccountHotSwitch_tracksProc hWf.stored).mp hAfter
          exact hSpares.shifted switch.1 switch.2 hSwitch bundle pid before hBefore
  | unchanged => exact hRecords

/-- The operations that can lose the property leave the state they prepare. -/
theorem Step.entered_tracked {target : ReqProc} {killable : Bool} (hWf : WellFormed sys.manager)
    (hStep : Step platform sys op sys') (hAdmits : op.admits sys = some (target, killable)) :
    ∃ bundle pid, sys'.manager.TracksProc bundle pid (createdProc platform target killable) := by
  obtain ⟨prepared, fuel, hPrepare, hFinish⟩ := hStep.prepared
  cases op with
  | updateReclaimPriorityInner request eventTime services =>
      rw [Op.admits] at hAdmits
      split_ifs at hAdmits with hReason
      obtain ⟨app, hAdmitted, hSame⟩ := Option.map_eq_some_iff.mp hAdmits
      cases hSame
      rw [prepare, prepareRequest, hReason] at hPrepare
      cases hPrepare
      rw [← Except.ok.inj hFinish]
      obtain ⟨bundle, hTracks⟩ := (handleCreateProcess_enters hWf request.target).entered hAdmitted
      exact ⟨bundle, _, hTracks⟩
  | _ => cases hAdmits

/-- After a suspend its processes have the priority of suspended ones. -/
theorem Step.suspended_tracked {bundle : BundleRef} {pid : Int} {proc : ProcessPriorityInfo}
    (hStep : Step platform sys op sys') (hSuspends : op.suspends sys = some bundle)
    (hTracks : sys.manager.TracksProc bundle pid proc) :
    sys'.manager.TracksProc bundle pid (proc.setPriority reclaimPrioritySuspend) := by
  obtain ⟨prepared, fuel, hPrepare, hFinish⟩ := hStep.prepared
  cases op with
  | updateReclaimPriorityInner request eventTime services =>
      have hDone := Except.ok.inj (hPrepare.symm.trans (prepare_suspend (suspends_eq_some hSuspends).1))
      rw [hSuspends] at hDone
      rw [hDone] at hFinish
      rw [← Except.ok.inj hFinish]
      exact handleApplicationSuspend_tracksProc.mpr ⟨proc, hTracks, rfl⟩
  | _ => cases hSuspends

/-- After a switch of accounts the processes have the shifted priority. -/
theorem Step.shifted_tracked {used : MultiAccountManager} {updatedAccountIds : List Int} {bundle : BundleRef}
    {pid : Int} {proc : ProcessPriorityInfo} (hWf : WellFormed sys.manager)
    (hStep : Step platform sys op sys') (hSwitches : op.switches sys = some (used, updatedAccountIds))
    (hTracks : sys.manager.TracksProc bundle pid proc) :
    sys'.manager.TracksProc bundle pid
      (proc.setPriority (proc.priority + used.moved sys.manager updatedAccountIds bundle)) := by
  obtain ⟨prepared, fuel, hPrepare, hFinish⟩ := hStep.prepared
  cases op with
  | osAccountsChanged accountId switchMod answers =>
      cases hPrepare
      have hManager := Except.ok.inj hFinish
      rw [updateAllPrioForOsAccountChanged_switches, hSwitches] at hManager
      rw [← hManager]
      exact (handleAccountHotSwitch_tracksProc hWf.stored).mpr ⟨proc, hTracks, rfl⟩
  | _ =>
      rw [Op.switches] at hSwitches
      split_ifs at hSwitches
      cases hSwitches

/-- A step keeps the property exactly when it spares what it enters, suspends or shifts. -/
theorem Step.records_iff (hGood : Restored good) (hWf : WellFormed sys.manager)
    (hRecords : sys.manager.Records good) (hStep : Step platform sys op sys') :
    sys'.manager.Records good ↔ Spares platform good sys op := by
  constructor
  · intro hAfter
    constructor
    · intro target killable hAdmits
      obtain ⟨bundle, pid, hTracks⟩ := hStep.entered_tracked hWf hAdmits
      exact hAfter bundle pid _ hTracks
    · intro bundle hSuspends pid proc hTracks
      exact hAfter bundle pid _ (hStep.suspended_tracked hSuspends hTracks)
    · intro used updatedAccountIds hSwitches bundle pid proc hTracks
      exact hAfter bundle pid _ (hStep.shifted_tracked hWf hSwitches hTracks)
  · intro hSpares
    obtain ⟨prepared, fuel, hPrepare, hFinish⟩ := hStep.prepared
    have hPrepared := prepare_records hGood hWf hRecords hSpares hPrepare
    cases prepared with
    | done s =>
        cases hFinish
        exact hPrepared
    | recompute s bundle proc =>
        obtain ⟨hWf₁, pid, hTracks⟩ := prepare_recompute hWf hPrepare
        obtain ⟨after, hUpdate, hWrite⟩ := bind_eq_ok.mp hFinish
        rw [← Except.ok.inj hWrite]
        exact (updatePriorityByProcStatus_records hGood hWf₁ hPrepared hTracks hUpdate).written bundle

/-- In a run whose steps spare them, every record has the property. -/
theorem Run.records (hGood : Restored good) (run : Run platform (Spares platform good) sys) :
    sys.manager.Records good := by
  apply run.keeps fun s => s.Records good
  · intro bundle pid proc hTracks
    exact absurd hTracks.1 (not_tracked_init platform bundle)
  · intro sys op sys' hWf hRecords hSpares hStep
    exact (hStep.records_iff hGood hWf hRecords).mpr hSpares

end Service
end MemMgr
