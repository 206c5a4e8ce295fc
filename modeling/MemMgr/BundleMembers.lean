import MemMgr.AbilityStart

/-! Who is in a bundle, and in which state it is. Only a creation adds a process to a
bundle, and only the killer sets a state. -/
namespace MemMgr

open Execution ReclaimPriorityManager BundlePriorityInfo ProcessPriorityInfo

/-- No process enters a bundle, no bundle is tracked anew, and the states stay. -/
structure NoneJoins (s s' : ReclaimPriorityManager) : Prop where
  tracked : ∀ {bundle}, s'.Tracked bundle → s.Tracked bundle
  uid : ∀ bundle, (s'.bundles bundle).uid = (s.bundles bundle).uid
  state : ∀ bundle, (s'.bundles bundle).state = (s.bundles bundle).state
  absent : ∀ {bundle} {pid : Int}, (s.bundles bundle).procs[pid]? = none →
    (s'.bundles bundle).procs[pid]? = none

variable {platform : Platform} {services : Services} {s s₁ s' : ReclaimPriorityManager}
variable {bundle : BundleRef} {pid : Int} {proc : ProcessPriorityInfo} {info : BundlePriorityInfo}

namespace NoneJoins

/-- With the heap left alone, nobody joins a bundle. -/
theorem of_heap (hTracked : ∀ other, s'.Tracked other → s.Tracked other)
    (hHeap : s'.bundles = s.bundles) : NoneJoins s s' where
  tracked := hTracked _
  uid := by simp [hHeap]
  state := by simp [hHeap]
  absent := by simp [hHeap]

theorem refl (s : ReclaimPriorityManager) : NoneJoins s s := .of_heap (fun _ h => h) rfl

theorem congr (hMap : s'.osAccountsInfoMap = s.osAccountsInfoMap) (hHeap : s'.bundles = s.bundles) :
    NoneJoins s s' := .of_heap (fun _ => (tracked_congr hMap).mp) hHeap

/-- If nobody joins in the first change nor in the second, nobody joins in both. -/
theorem trans (left : NoneJoins s s₁) (right : NoneJoins s₁ s') : NoneJoins s s' where
  tracked hTracked := left.tracked (right.tracked hTracked)
  uid bundle := (right.uid bundle).trans (left.uid bundle)
  state bundle := (right.state bundle).trans (left.state bundle)
  absent hNone := right.absent (left.absent hNone)

/-- Where only one bundle changes and gains no pid, no process joins another bundle. -/
theorem update (hTracked : ∀ other, s'.Tracked other → s.Tracked other)
    (hHeap : s'.bundles = Function.update s.bundles bundle info)
    (hUid : info.uid = (s.bundles bundle).uid) (hState : info.state = (s.bundles bundle).state)
    (hAbsent : ∀ {pid : Int}, (s.bundles bundle).procs[pid]? = none → info.procs[pid]? = none) :
    NoneJoins s s' := by
  constructor
  · exact hTracked _
  · intro other
    rw [hHeap, Function.update_apply]
    split_ifs with hIs
    · rw [hUid, hIs]
    · rfl
  · intro other
    rw [hHeap, Function.update_apply]
    split_ifs with hIs
    · rw [hState, hIs]
    · rfl
  · intro other key hNone
    rw [hHeap, Function.update_apply]
    split_ifs with hIs
    · exact hAbsent (hIs ▸ hNone)
    · exact hNone

/-- A record is written where one was, and its bundle perhaps sorted again. -/
theorem record {after : ProcessPriorityInfo} (hMap : s'.osAccountsInfoMap = s.osAccountsInfoMap)
    (hHeap : s'.bundles = Function.update s.bundles bundle ((s.bundles bundle).setProc after) ∨
      s'.bundles = Function.update s.bundles bundle ((s.bundles bundle).setProc after).updatePriority)
    (hProc : (s.bundles bundle).procs[pid]? = some proc) (hPid : after.pid = pid) : NoneJoins s s' := by
  have hTracked : ∀ other, s'.Tracked other → s.Tracked other := fun _ => (tracked_congr hMap).mp
  have hAbsent : ∀ {key : Int}, (s.bundles bundle).procs[key]? = none →
      ((s.bundles bundle).setProc after).procs[key]? = none := by
    intro key hNone
    rw [setProc_procs, if_neg]
    · exact hNone
    · intro hKey
      rw [← hKey, hPid, hProc] at hNone
      cases hNone
  rcases hHeap with hHeap | hHeap
  · exact .update hTracked hHeap rfl rfl hAbsent
  · exact .update hTracked hHeap rfl rfl hAbsent

/-- A record that is written back under its pid joins no bundle. -/
theorem setProc {after : ProcessPriorityInfo} (hWf : WellFormed s)
    (hTracks : s.TracksProc bundle pid proc) (hPid : after.pid = proc.pid) :
    NoneJoins s (s.setProc bundle after) :=
  .record rfl (Or.inl rfl) hTracks.2 (hPid.trans ((hWf.covered bundle).record _ _ hTracks.2).pid)

/-- Writing the file of a bundle changes no member. -/
theorem written (bundle : BundleRef) : NoneJoins s (s.writeBundleOomScoreAdj bundle) :=
  .congr writeBundleOomScoreAdj_osAccountsInfoMap writeBundleOomScoreAdj_bundles

end NoneJoins

/-- A binding noted at its caller brings nobody into a bundle. -/
theorem updateExtensionStatusForCaller_noneJoins (hWf : WellFormed s) {request : UpdateRequest} {ret : Bool}
    (hRun : s.updateExtensionStatusForCaller request = .ok (s', ret)) : NoneJoins s s' := by
  rcases updateExtensionStatusForCaller_form hRun with rfl | ⟨bundle, proc, bindings, hTracks, rfl⟩
  · exact .refl _
  · exact .setProc hWf hTracks rfl

/-- A status event brings nobody into a bundle. -/
theorem prepareUpdate_noneJoins (hWf : WellFormed s) (hTracks : s.TracksProc bundle pid proc)
    (reason : AppStateUpdateReason) (eventTime : Int) :
    NoneJoins s (s.prepareUpdate reason bundle proc eventTime).state := by
  have hSet : NoneJoins s (s.setProc bundle (changeProc reason eventTime (proc, s.handler)).1) :=
    .setProc hWf hTracks (changeProc_same reason eventTime proc s.handler).1.pid
  have hFlagged : NoneJoins s (s.flagged reason bundle proc eventTime) := hSet.trans (.congr rfl rfl)
  rw [prepareUpdate_eq]
  split_ifs
  · exact hFlagged.trans (.written bundle)
  · exact hFlagged

/-- A binding noted at its target brings nobody into a bundle. -/
theorem prepareTarget_noneJoins (hWf : WellFormed s) {request : UpdateRequest} {eventTime : Int}
    {prepared : Prepared} (hPrepare : s.prepareTarget services request eventTime = .ok prepared) :
    NoneJoins s prepared.state := by
  cases preparedTarget hPrepare with
  | unchanged => exact .refl s
  | killable apps => exact .congr rfl rfl
  | @bound apps bundle proc hTracks =>
      have hNoted : WellFormed (s.noting s.handler apps) := wellFormed_noting hWf _ _
      have hNote : NoneJoins s (s.noting s.handler apps) := .congr rfl rfl
      have hBind : NoneJoins (s.noting s.handler apps)
          ((s.noting s.handler apps).setProc bundle (bindTarget request proc)) :=
        .setProc hNoted hTracks (bindTarget_same request proc).1.pid
      exact (hNote.trans hBind).trans (prepareUpdate_noneJoins
        (wellFormed_bindTarget hNoted hTracks request) (tracksProc_setProc hTracks) request.reason
        eventTime)

/-- Bindings bring nobody into a bundle. -/
theorem prepareBinding_noneJoins (hWf : WellFormed s) {request : UpdateRequest} {eventTime : Int}
    {prepared : Prepared} (hPrepare : s.prepareBinding services request eventTime = .ok prepared) :
    NoneJoins s prepared.state := by
  obtain ⟨caller, hCaller, hPrepare⟩ := bind_eq_ok.mp hPrepare
  exact (updateExtensionStatusForCaller_noneJoins hWf hCaller).trans
    (prepareTarget_noneJoins (wellFormed_caller hWf hCaller) hPrepare)

/-- The end of a process brings nobody into a bundle. -/
theorem handleTerminateProcess_noneJoins (hWf : WellFormed s) {uid : Int}
    (hFind : s.findBundle uid (getOsAccountIdByUid uid) = some bundle)
    (hProc : (s.bundles bundle).procs[pid]? = some proc) :
    NoneJoins s (s.handleTerminateProcess platform proc bundle (getOsAccountIdByUid uid)).1 := by
  have hAfter := wellFormed_withoutProc hWf hFind hProc platform
  rw [handleTerminateProcess_eq]
  apply NoneJoins.update
  · intro other hTracked
    rw [tracked_closeIfEmpty hAfter.accountId] at hTracked
    exact ((tracked_withoutProc hWf hFind platform proc other).mp hTracked).1
  · rw [closeIfEmpty_bundles]
    exact withoutProc_bundles platform s bundle _ proc
  · split_ifs <;> rfl
  · split_ifs <;> rfl
  · intro key hNone
    have hLeft : ((s.bundles bundle).removeProcByPid proc.pid).procs[key]? = none := by
      rw [removeProcByPid_procs, hNone]
      exact ite_self none
    split_ifs <;> exact hLeft

/-- A suspension brings nobody into a bundle. -/
theorem handleApplicationSuspend_noneJoins (bundle : BundleRef) :
    NoneJoins s (s.handleApplicationSuspend platform bundle).1 := by
  apply NoneJoins.update _ (handleApplicationSuspend_bundles bundle) rfl rfl
  · intro key hNone
    rw [BundlePriorityInfo.updatePriority, suspendProcs, Std.ExtTreeMap.getElem?_map, hNone]
    rfl
  · exact fun other => (tracked_congr (handleApplicationSuspend_osAccountsInfoMap bundle)).mp

/-- The start of an ability brings nobody into a bundle. -/
theorem handleAbilityStart_noneJoins (hWf : WellFormed s) {request : UpdateRequest} {eventTime : Int}
    {ret : Bool} (hRun : s.handleAbilityStart platform request eventTime = .ok (s', ret)) :
    NoneJoins s s' := by
  rcases handleAbilityStart_form hRun with rfl | ⟨bundle, proc, hFind, hProc, -, rfl⟩
  · exact .refl _
  · have hPid : (startedProc proc eventTime).pid = request.target.pid :=
      ((hWf.covered bundle).record _ _ hProc).pid
    have hBegun : NoneJoins s (s.abilityStartingBegin platform bundle proc eventTime) :=
      .record (abilityStartingBegin_osAccountsInfoMap eventTime)
        (Or.inr (abilityStartingBegin_bundles eventTime)) hProc hPid
    exact hBegun.trans (.congr rfl rfl)

/-- The events of tracked processes bring nobody into a bundle. -/
theorem prepareTracked_noneJoins (hWf : WellFormed s) {request : UpdateRequest} {eventTime : Int}
    {prepared : Prepared} (hPrepare : s.prepareTracked platform request eventTime = .ok prepared) :
    NoneJoins s prepared.state := by
  cases preparedTracked hPrepare with
  | unchanged => exact .refl s
  | suspended bundle hReason => exact handleApplicationSuspend_noneJoins bundle
  | terminated hReason hFind hProc => exact handleTerminateProcess_noneJoins hWf hFind hProc
  | updated hReason hTracks => exact prepareUpdate_noneJoins hWf hTracks request.reason eventTime

/-- A purge only takes processes away. -/
theorem filterDiedProcess_noneJoins (alivePids : Option (List Nat)) :
    NoneJoins s (s.filterDiedProcess platform alivePids) := by
  cases alivePids with
  | none => exact .refl s
  | some alivePids =>
      have hAbsent : ∀ {info : BundlePriorityInfo} {pid : Int}, info.procs[pid]? = none →
          (filterDiedProcs alivePids info).procs[pid]? = none := by
        intro info pid hNone
        by_contra hSome
        obtain ⟨after, hAfter⟩ := Option.ne_none_iff_exists'.mp hSome
        obtain ⟨before, hBefore, -⟩ := filterDiedProcs_lookup.mp hAfter
        exact absurd (hNone.symm.trans hBefore) (by simp)
      have hRound : ∀ {s s'}, Purge platform alivePids s s' → NoneJoins s s' := by
        intro s s' hPurge
        cases hPurge with
        | keep hMem hLeft => exact .update (fun _ hTracked => hTracked) rfl rfl rfl hAbsent
        | orphan hMem hEmpty hNone => exact .update (fun _ hTracked => hTracked) rfl rfl rfl hAbsent
        | drop position hAt hEmpty =>
            exact .update (fun _ hTracked => tracked_of_removeBundle hTracked) rfl rfl rfl hAbsent
      exact filterDiedProcess_invariant (NoneJoins s) (.refl s) fun hPurge h => h.trans (hRound hPurge)

/-- A hot switch moves priorities and brings nobody into a bundle. -/
theorem handleAccountHotSwitch_noneJoins (accounts : MultiAccountManager) (updatedAccountIds : List Int) :
    NoneJoins s (accounts.handleAccountHotSwitch updatedAccountIds s) := by
  apply MultiAccountManager.handleAccountHotSwitch_invariant (fun s' => NoneJoins s s')
  · intro s' uid accountId bundle _ _ h
    apply h.trans
    apply NoneJoins.update _ (MultiAccountManager.shiftBundle_bundles accountId bundle) rfl rfl
    · intro key hNone
      rw [MultiAccountManager.shifted, increaseProcsPriority_procs, hNone]
      rfl
    · exact fun other =>
        (tracked_congr (MultiAccountManager.shiftBundle_osAccountsInfoMap _ _)).mp
  · exact .congr rfl rfl

/-- The loop over the connected extensions prices them and brings in nobody. -/
theorem setConnectExtensionProcPrio_noneJoins (hWf : WellFormed s) {procSet : List ProcessPriorityInfo}
    (hRun : setConnectExtensionProcPrio platform procSet s = .ok s') : NoneJoins s s' := by
  induction procSet generalizing s with
  | nil =>
      cases hRun
      exact .refl _
  | cons extensionProcess procSet ih =>
      obtain ⟨minExtensionPriority, hNonneg, -, ⟨-, hRun⟩ | ⟨bundle, proc, hFound, hRun⟩⟩ :=
        setConnectExtensionProcPrio_cons hRun
      · exact ih hWf hRun
      · obtain ⟨hFind, hProc⟩ := lookupProc_eq_some.mp hFound
        have hTracks : s.TracksProc bundle extensionProcess.pid proc := ⟨⟨_, _, hFind⟩, hProc⟩
        have hPid := ((hWf.covered bundle).record _ _ hProc).pid
        have hRelink : NoneJoins s (relink platform s bundle
            (proc.setPriority (proc.extensionPriority minExtensionPriority))) :=
          .record rfl (Or.inr (relink_bundles _ _)) hProc hPid
        exact hRelink.trans (ih (hWf.relink hTracks hNonneg) hRun)

/-- The recomputation of priorities brings nobody into a bundle. -/
theorem updatePriorityByProcStatus_noneJoins (hWf : WellFormed s) {fuel : Nat}
    (hTracks : s.TracksProc bundle pid proc)
    (hRun : s.updatePriorityByProcStatus platform fuel bundle proc = .ok s') : NoneJoins s s' := by
  have hPid := ((hWf.covered bundle).record _ _ hTracks.2).pid
  have hFlags : NoneJoins s (withFlagPriority platform s bundle proc) :=
    .record rfl (Or.inr (withFlagPriority_bundles _ _)) hTracks.2 hPid
  rw [updatePriorityByProcStatus_eq hWf hTracks] at hRun
  split_ifs at hRun
  · cases hRun
    exact .refl _
  · obtain ⟨procVec, -, hRun⟩ := bind_eq_ok.mp hRun
    split_ifs at hRun
    · cases hRun
      exact hFlags
    · obtain ⟨procSet, -, hRun⟩ := bind_eq_ok.mp hRun
      exact hFlags.trans (setConnectExtensionProcPrio_noneJoins (hWf.withFlagPriority hTracks) hRun)

/-- The process a creation is about. A render process is not tracked. -/
def Op.created : Op → Option ReqProc
  | .updateReclaimPriorityInner request _ _ =>
      if request.reason = .createProcess then some request.target else none
  | _ => none

/-- The operation sets a state, as only the killer does. -/
def Op.setsState : Op → Bool
  | .setBundleState _ _ _ => true
  | _ => false

namespace Service

variable {sys sys' : Service} {op : Op}

/-- Every request but a creation leaves the members of the bundles, or takes some away. -/
theorem prepareRequest_noneJoins (hWf : WellFormed s) {request : UpdateRequest} {eventTime : Int}
    {prepared : Prepared} (hReason : request.reason ≠ .createProcess)
    (hPrepare : s.prepareRequest platform services request eventTime = .ok prepared) :
    NoneJoins s prepared.state := by
  rw [prepareRequest] at hPrepare
  cases hIs : request.reason <;> rw [hIs] at hPrepare
  case bindExtension => exact prepareBinding_noneJoins hWf hPrepare
  case unbindExtension => exact prepareBinding_noneJoins hWf hPrepare
  case createProcess => exact absurd hIs hReason
  case renderCreateProcess =>
    cases hPrepare
    exact .congr rfl rfl
  case abilityStart =>
    obtain ⟨started, hStarted, hPrepare⟩ := bind_eq_ok.mp hPrepare
    cases hPrepare
    exact handleAbilityStart_noneJoins hWf hStarted
  all_goals exact prepareTracked_noneJoins hWf hPrepare

/-- Every operation but a creation leaves the members of the bundles, or takes some away. -/
theorem prepare_noneJoins {prepared : Prepared} (hWf : WellFormed sys.manager)
    (hCreated : op.created = none) (hState : op.setsState = false)
    (hPrepare : sys.prepare platform op = .ok prepared) : NoneJoins sys.manager prepared.state := by
  cases Service.preparedBy hPrepare with
  | @request request eventTime services _ hPrepare =>
      apply prepareRequest_noneJoins hWf _ hPrepare
      intro hReason
      rw [Op.created, if_pos hReason] at hCreated
      cases hCreated
  | syncStart hStarted => exact handleAbilityStart_noneJoins hWf hStarted
  | startCompleted hTracks => exact .setProc hWf hTracks rfl
  | createDelayed hTracks => exact .refl _
  | purge alivePids => exact filterDiedProcess_noneJoins alivePids
  | setState accountId uid state => cases hState
  | reset =>
      have hTracked : ∀ bundle, sys.manager.reset.Tracked bundle → sys.manager.Tracked bundle :=
        fun bundle hTracked => absurd hTracked (not_tracked_reset bundle)
      exact .of_heap hTracked rfl
  | switched accountId switchMod answers =>
      rcases updateAllPrioForOsAccountChanged_manager sys.accounts answers accountId switchMod
        sys.manager with hKept | ⟨used, updatedAccountIds, -, hManager⟩
      · rw [Prepared.state, hKept]
        exact .refl _
      · rw [Prepared.state, hManager]
        exact handleAccountHotSwitch_noneJoins used updatedAccountIds
  | unchanged => exact .refl _

/-- Nothing else makes a process join or sets a state. -/
theorem Step.noneJoins (hWf : WellFormed sys.manager) (hCreated : op.created = none)
    (hState : op.setsState = false) (hStep : Step platform sys op sys') :
    NoneJoins sys.manager sys'.manager := by
  obtain ⟨prepared, fuel, hPrepare, hFinish⟩ := hStep.prepared
  have hFirst := prepare_noneJoins hWf hCreated hState hPrepare
  cases prepared with
  | done s =>
      cases hFinish
      exact hFirst
  | recompute s bundle proc =>
      obtain ⟨hWf₁, pid, hTracks⟩ := prepare_recompute hWf hPrepare
      obtain ⟨after, hUpdate, hWrite⟩ := bind_eq_ok.mp hFinish
      rw [← Except.ok.inj hWrite]
      exact (hFirst.trans (updatePriorityByProcStatus_noneJoins hWf₁ hTracks hUpdate)).trans
        (.written bundle)

end Service

/-- A process joins its bundle, which stays as it is but for that; a bundle made for it is in the
default state. -/
structure Joins (target : ReqProc) (s s' : ReclaimPriorityManager) : Prop where
  own : ∀ {bundle}, s.findBundle target.uid (getOsAccountIdByUid target.uid) = some bundle →
    s'.Tracked bundle ∧ (s'.bundles bundle).uid = (s.bundles bundle).uid ∧
      (s'.bundles bundle).state = (s.bundles bundle).state ∧
      ∃ proc, (s'.bundles bundle).procs[target.pid]? = some proc
  others : ∀ {bundle}, s'.Tracked bundle →
    s.findBundle target.uid (getOsAccountIdByUid target.uid) ≠ some bundle →
    s.Tracked bundle ∧ s'.bundles bundle = s.bundles bundle ∨
      (s'.bundles bundle).state = .stateDefault

namespace ReclaimPriorityManager

theorem createdProc_pid (platform : Platform) (target : ReqProc) (killable : Bool) :
    (createdProc platform target killable).pid = target.pid := by
  rw [createdProc]
  dsimp only
  split_ifs <;> rfl

/-- The end of a creation adds its process to the bundle. -/
theorem handleCreateProcess_finish_joins (platform : Platform) (services : Services)
    (s : ReclaimPriorityManager) (target : ReqProc) (accountId : Int) (bundle : BundleRef) :
    ∃ s' proc, (handleCreateProcess.finish platform services target accountId s bundle).1 = s' ∧
      proc = createdProc platform target (s.isKillableSystemApp services bundle).2 ∧
      s'.bundles = Function.update s.bundles bundle ((s.bundles bundle).addProc proc).updatePriority ∧
      (∀ other, s'.Tracked other → other = bundle ∨ s.Tracked other) ∧
      (∀ other, s.Tracked other → s'.Tracked other) ∧
      ∀ account, s.osAccountsInfoMap[accountId]? = some account →
        (∀ found, account.bundleIdInfoMapping[(s.bundles bundle).uid]? = some found → found = bundle) →
        s'.Tracked bundle := by
  obtain ⟨apps, killable, hApps⟩ := isKillableSystemApp_eq s services bundle
  have hForm : (handleCreateProcess.finish platform services target accountId s bundle).1 =
      ((((s.noting s.handler apps).admitProc platform bundle accountId
        (createdProc platform target killable)).noting (s.handler ++
          [DelayedTask.checkCreateProcPriorityDelay target.pid target.uid]) apps).applyReclaimPriority
            bundle).1 := by
    rw [handleCreateProcess.finish, hApps]
    rfl
  have hBundles : ((s.noting s.handler apps).admitProc platform bundle accountId
      (createdProc platform target killable)).bundles = Function.update s.bundles bundle
        ((s.bundles bundle).addProc (createdProc platform target killable)).updatePriority :=
    admitProc_bundles accountId
  have hOnly : ∀ other, ((s.noting s.handler apps).admitProc platform bundle accountId
      (createdProc platform target killable)).Tracked other → other = bundle ∨ s.Tracked other := by
    intro other hTracked
    exact (tracked_of_admitProc hTracked).imp_right (tracked_congr rfl).mp
  have hAll : ∀ other, s.Tracked other → ((s.noting s.handler apps).admitProc platform bundle accountId
      (createdProc platform target killable)).Tracked other := by
    intro other hTracked
    have hNoted : (s.noting s.handler apps).Tracked other := (tracked_congr rfl).mpr hTracked
    exact hNoted.admitProc
  have hOwn : ∀ account, s.osAccountsInfoMap[accountId]? = some account →
      (∀ found, account.bundleIdInfoMapping[(s.bundles bundle).uid]? = some found → found = bundle) →
      ((s.noting s.handler apps).admitProc platform bundle accountId
        (createdProc platform target killable)).Tracked bundle := by
    intro account hAccount hFind
    exact tracked_admitProc hAccount hFind
  generalize (s.noting s.handler apps).admitProc platform bundle accountId
    (createdProc platform target killable) = admitted at hForm hBundles hOnly hAll hOwn
  have hMap : (((admitted.noting (s.handler ++ [DelayedTask.checkCreateProcPriorityDelay target.pid
      target.uid]) apps).applyReclaimPriority bundle).1).osAccountsInfoMap = admitted.osAccountsInfoMap :=
    writeBundleOomScoreAdj_osAccountsInfoMap
  refine ⟨_, _, hForm, by rw [hApps], ?_, fun other hTracked => ?_, fun other hTracked => ?_,
    fun account hAccount hFind => ?_⟩
  · rw [← hBundles, applyReclaimPriority, writeBundleOomScoreAdj_bundles]
    rfl
  · exact hOnly other ((tracked_congr hMap).mp hTracked)
  · exact (tracked_congr hMap).mpr (hAll other hTracked)
  · exact (tracked_congr hMap).mpr (hOwn account hAccount hFind)

section InAccount

variable {target : ReqProc} {bundle : BundleRef}

/-- A creation in the bundle of the uid. -/
theorem handleCreateProcess_finish_joins_tracked
    (hFound : s₁.findBundle target.uid (getOsAccountIdByUid target.uid) = some bundle)
    (hBefore : s.findBundle target.uid (getOsAccountIdByUid target.uid) = some bundle)
    (hTracked : ∀ other, s₁.Tracked other ↔ s.Tracked other) (hHeap : s₁.bundles = s.bundles) :
    Joins target s (handleCreateProcess.finish platform services target
      (getOsAccountIdByUid target.uid) s₁ bundle).1 := by
  obtain ⟨s', proc, hForm, hProc, hBundles, hOnly, hAll, -⟩ := handleCreateProcess_finish_joins platform
    services s₁ target (getOsAccountIdByUid target.uid) bundle
  have hPid : proc.pid = target.pid := by rw [hProc, createdProc_pid]
  rw [hForm]
  constructor
  · intro other hOther
    obtain rfl := Option.some.inj (hBefore.symm.trans hOther)
    refine ⟨hAll bundle ⟨_, _, hFound⟩, ?_, ?_, ?_⟩
    · rw [hBundles, Function.update_self, hHeap]
      rfl
    · rw [hBundles, Function.update_self, hHeap]
      rfl
    · rw [hBundles, Function.update_self, BundlePriorityInfo.updatePriority, addProc_procs]
      split_ifs with hNew
      · exact ⟨proc, rfl⟩
      · have hOld : target.pid ∈ (s₁.bundles bundle).procs := by
          by_contra hAbsent
          exact hNew ⟨hPid, hPid ▸ hAbsent⟩
        exact ⟨_, Std.ExtTreeMap.getElem?_eq_some_getElem hOld⟩
  · intro other hAfter hNe
    have hOther : other ≠ bundle := by
      rintro rfl
      exact hNe hBefore
    apply Or.inl
    constructor
    · exact (hTracked other).mp ((hOnly other hAfter).resolve_left hOther)
    · rw [hBundles, Function.update_of_ne hOther, hHeap]

/-- A creation in a bundle of its own. -/
theorem handleCreateProcess_finish_joins_new (hWf : WellFormed s₁)
    (hBefore : s.findBundle target.uid (getOsAccountIdByUid target.uid) = none)
    (hTracked : ∀ other, s₁.Tracked other ↔ s.Tracked other) (hHeap : s₁.bundles = s.bundles) :
    Joins target s (handleCreateProcess.finish platform services target
      (getOsAccountIdByUid target.uid) (s₁.newBundle platform (.create target.bundleName target.uid
        reclaimPriorityBackground services.systemCurTime)) s₁.nextRef).1 := by
  obtain ⟨s', proc, hForm, -, hBundles, hOnly, -, -⟩ := handleCreateProcess_finish_joins platform
    services (s₁.newBundle platform (.create target.bundleName target.uid reclaimPriorityBackground
      services.systemCurTime)) target (getOsAccountIdByUid target.uid) s₁.nextRef
  rw [hForm]
  constructor
  · intro other hOther
    exact absurd (hBefore.symm.trans hOther) (by simp)
  · intro other hAfter _
    rcases hOnly other hAfter with rfl | hOld
    · apply Or.inr
      rw [hBundles, Function.update_self, newBundle_bundles, Function.update_self]
      rfl
    · have hOld₁ : s₁.Tracked other := hOld
      have hNe : other ≠ s₁.nextRef := (hWf.allocated hOld₁).ne
      apply Or.inl
      constructor
      · exact (hTracked other).mp hOld₁
      · rw [hBundles, Function.update_of_ne hNe, newBundle_bundles, Function.update_of_ne hNe, hHeap]

end InAccount

/-- A creation in an account that is there. -/
theorem createInAccount_joins (hWf : WellFormed s₁) (target : ReqProc)
    (hFind : s₁.findBundle target.uid (getOsAccountIdByUid target.uid) =
      s.findBundle target.uid (getOsAccountIdByUid target.uid))
    (hTracked : ∀ other, s₁.Tracked other ↔ s.Tracked other) (hHeap : s₁.bundles = s.bundles) :
    Joins target s (match s₁.findBundle target.uid (getOsAccountIdByUid target.uid) with
      | some bundle => handleCreateProcess.finish platform services target
          (getOsAccountIdByUid target.uid) s₁ bundle
      | none =>
          if !services.makeBundle then (s₁, false)
          else handleCreateProcess.finish platform services target (getOsAccountIdByUid target.uid)
            (s₁.newBundle platform (.create target.bundleName target.uid reclaimPriorityBackground
              services.systemCurTime)) s₁.nextRef).1 := by
  cases hFound : s₁.findBundle target.uid (getOsAccountIdByUid target.uid) with
  | some bundle =>
      exact handleCreateProcess_finish_joins_tracked hFound (hFind.symm.trans hFound) hTracked hHeap
  | none =>
      have hBefore := hFind.symm.trans hFound
      dsimp only
      split_ifs
      · constructor
        · intro other hOther
          exact absurd (hBefore.symm.trans hOther) (by simp)
        · intro other hAfter _
          exact Or.inl ⟨(hTracked other).mp hAfter, congrFun hHeap other⟩
      · exact handleCreateProcess_finish_joins_new hWf hBefore hTracked hHeap

/-- In a creation only the new process joins a bundle, the one of its uid. -/
theorem handleCreateProcess_joins (hWf : WellFormed s) (target : ReqProc) :
    Joins target s
      (s.handleCreateProcess platform services target (getOsAccountIdByUid target.uid) false).1 := by
  rw [handleCreateProcess, if_neg (by simp)]
  split
  · rename_i hNothing
    constructor
    · intro other hOther
      simp [findBundle, hNothing.1] at hOther
    · intro other hAfter _
      exact Or.inl ⟨hAfter, rfl⟩
  · cases hAccount : s.findOsAccountById (getOsAccountIdByUid target.uid) with
    | some account => exact createInAccount_joins hWf target rfl (fun _ => Iff.rfl) rfl
    | none =>
        have hEffect : Effect platform noBundle s
            (s.addOsAccountInfo (.create (getOsAccountIdByUid target.uid))) := .openAccount hAccount
        exact createInAccount_joins (hWf.effect hEffect) target (findBundle_openAccount hAccount _ _)
          (fun _ => tracked_openAccount hAccount) rfl

end ReclaimPriorityManager

/-- In a step that creates a process, nobody else joins a bundle. -/
theorem Service.Step.joins {sys sys' : Service} {op : Op} {target : ReqProc} (hWf : WellFormed sys.manager)
    (hCreated : op.created = some target) (hStep : Service.Step platform sys op sys') :
    Joins target sys.manager sys'.manager := by
  cases op with
  | updateReclaimPriorityInner request eventTime services =>
      rw [Op.created] at hCreated
      split_ifs at hCreated with hReason
      obtain rfl := Option.some.inj hCreated
      obtain ⟨prepared, fuel, hPrepare, hFinish⟩ := hStep.prepared
      rw [Service.prepare, prepareRequest, hReason] at hPrepare
      cases hPrepare
      rw [← Except.ok.inj hFinish]
      exact handleCreateProcess_joins hWf request.target
  | _ => cases hCreated

end MemMgr
