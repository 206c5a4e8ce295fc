import MemMgr.Effect

/-! Every request and timer of the manager settles: it is a chain of effects and
the writing of the bundle it was about. -/
namespace MemMgr

open Std (ExtTreeMap)
open Relation ReclaimPriorityManager ProcessPriorityInfo Execution

namespace ReclaimPriorityManager

variable {platform : Platform} {dirty : BundleRef → Prop} {s s' : ReclaimPriorityManager}
variable {services : Services} {fuel : Nat}

theorem repriced_updatePriorityByFlags (proc : ProcessPriorityInfo) :
    Repriced proc proc.updatePriorityByFlags := by
  rw [updatePriorityByFlags_eq]
  exact ⟨proc.sameIdentity_setPriority _,
    fun hLeast hBound => proc.le_statusPriority (by omega) hLeast fun _ => hBound⟩

theorem repriced_extensionPriorityUpdate (proc : ProcessPriorityInfo) {minExtensionPriority : Int}
    (hMin : 0 ≤ minExtensionPriority) :
    Repriced proc (extensionPriorityUpdate proc minExtensionPriority) := by
  rw [extensionPriorityUpdate_eq]
  exact ⟨proc.sameIdentity_setPriority _,
    fun _ hBound => proc.le_extensionPriority (by omega) (by omega) fun _ => hBound⟩

/-- The least connector priority is not below a bound of its start and of all it reads. -/
theorem le_minConnectorPriority {view : Int → Int} {connectors : List (Int × Int)}
    {start result bound : Int} (hRun : s.minConnectorPriority view connectors start = .ok result)
    (hStart : bound ≤ start) (hZero : bound ≤ 0) (hView : ∀ priority, bound ≤ view priority) :
    bound ≤ result := by
  induction connectors generalizing start with
  | nil =>
      cases hRun
      exact hStart
  | cons connector connectors ih =>
      obtain ⟨found, -, hRun⟩ := bind_eq_ok.mp hRun
      cases found with
      | none => exact ih hRun hZero
      | some found =>
          refine ih hRun ?_
          split_ifs
          · exact hStart
          · exact hView _

/-- The priority of a connector counts as no less than the least. -/
theorem connectorView_nonneg (priority : Int) : 0 ≤ connectorView priority := by
  rw [connectorView]
  split_ifs <;> omega

/-- The pass over the extensions is a chain of effects. -/
theorem setConnectExtensionProcPrio_chain {procSet : List ProcessPriorityInfo}
    (hRun : setConnectExtensionProcPrio platform procSet s = .ok s') :
    Chain platform dirty s s' := by
  induction procSet generalizing s with
  | nil =>
      cases hRun
      exact .refl
  | cons extensionProcess procSet ih =>
      obtain ⟨minExtensionPriority, hMin, hRun⟩ := bind_eq_ok.mp hRun
      obtain ⟨found, hFound, hRun⟩ := bind_eq_ok.mp hRun
      cases found with
      | none => exact ih hRun
      | some found =>
          obtain ⟨hFind, hProc⟩ := lookupProc_eq_some.mp hFound
          have hNonneg : 0 ≤ minExtensionPriority :=
            le_minConnectorPriority hMin (by decide) le_rfl connectorView_nonneg
          exact (ih hRun).head
            (.link ⟨⟨_, _, hFind⟩, hProc⟩ (repriced_extensionPriorityUpdate found.2 hNonneg))

/-- Recomputing the extensions of a process is a chain of effects. -/
theorem updatePriorityByProcForExtension_chain {proc : ProcessPriorityInfo}
    (hRun : s.updatePriorityByProcForExtension platform fuel proc = .ok s') :
    Chain platform dirty s s' := by
  obtain ⟨procVec, -, hRun⟩ := bind_eq_ok.mp hRun
  split_ifs at hRun
  · cases hRun
    exact .refl
  · obtain ⟨procSet, -, hRun⟩ := bind_eq_ok.mp hRun
    exact setConnectExtensionProcPrio_chain hRun

/-- Recomputing the priority of a process is a chain of effects. -/
theorem updatePriorityByProcStatus_chain {bundle : BundleRef} {pid : Int}
    {proc : ProcessPriorityInfo} (hTracks : s.TracksProc bundle pid proc) (hDirty : dirty bundle)
    (hRun : s.updatePriorityByProcStatus platform fuel bundle proc = .ok s') :
    Chain platform dirty s s' := by
  rw [updatePriorityByProcStatus] at hRun
  split_ifs at hRun
  · cases hRun
    exact .refl
  · cases hRun
    exact .refl
  · exact (updatePriorityByProcForExtension_chain hRun).head
      (.reprice hDirty hTracks (repriced_updatePriorityByFlags proc))

theorem tracksProc_setProc {bundle : BundleRef} {pid : Int} {proc proc' : ProcessPriorityInfo}
    (hTracks : s.TracksProc bundle pid proc) :
    (s.setProc bundle proc').TracksProc bundle proc'.pid proc' := by
  refine ⟨(tracked_congr rfl).mpr hTracks.1, ?_⟩
  simp [setProc]

end ReclaimPriorityManager

namespace ProcessPriorityInfo

/-- Everything but the flags that events set. -/
structure SameButFlags (before after : ProcessPriorityInfo) : Prop where
  identity : SameIdentity before after
  priority : after.priority = before.priority
  isAbilityStarting : after.isAbilityStarting = before.isAbilityStarting
  startingAbilityTime : after.startingAbilityTime = before.startingAbilityTime
  isExtension : after.isExtension = before.isExtension
  procsBindToMe : after.procsBindToMe = before.procsBindToMe
  procsBindFromMe : after.procsBindFromMe = before.procsBindFromMe

theorem sameButFlags_extensionBindStatus (proc : ProcessPriorityInfo) (status : Int) :
    SameButFlags proc { proc with extensionBindStatus := status } :=
  ⟨⟨rfl, rfl, rfl, rfl, rfl⟩, rfl, rfl, rfl, rfl, rfl, rfl⟩

theorem SameButFlags.refl (proc : ProcessPriorityInfo) : SameButFlags proc proc :=
  ⟨.refl proc, rfl, rfl, rfl, rfl, rfl, rfl⟩

/-- A handler sets flags. Those of the foreground and the background may then finish an
ability start, which is all that the time of the event and the pending tasks are for. -/
theorem changeProc_flags (reason : AppStateUpdateReason) (proc : ProcessPriorityInfo) :
    ∃ flagged, SameButFlags proc flagged ∧
      ((∀ eventTime handler, changeProc reason eventTime (proc, handler) = (flagged, handler)) ∨
        (reason = .foreground ∨ reason = .background) ∧ ∀ eventTime handler,
          changeProc reason eventTime (proc, handler) =
            finishAbilityStartIfNeed eventTime (flagged, handler)) := by
  cases reason with
  | foreground =>
      exact ⟨{ proc with isFreground := true, hasUI := true },
        ⟨⟨rfl, rfl, rfl, rfl, rfl⟩, rfl, rfl, rfl, rfl, rfl, rfl⟩, Or.inr ⟨Or.inl rfl, fun _ _ => rfl⟩⟩
  | background =>
      exact ⟨{ proc with isFreground := false, hasUI := true },
        ⟨⟨rfl, rfl, rfl, rfl, rfl⟩, rfl, rfl, rfl, rfl, rfl, rfl⟩, Or.inr ⟨Or.inr rfl, fun _ _ => rfl⟩⟩
  | bindExtension =>
      refine ⟨(changeProc .bindExtension invalidTime (proc, [])).1, ?_, Or.inl fun _ _ => rfl⟩
      simp only [changeProc, changeProcMapping, handleBindExtension, changeFlag]
      split_ifs
      · exact sameButFlags_extensionBindStatus proc _
      · exact .refl proc
  | unbindExtension =>
      refine ⟨(changeProc .unbindExtension invalidTime (proc, [])).1, ?_, Or.inl fun _ _ => rfl⟩
      simp only [changeProc, changeProcMapping, handleUnbindExtension, changeFlag]
      split_ifs
      · exact sameButFlags_extensionBindStatus proc _
      · exact .refl proc
  | _ =>
      refine ⟨_, ?_, Or.inl fun _ _ => rfl⟩
      exact ⟨⟨rfl, rfl, rfl, rfl, rfl⟩, rfl, rfl, rfl, rfl, rfl, rfl⟩

/-- Setting the flags keeps the identity and the priority of a process. -/
theorem changeProc_same (reason : AppStateUpdateReason) (eventTime : Int)
    (proc : ProcessPriorityInfo) (handler : List DelayedTask) :
    SameIdentity proc (changeProc reason eventTime (proc, handler)).1 ∧
      (changeProc reason eventTime (proc, handler)).1.priority = proc.priority := by
  obtain ⟨flagged, hSame, hSet | ⟨-, hFinish⟩⟩ := changeProc_flags reason proc
  · rw [hSet]
    exact ⟨hSame.identity, hSame.priority⟩
  · rw [hFinish, finishAbilityStartIfNeed]
    split_ifs
    · have hFinished : SameIdentity flagged { flagged with isAbilityStarting := false } :=
        ⟨rfl, rfl, rfl, rfl, rfl⟩
      exact ⟨hSame.identity.trans hFinished, hSame.priority⟩
    · exact ⟨hSame.identity, hSame.priority⟩

/-- A binding keeps the identity and the priority of its target. -/
theorem bindTarget_same (request : UpdateRequest) (proc : ProcessPriorityInfo) :
    SameIdentity proc (bindTarget request proc) ∧
      (bindTarget request proc).priority = proc.priority := by
  unfold bindTarget
  cases request.reason <;> exact ⟨⟨rfl, rfl, rfl, rfl, rfl⟩, rfl⟩

end ProcessPriorityInfo

namespace ReclaimPriorityManager

variable {platform : Platform} {dirty : BundleRef → Prop} {s s' : ReclaimPriorityManager}
variable {services : Services} {fuel : Nat} {rendered : Option Int}

theorem handleUpdateProcess_chain {reason : AppStateUpdateReason} {bundle : BundleRef} {pid : Int}
    {proc : ProcessPriorityInfo} {eventTime : Int} (hTracks : s.TracksProc bundle pid proc)
    (hDirty : dirty bundle)
    (hRun : s.handleUpdateProcess platform fuel reason bundle proc eventTime = .ok s') :
    Chain platform dirty s s' := by
  obtain ⟨hSame, hPriority⟩ := changeProc_same reason eventTime proc s.handler
  have hChanged : Chain platform dirty s
      { s.setProc bundle (changeProc reason eventTime (proc, s.handler)).1 with
        handler := (changeProc reason eventTime (proc, s.handler)).2 } :=
    (ReflTransGen.single (.edit hTracks hSame hPriority)).tail (.notes _ s.allKillableSystemApps)
  rw [handleUpdateProcess] at hRun
  simp only at hRun
  split_ifs at hRun
  · cases hRun
    exact hChanged
  · exact hChanged.trans
      (updatePriorityByProcStatus_chain (tracksProc_setProc hTracks) hDirty hRun)

/-- The chain of a request that ends by writing its bundle. -/
theorem settled_applyReclaimPriority {bundle : BundleRef} (hTracked : s'.Tracked bundle)
    (chain : Chain platform (· = bundle) s s') :
    Settled platform rendered s (s'.applyReclaimPriority bundle).1 :=
  .written bundle hTracked chain (s'.writeBundleOomScoreAdj bundle).handler

theorem created_createdProc (platform : Platform) (target : ReqProc) (killable : Bool) :
    Created target.uid (createdProc platform target killable) := by
  have hLeast : -1000 ≤ (isImportantProc platform target.processName).2 := by
    rw [isImportantProc]
    cases hBound : platform.config.importantBgApps[target.processName]? with
    | none => decide
    | some bound => exact (platform.config.importantBgApps_range _ _ hBound).1
  rw [createdProc]
  generalize isImportantProc platform target.processName = found at hLeast
  obtain ⟨isImportant, priority⟩ := found
  dsimp only
  split
  · exact ⟨rfl, rfl, (by decide : (-1000 : Int) ≤ -800), hLeast⟩
  · exact ⟨rfl, rfl, hLeast, hLeast⟩

/-- The end of a creation, up to the known killable apps and the pending tasks. -/
theorem handleCreateProcess_finish_eq (platform : Platform) (services : Services)
    (s : ReclaimPriorityManager) (target : ReqProc) (accountId : Int) (bundle : BundleRef) :
    ∃ apps handler proc, Created target.uid proc ∧
      (handleCreateProcess.finish platform services target accountId s bundle).1 =
        ((((s.noting s.handler apps).admitProc platform bundle accountId proc).noting handler
          apps).applyReclaimPriority bundle).1 := by
  obtain ⟨apps, killable, hApps⟩ := isKillableSystemApp_eq s services bundle
  refine ⟨apps, s.handler ++ [DelayedTask.checkCreateProcPriorityDelay target.pid target.uid], _,
    created_createdProc platform target killable, ?_⟩
  rw [handleCreateProcess.finish, hApps]
  rfl

/-- A bundle that was admitted is found where it was entered. -/
theorem tracked_admitProc {bundle : BundleRef} {accountId : Int} {proc : ProcessPriorityInfo}
    {account : AccountBundleInfo} (hAccount : s.osAccountsInfoMap[accountId]? = some account)
    (hFind : ∀ found, account.bundleIdInfoMapping[(s.bundles bundle).uid]? = some found → found = bundle) :
    (s.admitProc platform bundle accountId proc).Tracked bundle := by
  refine ⟨accountId, (s.bundles bundle).uid, findBundle_eq_some.mpr
    ⟨account.addBundleToOsAccount (s.bundles bundle).uid bundle, ?_, ?_⟩⟩
  · simp [admitProc, modifyAccount, hAccount, BundlePriorityInfo.updatePriority,
      BundlePriorityInfo.addProc]
  · rw [AccountBundleInfo.addBundleToOsAccount]
    cases hOld : account.bundleIdInfoMapping[(s.bundles bundle).uid]? with
    | none => rw [ExtTreeMap.getElem?_insertIfNew_of_none hOld, if_pos Std.compare_self]
    | some found => rw [ExtTreeMap.getElem?_insertIfNew_of_some hOld, hOld, hFind found hOld]

/-- A creation in an account that is there, whether or not the bundle is. -/
theorem createInAccount_settled {start : ReclaimPriorityManager} {target : ReqProc}
    {account : AccountBundleInfo} (chain : ∀ {dirty}, Chain platform dirty start s)
    (hAccount : s.osAccountsInfoMap[getOsAccountIdByUid target.uid]? = some account)
    (hStored : ∀ bundle, s.findBundle target.uid (getOsAccountIdByUid target.uid) = some bundle →
      (s.bundles bundle).uid = target.uid) :
    Settled platform rendered start
      (match s.findBundle target.uid (getOsAccountIdByUid target.uid) with
        | some bundle => handleCreateProcess.finish platform services target
            (getOsAccountIdByUid target.uid) s bundle
        | none =>
            if !services.makeBundle then (s, false)
            else handleCreateProcess.finish platform services target (getOsAccountIdByUid target.uid)
              (s.newBundle platform (.create target.bundleName target.uid reclaimPriorityBackground
                services.systemCurTime)) s.nextRef).1 := by
  cases hFind : s.findBundle target.uid (getOsAccountIdByUid target.uid) with
  | some bundle =>
      obtain ⟨apps, handler, proc, hCreated, hFinish⟩ :=
        handleCreateProcess_finish_eq platform services s target (getOsAccountIdByUid target.uid) bundle
      have hTracked : ((s.noting s.handler apps).admitProc platform bundle
          (getOsAccountIdByUid target.uid) proc).Tracked bundle := by
        refine tracked_admitProc hAccount fun found hFound => ?_
        obtain ⟨account', hAccount', hBundle⟩ := findBundle_eq_some.mp hFind
        obtain rfl := Option.some.inj (hAccount.symm.trans hAccount')
        exact Option.some.inj (hFound.symm.trans (hStored bundle hFind ▸ hBundle))
      have hNoted : Chain platform (· = bundle) start (s.noting s.handler apps) :=
        chain.tail (.notes s.handler apps)
      simp only
      rw [hFinish]
      exact settled_applyReclaimPriority ((tracked_congr rfl).mpr hTracked)
        ((hNoted.tail (.join rfl hFind hCreated)).tail (.notes handler apps))
  | none =>
      simp only
      split
      · exact .clean chain
      · obtain ⟨apps, handler, proc, hCreated, hFinish⟩ :=
          handleCreateProcess_finish_eq platform services (s.newBundle platform
            (.create target.bundleName target.uid reclaimPriorityBackground services.systemCurTime))
            target (getOsAccountIdByUid target.uid) s.nextRef
        have hTracked : (((s.noting s.handler apps).newBundle platform
            (.create target.bundleName target.uid reclaimPriorityBackground
              services.systemCurTime)).admitProc platform s.nextRef
            (getOsAccountIdByUid target.uid) proc).Tracked s.nextRef := by
          refine tracked_admitProc hAccount fun found hFound => ?_
          have hNew : s.findBundle target.uid (getOsAccountIdByUid target.uid) = some found :=
            findBundle_eq_some.mpr ⟨account, hAccount, by
              simpa [newBundle, BundlePriorityInfo.create] using hFound⟩
          simp [hFind] at hNew
        have hNoted : Chain platform (· = s.nextRef) start (s.noting s.handler apps) :=
          chain.tail (.notes s.handler apps)
        rw [hFinish]
        exact settled_applyReclaimPriority ((tracked_congr rfl).mpr hTracked)
          ((hNoted.tail (.enlist rfl (by simp [hAccount]) hFind hCreated)).tail (.notes handler apps))

theorem handleCreateProcess_settled (target : ReqProc) (isRender : Bool)
    (hRendered : isRender = true → target.pid ∈ rendered)
    (hStored : ∀ bundle, s.findBundle target.uid (getOsAccountIdByUid target.uid) = some bundle →
      (s.bundles bundle).uid = target.uid) :
    Settled platform rendered s
      (s.handleCreateProcess platform services target (getOsAccountIdByUid target.uid) isRender).1 := by
  rw [handleCreateProcess]
  split
  · next hIs => exact .render target.pid (hRendered hIs) _
  split
  · exact .clean .refl
  · cases hAccount : s.osAccountsInfoMap[getOsAccountIdByUid target.uid]? with
    | some account =>
        simp only [findOsAccountById, hAccount]
        exact createInAccount_settled .refl hAccount hStored
    | none =>
        simp only [findOsAccountById, hAccount]
        have hOpened : (s.addOsAccountInfo
            (.create (getOsAccountIdByUid target.uid))).osAccountsInfoMap[getOsAccountIdByUid target.uid]? =
              some (.create (getOsAccountIdByUid target.uid)) := by
          rw [addOsAccountInfo_lookup hAccount]
          exact if_pos rfl
        refine createInAccount_settled (.single (.openAccount hAccount)) hOpened ?_
        intro bundle hFind
        obtain ⟨account, hAccount', hBundle⟩ := findBundle_eq_some.mp hFind
        obtain rfl := Option.some.inj (hOpened.symm.trans hAccount')
        simp [AccountBundleInfo.create] at hBundle

/-- The account is dropped with its last bundle. -/
theorem closeAccount_chain (accountId : Int) (ret : Bool) :
    Chain platform dirty s
      (match s.findOsAccountById accountId with
        | some account =>
            (if account.getBundlesCount = 0 then s.removeOsAccountById account.id else s, ret)
        | none => (s, ret)).1 := by
  cases hAccount : s.findOsAccountById accountId with
  | none => exact .refl
  | some account =>
      simp only
      split_ifs with hEmpty
      · exact .single (.closeAccount hAccount hEmpty)
      · exact .refl

theorem handleTerminateProcess_chain {bundle : BundleRef} {uid pid : Int}
    {proc : ProcessPriorityInfo}
    (hFind : s.findBundle uid (getOsAccountIdByUid uid) = some bundle)
    (hProc : (s.bundles bundle).procs[pid]? = some proc) :
    Chain platform noBundle s
      (s.handleTerminateProcess platform proc bundle (getOsAccountIdByUid uid)).1 := by
  have hRemoved : (s.modifyBundle bundle fun info => info.removeProcByPid proc.pid).bundles bundle =
      (s.bundles bundle).removeProcByPid proc.pid := by simp
  have hTracks : s.TracksProc bundle pid proc := ⟨⟨_, _, hFind⟩, hProc⟩
  have hClean : ∀ other, ¬ noBundle other := fun _ h => h
  rw [handleTerminateProcess]
  simp only [hRemoved]
  split_ifs with hLast hLeast
  · refine .trans (.single (.retire hClean hFind hProc hLast)) ?_
    rw [applyReclaimPriority, writeBundleOomScoreAdj_of_empty (by rw [hRemoved]; exact hLast)]
    simp only [hRemoved]
    exact closeAccount_chain _ _
  · exact .trans (.single (.dischargeLeast hClean hTracks hLast)) (closeAccount_chain _ _)
  · exact .trans (.single (.discharge hClean hTracks hLast (not_le.mp hLeast)))
      (closeAccount_chain _ _)

theorem handleApplicationSuspend_settled {bundle : BundleRef} (hTracked : s.Tracked bundle) :
    Settled platform rendered s (s.handleApplicationSuspend platform bundle).1 :=
  settled_applyReclaimPriority ((tracked_congr rfl).mpr hTracked)
    (.single (.suspend rfl hTracked))

/-- The caller of a binding changes in its own bindings at most. -/
theorem updateExtensionStatusForCaller_form {request : UpdateRequest} {ret : Bool}
    (hRun : s.updateExtensionStatusForCaller request = .ok (s', ret)) :
    s' = s ∨ ∃ bundle proc bindings, s.TracksProc bundle request.caller.pid proc ∧
      s' = s.setProc bundle { proc with procsBindFromMe := bindings } := by
  obtain ⟨found, hFound, hRun⟩ := bind_eq_ok.mp hRun
  cases found with
  | none =>
      cases hRun
      exact Or.inl rfl
  | some found =>
      obtain ⟨hFind, hProc⟩ := lookupProc_eq_some.mp hFound
      cases hReason : request.reason <;> simp only [hReason] at hRun <;> cases hRun <;>
        first
          | exact Or.inl rfl
          | exact Or.inr ⟨found.1, found.2, _, ⟨⟨_, _, hFind⟩, hProc⟩, rfl⟩

theorem updateExtensionStatusForCaller_chain {request : UpdateRequest} {ret : Bool}
    (hRun : s.updateExtensionStatusForCaller request = .ok (s', ret)) :
    Chain platform dirty s s' := by
  rcases updateExtensionStatusForCaller_form hRun with rfl | ⟨bundle, proc, bindings, hTracks, rfl⟩
  · exact .refl
  · exact .single (.edit hTracks ⟨rfl, rfl, rfl, rfl, rfl⟩ rfl)

theorem setConnectExtensionProcPrio_osAccountsInfoMap {procSet : List ProcessPriorityInfo}
    (hRun : setConnectExtensionProcPrio platform procSet s = .ok s') :
    s'.osAccountsInfoMap = s.osAccountsInfoMap := by
  induction procSet generalizing s with
  | nil =>
      cases hRun
      rfl
  | cons extensionProcess procSet ih =>
      obtain ⟨minExtensionPriority, -, hRun⟩ := bind_eq_ok.mp hRun
      obtain ⟨found, -, hRun⟩ := bind_eq_ok.mp hRun
      cases found with
      | none => exact ih hRun
      | some found => exact (ih hRun).trans rfl

theorem updatePriorityByProcForExtension_osAccountsInfoMap {proc : ProcessPriorityInfo}
    (hRun : s.updatePriorityByProcForExtension platform fuel proc = .ok s') :
    s'.osAccountsInfoMap = s.osAccountsInfoMap := by
  obtain ⟨procVec, -, hRun⟩ := bind_eq_ok.mp hRun
  split_ifs at hRun
  · cases hRun
    rfl
  · obtain ⟨procSet, -, hRun⟩ := bind_eq_ok.mp hRun
    exact setConnectExtensionProcPrio_osAccountsInfoMap hRun

theorem updatePriorityByProcStatus_osAccountsInfoMap {bundle : BundleRef} {proc : ProcessPriorityInfo}
    (hRun : s.updatePriorityByProcStatus platform fuel bundle proc = .ok s') :
    s'.osAccountsInfoMap = s.osAccountsInfoMap := by
  rw [updatePriorityByProcStatus] at hRun
  split_ifs at hRun
  · cases hRun
    rfl
  · cases hRun
    rfl
  · exact (updatePriorityByProcForExtension_osAccountsInfoMap hRun).trans rfl

theorem handleUpdateProcess_osAccountsInfoMap {reason : AppStateUpdateReason} {bundle : BundleRef}
    {proc : ProcessPriorityInfo} {eventTime : Int}
    (hRun : s.handleUpdateProcess platform fuel reason bundle proc eventTime = .ok s') :
    s'.osAccountsInfoMap = s.osAccountsInfoMap := by
  rw [handleUpdateProcess] at hRun
  simp only at hRun
  split_ifs at hRun
  · cases hRun
    rfl
  · exact (updatePriorityByProcStatus_osAccountsInfoMap hRun).trans rfl

/-- A handled process event, from any chain that leads up to it. -/
theorem handleUpdateProcess_settled {start : ReclaimPriorityManager} {reason : AppStateUpdateReason}
    {bundle : BundleRef} {pid : Int} {proc : ProcessPriorityInfo} {eventTime : Int}
    (chain : ∀ {dirty}, Chain platform dirty start s) (hTracks : s.TracksProc bundle pid proc)
    (hRun : s.handleUpdateProcess platform fuel reason bundle proc eventTime = .ok s') :
    Settled platform rendered start (s'.applyReclaimPriority bundle).1 :=
  settled_applyReclaimPriority
    ((tracked_congr (handleUpdateProcess_osAccountsInfoMap hRun)).mpr hTracks.1)
    (chain.trans (handleUpdateProcess_chain hTracks rfl hRun))

theorem updateExtensionStatusForTarget_settled {start : ReclaimPriorityManager}
    {request : UpdateRequest} {eventTime : Int} {ret : Bool}
    (chain : ∀ {dirty}, Chain platform dirty start s)
    (hRun : s.updateExtensionStatusForTarget platform services fuel request eventTime = .ok (s', ret)) :
    Settled platform rendered start s' := by
  obtain ⟨found, hFound, hRun⟩ := bind_eq_ok.mp hRun
  cases found with
  | none =>
      cases hRun
      exact .clean chain
  | some found =>
      obtain ⟨bundle, proc⟩ := found
      obtain ⟨hFind, hProc⟩ := lookupProc_eq_some.mp hFound
      obtain ⟨apps, killable, hApps⟩ := isKillableSystemApp_eq s services bundle
      simp only [hApps] at hRun
      have hNoted : ∀ {dirty}, Chain platform dirty start (s.noting s.handler apps) :=
        chain.tail (.notes s.handler apps)
      split_ifs at hRun
      · cases hRun
        exact .clean chain
      · cases hRun
        exact .clean hNoted
      · obtain ⟨s₁, hUpdate, hRun⟩ := bind_eq_ok.mp hRun
        cases hRun
        have hTracks : (s.noting s.handler apps).TracksProc bundle request.target.pid proc :=
          ⟨⟨_, _, hFind⟩, hProc⟩
        obtain ⟨hSame, hPriority⟩ := bindTarget_same request proc
        exact handleUpdateProcess_settled (hNoted.tail (.edit hTracks hSame hPriority))
          (tracksProc_setProc hTracks) hUpdate

/-- A start begins for a tracked process, with a new timer, or nothing happens. -/
theorem handleAbilityStart_form {request : UpdateRequest} {eventTime : Int} {ret : Bool}
    (hRun : s.handleAbilityStart platform request eventTime = .ok (s', ret)) :
    s' = s ∨ ∃ bundle proc,
      s.findBundle request.target.uid (getOsAccountIdByUid request.target.uid) = some bundle ∧
      (s.bundles bundle).procs[request.target.pid]? = some proc ∧
      proc.checkSatifyAbilityStartCondition = true ∧
      s' = { s.abilityStartingBegin platform bundle proc eventTime with
        handler := setTimerForAbilityStartCompletedCheck proc.pid proc.uid
          (getOsAccountIdByUid request.target.uid) (removeTimerForAbilityStartCompletedCheck proc.pid
            (s.abilityStartingBegin platform bundle proc eventTime).handler) } := by
  obtain ⟨found, hFound, hRun⟩ := bind_eq_ok.mp hRun
  cases found with
  | none =>
      cases hRun
      exact Or.inl rfl
  | some found =>
      obtain ⟨hFind, hProc⟩ := lookupProc_eq_some.mp hFound
      dsimp only at hRun
      split_ifs at hRun with hSatisfied
      · cases hRun
        exact Or.inr ⟨found.1, found.2, hFind, hProc, hSatisfied, rfl⟩
      · cases hRun
        exact Or.inl rfl

/-- The start of an ability settles. -/
theorem handleAbilityStart_settled {request : UpdateRequest} {eventTime : Int} {ret : Bool}
    (hRun : s.handleAbilityStart platform request eventTime = .ok (s', ret)) :
    Settled platform rendered s s' := by
  rcases handleAbilityStart_form hRun with rfl | ⟨bundle, proc, hFind, hProc, -, rfl⟩
  · exact .clean .refl
  · have hRepriced : Repriced proc { proc.setPriority reclaimPriorityForeground with
        startingAbilityTime := eventTime, isAbilityStarting := true } :=
      ⟨⟨rfl, rfl, rfl, rfl, rfl⟩, fun _ _ => (by decide : (-1000 : Int) ≤ 0)⟩
    have hTracked : s.Tracked bundle := ⟨_, _, hFind⟩
    refine .written bundle ?_ (.single (.reprice rfl ⟨hTracked, hProc⟩ hRepriced)) _
    exact (tracked_congr rfl).mpr hTracked

end ReclaimPriorityManager

/-- The process a request writes the file of without tracking it. -/
def UpdateRequest.rendered (request : UpdateRequest) : Option Int :=
  if request.reason = .renderCreateProcess then some request.target.pid else none

namespace ReclaimPriorityManager

/-- The reasons that need a tracked bundle, and most of them a recorded process. -/
private theorem otherReason_settled {target : ReqProc} {reason : AppStateUpdateReason}
    {eventTime : Int} {ret : Bool}
    (hRun : (if s.isProcExist target.pid target.uid (getOsAccountIdByUid target.uid) then
        match s.findBundle target.uid (getOsAccountIdByUid target.uid) with
        | none => .ok (s, false)
        | some bundle =>
            if (s.bundles bundle).priority ≤ reclaimPriorityKillableSystem then .ok (s, true)
            else if reason = .applicationSuspend then .ok (s.handleApplicationSuspend platform bundle)
            else do
              let proc ← (s.bundles bundle).findProcByPid target.pid
              if reason = .processTerminated then
                return s.handleTerminateProcess platform proc bundle (getOsAccountIdByUid target.uid)
              else
                let s ← s.handleUpdateProcess platform fuel reason bundle proc eventTime
                return s.applyReclaimPriority bundle
      else .ok (s, false)) = Except.ok (s', ret)) :
    Settled platform rendered s s' := by
  split at hRun
  · cases hFind : s.findBundle target.uid (getOsAccountIdByUid target.uid) with
    | none =>
        rw [hFind] at hRun
        cases hRun
        exact .clean .refl
    | some bundle =>
        have hTracked : s.Tracked bundle := ⟨_, _, hFind⟩
        rw [hFind] at hRun
        dsimp only at hRun
        split at hRun
        · cases hRun
          exact .clean .refl
        split at hRun
        · cases hRun
          exact handleApplicationSuspend_settled hTracked
        obtain ⟨proc, hFound, hRun⟩ := bind_eq_ok.mp hRun
        have hProc := BundlePriorityInfo.findProcByPid_eq_ok.mp hFound
        split at hRun
        · have hChain : Chain platform noBundle s (s.handleTerminateProcess platform proc bundle
              (getOsAccountIdByUid target.uid)).1 := handleTerminateProcess_chain hFind hProc
          rw [Except.ok.inj hRun] at hChain
          exact .clean hChain
        · obtain ⟨s₁, hUpdate, hRun⟩ := bind_eq_ok.mp hRun
          cases hRun
          exact handleUpdateProcess_settled .refl ⟨hTracked, hProc⟩ hUpdate
  · cases hRun
    exact .clean .refl

/-- Every request settles, when the bundles are stored under their uid. -/
theorem updateReclaimPriorityInner_settled {request : UpdateRequest} {eventTime : Int} {ret : Bool}
    (hStored : ∀ bundle, s.findBundle request.target.uid (getOsAccountIdByUid request.target.uid) =
      some bundle → (s.bundles bundle).uid = request.target.uid)
    (hRun : s.updateReclaimPriorityInner platform services fuel request eventTime = .ok (s', ret)) :
    Settled platform request.rendered s s' := by
  have hExtension : ∀ {ret : Bool},
      s.handleExtensionProcess platform services fuel request eventTime = .ok (s', ret) →
      Settled platform request.rendered s s' := by
    intro ret hRun
    obtain ⟨caller, hCaller, hRun⟩ := bind_eq_ok.mp hRun
    exact updateExtensionStatusForTarget_settled (updateExtensionStatusForCaller_chain hCaller) hRun
  have hCreate : ∀ isRender, (isRender = true → request.reason = .renderCreateProcess) →
      s.handleCreateProcess platform services request.target
        (getOsAccountIdByUid request.target.uid) isRender = (s', ret) →
      Settled platform request.rendered s s' := by
    intro isRender hIs hRun
    have hSettled : Settled platform request.rendered s (s.handleCreateProcess platform services
        request.target (getOsAccountIdByUid request.target.uid) isRender).1 :=
      handleCreateProcess_settled request.target isRender (fun h => if_pos (hIs h)) hStored
    rw [hRun] at hSettled
    exact hSettled
  unfold updateReclaimPriorityInner at hRun
  cases hReason : request.reason <;> rw [hReason] at hRun
  case bindExtension => exact hExtension hRun
  case unbindExtension => exact hExtension hRun
  case createProcess => exact hCreate false (by simp) (Except.ok.inj hRun)
  case renderCreateProcess => exact hCreate true (fun _ => hReason) (Except.ok.inj hRun)
  case abilityStart => exact handleAbilityStart_settled hRun
  all_goals exact otherReason_settled hRun

/-- The synchronous path settles. -/
theorem updateRecalimPrioritySyncWithLock_settled {request : UpdateRequest} {systemTimeMs : Int}
    {ret : Bool}
    (hRun : s.updateRecalimPrioritySyncWithLock platform request systemTimeMs = .ok (s', ret)) :
    Settled platform rendered s s' := by
  rw [updateRecalimPrioritySyncWithLock] at hRun
  split_ifs at hRun
  · cases hRun
    exact .clean .refl
  · exact handleAbilityStart_settled hRun
  · cases hRun
    exact .clean .refl

/-- The check for the end of a start settles. -/
theorem checkAbilityStartCompleted_settled {pid bundleUid accountId : Int}
    (hRun : s.checkAbilityStartCompleted platform fuel pid bundleUid accountId = .ok s') :
    Settled platform rendered s s' := by
  obtain ⟨found, hFound, hRun⟩ := bind_eq_ok.mp hRun
  cases found with
  | none =>
      cases hRun
      exact .clean .refl
  | some found =>
      obtain ⟨bundle, proc⟩ := found
      obtain ⟨hFind, hProc⟩ := lookupProc_eq_some.mp hFound
      dsimp only at hRun
      split at hRun
      · obtain ⟨s₁, hUpdate, hRun⟩ := bind_eq_ok.mp hRun
        cases hRun
        have hTracks : s.TracksProc bundle pid proc := ⟨⟨_, _, hFind⟩, hProc⟩
        have hEnded : SameIdentity proc { proc with isAbilityStarting := false } :=
          ⟨rfl, rfl, rfl, rfl, rfl⟩
        refine settled_applyReclaimPriority
          ((tracked_congr (updatePriorityByProcStatus_osAccountsInfoMap hUpdate)).mpr hTracks.1) ?_
        exact .trans (.single (.edit hTracks hEnded rfl))
          (updatePriorityByProcStatus_chain (tracksProc_setProc hTracks) rfl hUpdate)
      · cases hRun
        exact .clean .refl

/-- The delayed check of a creation settles. -/
theorem checkCreateProcPriorityDelay_settled {pid uid : Int}
    (hRun : s.checkCreateProcPriorityDelay platform fuel pid uid = .ok s') :
    Settled platform rendered s s' := by
  obtain ⟨found, hFound, hRun⟩ := bind_eq_ok.mp hRun
  cases found with
  | none =>
      cases hRun
      exact .clean .refl
  | some found =>
      obtain ⟨bundle, proc⟩ := found
      obtain ⟨hFind, hProc⟩ := lookupProc_eq_some.mp hFound
      obtain ⟨s₁, hUpdate, hRun⟩ := bind_eq_ok.mp hRun
      cases hRun
      have hTracks : s.TracksProc bundle pid proc := ⟨⟨_, _, hFind⟩, hProc⟩
      exact settled_applyReclaimPriority
        ((tracked_congr (updatePriorityByProcStatus_osAccountsInfoMap hUpdate)).mpr hTracks.1)
        (updatePriorityByProcStatus_chain hTracks rfl hUpdate)

/-- Marking a bundle settles. -/
theorem setBundleState_settled (accountId uid : Int) (state : BundleState) :
    Settled platform rendered s (s.setBundleState accountId uid state) := by
  rw [setBundleState]
  cases hFind : s.findBundle uid accountId with
  | none => exact .clean .refl
  | some bundle => exact .clean (.single (.setState ⟨_, _, hFind⟩ state))

end ReclaimPriorityManager
end MemMgr
