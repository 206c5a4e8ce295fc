import MemMgr.UpdateRequest

/-! What each small operation on the state reads and leaves alone, and the
processes the manager tracks: those of the bundles its account map leads to. -/
namespace MemMgr

open Std

namespace ReclaimPriorityManager

variable {platform : Platform} {s : ReclaimPriorityManager} {bundle other : BundleRef}

theorem findBundle_eq_some {bundleUid accountId : Int} :
    s.findBundle bundleUid accountId = some bundle ↔
      ∃ account, s.osAccountsInfoMap[accountId]? = some account ∧
        account.bundleIdInfoMapping[bundleUid]? = some bundle := by
  simp [findBundle, findOsAccountById, AccountBundleInfo.findBundleById, Option.bind_eq_some_iff]

/-- The bundle is stored under some account and uid. -/
def Tracked (s : ReclaimPriorityManager) (bundle : BundleRef) : Prop :=
  ∃ accountId bundleUid, s.findBundle bundleUid accountId = some bundle

/-- The bundles the account map leads to, one account after the other. -/
def trackedBundles (s : ReclaimPriorityManager) : List BundleRef :=
  s.osAccountsInfoMap.toList.flatMap fun account => account.2.bundleIdInfoMapping.toList.map Prod.snd

theorem mem_trackedBundles : bundle ∈ s.trackedBundles ↔ s.Tracked bundle := by
  simp only [trackedBundles, List.mem_flatMap, List.mem_map, Prod.exists, exists_eq_right,
    ExtTreeMap.mem_toList_iff_getElem?_eq_some, Tracked, findBundle_eq_some]
  constructor
  · rintro ⟨accountId, account, hAccount, uid, hBundle⟩
    exact ⟨accountId, uid, account, hAccount, hBundle⟩
  · rintro ⟨accountId, uid, account, hAccount, hBundle⟩
    exact ⟨accountId, account, hAccount, uid, hBundle⟩

theorem not_tracked_init (platform : Platform) (bundle : BundleRef) :
    ¬ (ReclaimPriorityManager.init platform).Tracked bundle := by
  simp [Tracked, findBundle_eq_some, ReclaimPriorityManager.init]

theorem not_tracked_reset (bundle : BundleRef) : ¬ s.reset.Tracked bundle := by
  simp [Tracked, findBundle_eq_some, ReclaimPriorityManager.reset]

instance : DecidablePred s.Tracked := fun _ => decidable_of_iff _ mem_trackedBundles

instance {kind : BundleRef → Prop} [DecidablePred kind] :
    Decidable (∀ bundle, s.Tracked bundle → kind bundle) :=
  decidable_of_iff (∀ bundle ∈ s.trackedBundles, kind bundle) <| by simp only [mem_trackedBundles]

/-- The record of a tracked process. -/
def TracksProc (s : ReclaimPriorityManager) (bundle : BundleRef) (pid : Int)
    (proc : ProcessPriorityInfo) : Prop :=
  s.Tracked bundle ∧ (s.bundles bundle).procs[pid]? = some proc

instance {kind : BundleRef → Int → ProcessPriorityInfo → Prop} [∀ bundle pid proc, Decidable (kind bundle pid proc)] :
    Decidable (∀ bundle pid proc, s.TracksProc bundle pid proc → kind bundle pid proc) :=
  decidable_of_iff (∀ bundle ∈ s.trackedBundles, ∀ entry ∈ (s.bundles bundle).procs.toList,
      kind bundle entry.1 entry.2) <| by
    simp only [mem_trackedBundles, Prod.forall, ExtTreeMap.mem_toList_iff_getElem?_eq_some, TracksProc,
      and_imp]
    exact forall_congr' fun _ => ⟨fun h pid proc hTracked => h hTracked pid proc, fun h hTracked pid proc =>
      h pid proc hTracked⟩

/-- Bundles are found alike in states with the same account map. -/
theorem findBundle_congr {s' : ReclaimPriorityManager}
    (h : s'.osAccountsInfoMap = s.osAccountsInfoMap) : s'.findBundle = s.findBundle := by
  funext bundleUid accountId
  simp [findBundle, findOsAccountById, h]

theorem tracked_congr {s' : ReclaimPriorityManager}
    (h : s'.osAccountsInfoMap = s.osAccountsInfoMap) : s'.Tracked bundle ↔ s.Tracked bundle := by
  simp [Tracked, findBundle_congr h]

theorem tracksProc_congr {s' : ReclaimPriorityManager} {pid : Int} {proc : ProcessPriorityInfo}
    (hMap : s'.osAccountsInfoMap = s.osAccountsInfoMap) (hHeap : s'.bundles = s.bundles) :
    s'.TracksProc bundle pid proc ↔ s.TracksProc bundle pid proc := by
  rw [TracksProc, TracksProc, tracked_congr hMap, hHeap]

/-- After one object has changed, a record is in that object, or where it was. -/
theorem TracksProc.of_update {s' : ReclaimPriorityManager} {info : BundlePriorityInfo} {pid : Int}
    {proc : ProcessPriorityInfo} (hTracks : s'.TracksProc other pid proc)
    (hHeap : s'.bundles = Function.update s.bundles bundle info) :
    (other = bundle ∧ info.procs[pid]? = some proc) ∨
      (other ≠ bundle ∧ (s.bundles other).procs[pid]? = some proc) := by
  have hProc := hTracks.2
  rw [hHeap, Function.update_apply] at hProc
  split_ifs at hProc with hIs
  · exact Or.inl ⟨hIs, hProc⟩
  · exact Or.inr ⟨hIs, hProc⟩

/-- Only `ignorePid` can pass the check and still be missing from the bundle. -/
theorem lookupProc_eq (pid bundleUid accountId : Int) :
    s.lookupProc pid bundleUid accountId =
      match s.findBundle bundleUid accountId with
      | none => .ok none
      | some bundle =>
          match (s.bundles bundle).procs[pid]? with
          | some proc => .ok (some (bundle, proc))
          | none => if pid = ignorePid then .error .outOfRange else .ok none := by
  unfold lookupProc isProcExist
  cases hFind : s.findBundle bundleUid accountId with
  | none => rfl
  | some bundle =>
      cases hProc : (s.bundles bundle).procs[pid]? with
      | some proc =>
          have hHas : (s.bundles bundle).hasProc pid = true :=
            BundlePriorityInfo.hasProc_iff.mpr ⟨proc, hProc⟩
          simp only [hHas, ite_self, ↓reduceIte,
            BundlePriorityInfo.findProcByPid_eq_ok.mpr hProc, hProc]
          rfl
      | none =>
          have hHas : (s.bundles bundle).hasProc pid = false := by
            rw [← Bool.not_eq_true, BundlePriorityInfo.hasProc_iff]
            simp [hProc]
          simp only [hHas, hProc]
          split_ifs
          · rw [BundlePriorityInfo.findProcByPid_eq_error.mpr ⟨hProc, rfl⟩]
            rfl
          all_goals simp_all

theorem lookupProc_eq_some {pid bundleUid accountId : Int} {proc : ProcessPriorityInfo} :
    s.lookupProc pid bundleUid accountId = .ok (some (bundle, proc)) ↔
      s.findBundle bundleUid accountId = some bundle ∧
        (s.bundles bundle).procs[pid]? = some proc := by
  rw [lookupProc_eq]
  cases s.findBundle bundleUid accountId with
  | none => simp
  | some found =>
      simp only [Option.some.injEq]
      cases hProc : (s.bundles found).procs[pid]? with
      | some recorded =>
          simp only [Except.ok.injEq, Option.some.injEq, Prod.mk.injEq]
          constructor
          · rintro ⟨rfl, rfl⟩
            exact ⟨rfl, hProc⟩
          · rintro ⟨rfl, h⟩
            exact ⟨rfl, Option.some.inj (hProc.symm.trans h)⟩
      | none =>
          constructor
          · intro h
            split_ifs at h
            simp at h
          · rintro ⟨rfl, h⟩
            simp [hProc] at h

/-! Operations on one bundle object. -/

@[simp] theorem modifyBundle_bundles (change : BundlePriorityInfo → BundlePriorityInfo) :
    (s.modifyBundle bundle change).bundles =
      Function.update s.bundles bundle (change (s.bundles bundle)) := rfl

@[simp] theorem modifyBundle_osAccountsInfoMap (change : BundlePriorityInfo → BundlePriorityInfo) :
    (s.modifyBundle bundle change).osAccountsInfoMap = s.osAccountsInfoMap := rfl

@[simp] theorem modifyBundle_prioList (change : BundlePriorityInfo → BundlePriorityInfo) :
    (s.modifyBundle bundle change).prioList = s.prioList := rfl

@[simp] theorem modifyBundle_nextRef (change : BundlePriorityInfo → BundlePriorityInfo) :
    (s.modifyBundle bundle change).nextRef = s.nextRef := rfl

@[simp] theorem modifyBundle_oomScoreAdj (change : BundlePriorityInfo → BundlePriorityInfo) :
    (s.modifyBundle bundle change).oomScoreAdj = s.oomScoreAdj := rfl

@[simp] theorem addBundleInfoToSet_bundles :
    (s.addBundleInfoToSet platform bundle).bundles = s.bundles := rfl

@[simp] theorem addBundleInfoToSet_osAccountsInfoMap :
    (s.addBundleInfoToSet platform bundle).osAccountsInfoMap = s.osAccountsInfoMap := rfl

@[simp] theorem addBundleInfoToSet_nextRef :
    (s.addBundleInfoToSet platform bundle).nextRef = s.nextRef := rfl

@[simp] theorem deleteBundleInfoFromSet_bundles :
    (s.deleteBundleInfoFromSet platform bundle).bundles = s.bundles := rfl

@[simp] theorem deleteBundleInfoFromSet_osAccountsInfoMap :
    (s.deleteBundleInfoFromSet platform bundle).osAccountsInfoMap = s.osAccountsInfoMap := rfl

@[simp] theorem deleteBundleInfoFromSet_nextRef :
    (s.deleteBundleInfoFromSet platform bundle).nextRef = s.nextRef := rfl

@[simp] theorem updateBundlePriority_bundles :
    (s.updateBundlePriority platform bundle).bundles =
      Function.update s.bundles bundle (s.bundles bundle).updatePriority := rfl

/-- A changed object that is re-sorted. -/
theorem resort_bundles (change : BundlePriorityInfo → BundlePriorityInfo) :
    ((s.modifyBundle bundle change).updateBundlePriority platform bundle).bundles =
      Function.update s.bundles bundle (change (s.bundles bundle)).updatePriority := by
  simp

@[simp] theorem updateBundlePriority_osAccountsInfoMap :
    (s.updateBundlePriority platform bundle).osAccountsInfoMap = s.osAccountsInfoMap := rfl

@[simp] theorem updateBundlePriority_nextRef :
    (s.updateBundlePriority platform bundle).nextRef = s.nextRef := rfl

@[simp] theorem updateBundlePriority_oomScoreAdj :
    (s.updateBundlePriority platform bundle).oomScoreAdj = s.oomScoreAdj := rfl

@[simp] theorem modifyAccount_bundles {accountId : Int} (change : AccountBundleInfo → AccountBundleInfo) :
    (s.modifyAccount accountId change).bundles = s.bundles := rfl

@[simp] theorem modifyAccount_prioList {accountId : Int} (change : AccountBundleInfo → AccountBundleInfo) :
    (s.modifyAccount accountId change).prioList = s.prioList := rfl

@[simp] theorem modifyAccount_nextRef {accountId : Int} (change : AccountBundleInfo → AccountBundleInfo) :
    (s.modifyAccount accountId change).nextRef = s.nextRef := rfl

theorem addOsAccountInfo_lookup {account : AccountBundleInfo}
    (hNone : s.osAccountsInfoMap[account.id]? = none) (accountId : Int) :
    (s.addOsAccountInfo account).osAccountsInfoMap[accountId]? =
      if account.id = accountId then some account else s.osAccountsInfoMap[accountId]? := by
  rw [addOsAccountInfo, ExtTreeMap.getElem?_insertIfNew_of_none hNone]
  simp

theorem modifyAccount_lookup (changed accountId : Int)
    (change : AccountBundleInfo → AccountBundleInfo) :
    (s.modifyAccount changed change).osAccountsInfoMap[accountId]? =
      if changed = accountId then s.osAccountsInfoMap[accountId]?.map change
      else s.osAccountsInfoMap[accountId]? := by
  rw [modifyAccount, ExtTreeMap.getElem?_modify]
  simp only [Std.LawfulEqCmp.compare_eq_iff_eq]
  split_ifs with h
  · rw [h]
  · rfl

theorem removeOsAccountById_lookup (removed accountId : Int) :
    (s.removeOsAccountById removed).osAccountsInfoMap[accountId]? =
      if removed = accountId then none else s.osAccountsInfoMap[accountId]? := by
  simp [removeOsAccountById, ExtTreeMap.getElem?_erase]

theorem findBundle_openAccount {opened : Int} (hNone : s.osAccountsInfoMap[opened]? = none)
    (bundleUid accountId : Int) :
    (s.addOsAccountInfo (.create opened)).findBundle bundleUid accountId =
      s.findBundle bundleUid accountId := by
  rw [findBundle, findOsAccountById, addOsAccountInfo_lookup hNone, findBundle, findOsAccountById]
  split_ifs with h
  · rw [← show opened = accountId from h, hNone]
    simp [AccountBundleInfo.create, AccountBundleInfo.findBundleById]
  · rfl

/-- An account without bundles may go unnoticed. -/
theorem findBundle_closeAccount {closed : Int} {account : AccountBundleInfo}
    (hAccount : s.osAccountsInfoMap[closed]? = some account) (hEmpty : account.getBundlesCount = 0)
    (bundleUid accountId : Int) :
    (s.removeOsAccountById closed).findBundle bundleUid accountId =
      s.findBundle bundleUid accountId := by
  rw [findBundle, findOsAccountById, removeOsAccountById_lookup, findBundle, findOsAccountById]
  split_ifs with h
  · subst h
    have hNone : account.bundleIdInfoMapping = ∅ := by
      rw [← ExtTreeMap.isEmpty_iff, ExtTreeMap.isEmpty_eq_size_beq_zero, beq_iff_eq]
      exact hEmpty
    simp [hAccount, AccountBundleInfo.findBundleById, hNone]
  · rfl

theorem findBundle_addBundle {linked : Int} {uid : Int} {account : AccountBundleInfo}
    (hAccount : s.osAccountsInfoMap[linked]? = some account) (bundleUid accountId : Int) :
    (s.modifyAccount linked fun account => account.addBundleToOsAccount uid bundle).findBundle
        bundleUid accountId =
      if linked = accountId ∧ uid = bundleUid ∧ s.findBundle uid linked = none then some bundle
      else s.findBundle bundleUid accountId := by
  have hFind : s.findBundle uid linked = account.bundleIdInfoMapping[uid]? := by
    simp [findBundle, findOsAccountById, hAccount, AccountBundleInfo.findBundleById]
  rw [findBundle, findOsAccountById, modifyAccount_lookup]
  split_ifs with hLinked hNew hNew
  · obtain ⟨rfl, rfl, hNone⟩ := hNew
    rw [hFind] at hNone
    simp only [hAccount, Option.map_some, Option.bind_some, AccountBundleInfo.findBundleById,
      AccountBundleInfo.addBundleToOsAccount]
    rw [ExtTreeMap.getElem?_insertIfNew_of_none hNone, if_pos compare_self]
  · subst hLinked
    rw [findBundle, findOsAccountById, hAccount]
    simp only [Option.map_some, Option.bind_some, AccountBundleInfo.findBundleById,
      AccountBundleInfo.addBundleToOsAccount]
    cases hOld : account.bundleIdInfoMapping[uid]? with
    | some old => rw [ExtTreeMap.getElem?_insertIfNew_of_some hOld]
    | none =>
        rw [ExtTreeMap.getElem?_insertIfNew_of_none hOld]
        simp only [LawfulEqCmp.compare_eq_iff_eq]
        exact if_neg fun hUid => hNew ⟨rfl, hUid, hFind.trans hOld⟩
  · exact absurd hNew.1 hLinked
  · rfl

/-- An entry that is there stays when a bundle is added. -/
theorem findBundle_addBundle_of_some {linked uid bundleUid accountId : Int}
    (hFind : s.findBundle bundleUid accountId = some other) :
    (s.modifyAccount linked fun account => account.addBundleToOsAccount uid bundle).findBundle
      bundleUid accountId = some other := by
  cases hAccount : s.osAccountsInfoMap[linked]? with
  | some account =>
      rw [findBundle_addBundle hAccount]
      split_ifs with hNew
      · obtain ⟨rfl, rfl, hNone⟩ := hNew
        exact absurd (hNone.symm.trans hFind) (by simp)
      · exact hFind
  | none =>
      obtain ⟨account, hOwn, hBundle⟩ := findBundle_eq_some.mp hFind
      refine findBundle_eq_some.mpr ⟨account, ?_, hBundle⟩
      rw [modifyAccount_lookup, if_neg]
      · exact hOwn
      · rintro rfl
        exact absurd (hAccount.symm.trans hOwn) (by simp)

/-- Nothing else is found after a bundle was added. -/
theorem findBundle_of_addBundle {linked uid bundleUid accountId : Int}
    (hFind : (s.modifyAccount linked fun account => account.addBundleToOsAccount uid bundle).findBundle
      bundleUid accountId = some other) :
    other = bundle ∨ s.findBundle bundleUid accountId = some other := by
  cases hAccount : s.osAccountsInfoMap[linked]? with
  | some account =>
      rw [findBundle_addBundle hAccount] at hFind
      split_ifs at hFind
      · exact Or.inl (Option.some.inj hFind).symm
      · exact Or.inr hFind
  | none =>
      obtain ⟨account, hOwn, hBundle⟩ := findBundle_eq_some.mp hFind
      rw [modifyAccount_lookup] at hOwn
      split_ifs at hOwn with hIs
      · rw [← hIs, hAccount] at hOwn
        cases hOwn
      · exact Or.inr (findBundle_eq_some.mpr ⟨account, hOwn, hBundle⟩)

theorem findBundle_removeBundle (unlinked uid bundleUid accountId : Int) :
    (s.modifyAccount unlinked fun account => account.removeBundleById uid).findBundle
        bundleUid accountId =
      if unlinked = accountId ∧ uid = bundleUid then none else s.findBundle bundleUid accountId := by
  rw [findBundle, findOsAccountById, modifyAccount_lookup, findBundle, findOsAccountById]
  split_ifs with hUnlinked hRemoved hRemoved
  · obtain ⟨rfl, rfl⟩ := hRemoved
    cases s.osAccountsInfoMap[unlinked]? <;>
      simp [AccountBundleInfo.findBundleById, AccountBundleInfo.removeBundleById]
  · have hUid : uid ≠ bundleUid := fun h => hRemoved ⟨hUnlinked, h⟩
    cases s.osAccountsInfoMap[accountId]? <;>
      simp [AccountBundleInfo.findBundleById, AccountBundleInfo.removeBundleById,
        ExtTreeMap.getElem?_erase, hUid]
  · exact absurd hRemoved.1 hUnlinked
  · rfl

@[simp] theorem writeOomScoreAdj_bundles (pid priority : Int) :
    (s.writeOomScoreAdj pid priority).bundles = s.bundles := rfl

@[simp] theorem writeOomScoreAdj_osAccountsInfoMap (pid priority : Int) :
    (s.writeOomScoreAdj pid priority).osAccountsInfoMap = s.osAccountsInfoMap := rfl

theorem writeOomScoreAdj_oomScoreAdj (written pid priority : Int) :
    (s.writeOomScoreAdj written priority).oomScoreAdj pid =
      if pid = written then some priority else s.oomScoreAdj pid := by
  simp only [writeOomScoreAdj, Function.update_apply]

theorem tracked_of_removeBundle {unlinked uid : Int}
    (h : (s.modifyAccount unlinked fun account => account.removeBundleById uid).Tracked other) :
    s.Tracked other := by
  obtain ⟨accountId, bundleUid, hFound⟩ := h
  rw [findBundle_removeBundle] at hFound
  split_ifs at hFound
  exact ⟨accountId, bundleUid, hFound⟩

theorem tracked_openAccount {opened : Int} (hNone : s.osAccountsInfoMap[opened]? = none) :
    (s.addOsAccountInfo (.create opened)).Tracked other ↔ s.Tracked other := by
  simp only [Tracked, findBundle_openAccount hNone]

theorem tracked_closeAccount {closed : Int} {account : AccountBundleInfo}
    (hAccount : s.osAccountsInfoMap[closed]? = some account) (hEmpty : account.getBundlesCount = 0) :
    (s.removeOsAccountById closed).Tracked other ↔ s.Tracked other := by
  simp only [Tracked, findBundle_closeAccount hAccount hEmpty]

/-- Only the files change. -/
theorem writeBundleOomScoreAdj_eq :
    s.writeBundleOomScoreAdj bundle =
      { s with oomScoreAdj := (s.writeBundleOomScoreAdj bundle).oomScoreAdj } := by
  have hFold : ∀ (entries : List (Int × ProcessPriorityInfo)) (s : ReclaimPriorityManager),
      entries.foldl (fun s entry => s.writeOomScoreAdj entry.2.pid entry.2.priority) s =
        { s with oomScoreAdj := (entries.foldl
            (fun s entry => s.writeOomScoreAdj entry.2.pid entry.2.priority) s).oomScoreAdj } := by
    intro entries
    induction entries with
    | nil => intro s; rfl
    | cons entry entries ih =>
        intro s
        rw [List.foldl_cons, ih]
        rfl
  exact hFold _ s

@[simp] theorem writeBundleOomScoreAdj_bundles :
    (s.writeBundleOomScoreAdj bundle).bundles = s.bundles := by rw [writeBundleOomScoreAdj_eq]

@[simp] theorem writeBundleOomScoreAdj_osAccountsInfoMap :
    (s.writeBundleOomScoreAdj bundle).osAccountsInfoMap = s.osAccountsInfoMap := by
  rw [writeBundleOomScoreAdj_eq]

@[simp] theorem writeBundleOomScoreAdj_totalBundlePrioSet :
    (s.writeBundleOomScoreAdj bundle).totalBundlePrioSet = s.totalBundlePrioSet := by
  rw [writeBundleOomScoreAdj_eq]

@[simp] theorem writeBundleOomScoreAdj_nextRef :
    (s.writeBundleOomScoreAdj bundle).nextRef = s.nextRef := by rw [writeBundleOomScoreAdj_eq]

/-- A bundle without processes has no files to write. -/
theorem writeBundleOomScoreAdj_of_empty (hEmpty : (s.bundles bundle).getProcsCount = 0) :
    s.writeBundleOomScoreAdj bundle = s := by
  have hList : (s.bundles bundle).procs.toList = [] := by
    rw [← List.length_eq_zero_iff, ExtTreeMap.length_toList]
    exact hEmpty
  rw [writeBundleOomScoreAdj, hList, List.foldl_nil]

/-- Other pending tasks and other known killable apps. -/
def noting (s : ReclaimPriorityManager) (handler : List DelayedTask) (apps : ExtTreeSet String) :
    ReclaimPriorityManager :=
  { s with handler := handler, allKillableSystemApps := apps }

@[simp] theorem noting_bundles (handler : List DelayedTask) (apps : ExtTreeSet String) :
    (s.noting handler apps).bundles = s.bundles := rfl

@[simp] theorem noting_osAccountsInfoMap (handler : List DelayedTask) (apps : ExtTreeSet String) :
    (s.noting handler apps).osAccountsInfoMap = s.osAccountsInfoMap := rfl

@[simp] theorem noting_prioList (handler : List DelayedTask) (apps : ExtTreeSet String) :
    (s.noting handler apps).prioList = s.prioList := rfl

@[simp] theorem noting_nextRef (handler : List DelayedTask) (apps : ExtTreeSet String) :
    (s.noting handler apps).nextRef = s.nextRef := rfl

@[simp] theorem noting_oomScoreAdj (handler : List DelayedTask) (apps : ExtTreeSet String) :
    (s.noting handler apps).oomScoreAdj = s.oomScoreAdj := rfl

/-- Only the known killable apps may change. -/
theorem isKillableSystemApp_eq (s : ReclaimPriorityManager) (services : Services)
    (bundle : BundleRef) :
    ∃ apps killable, s.isKillableSystemApp services bundle = (s.noting s.handler apps, killable) := by
  rw [isKillableSystemApp]
  split_ifs
  · exact ⟨_, _, rfl⟩
  · cases services.getApplicationInfo with
    | none => exact ⟨_, _, rfl⟩
    | some getApplicationInfo =>
        simp only
        cases getApplicationInfo (s.bundles bundle).name
            (getOsAccountIdByUid (s.bundles bundle).uid) with
        | none => exact ⟨_, _, rfl⟩
        | some keepAlive => cases keepAlive <;> exact ⟨_, _, rfl⟩

/-- The app is known as a killable system app, or the bundle manager says that it is one. -/
def killableApp (s : ReclaimPriorityManager) (services : Services) (name : String) (uid : Int) : Bool :=
  name ∈ s.allKillableSystemApps ||
    (services.getApplicationInfo.bind fun getApplicationInfo =>
      getApplicationInfo name (getOsAccountIdByUid uid)) = some true

theorem isKillableSystemApp_snd (services : Services) (bundle : BundleRef) :
    (s.isKillableSystemApp services bundle).2 =
      s.killableApp services (s.bundles bundle).name (s.bundles bundle).uid := by
  rw [isKillableSystemApp, killableApp]
  by_cases hKnown : (s.bundles bundle).name ∈ s.allKillableSystemApps
  · simp [hKnown]
  · rw [if_neg hKnown, decide_eq_false hKnown, Bool.false_or]
    cases services.getApplicationInfo with
    | none => rfl
    | some getApplicationInfo =>
        dsimp only [Option.bind_some]
        split <;> simp_all

end ReclaimPriorityManager
end MemMgr
