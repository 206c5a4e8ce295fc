import MemMgr.RequestEffects
import MemMgr.BundleInvariant

/-! Every tracked bundle is stored under its own uid, holds a process, and is
covered; every reference in use points to an object that was made. This survives
whatever order the set is in. -/
namespace MemMgr

open Std (ExtTreeMap)
open ReclaimPriorityManager BundlePriorityInfo

structure WellFormed (s : ReclaimPriorityManager) : Prop where
  accountId : ∀ {accountId : Int} {account}, s.osAccountsInfoMap[accountId]? = some account →
    account.id = accountId
  stored : ∀ {uid accountId bundle}, s.findBundle uid accountId = some bundle →
    (s.bundles bundle).uid = uid ∧ accountId = getOsAccountIdByUid uid
  allocated : ∀ {bundle}, s.Tracked bundle → bundle < s.nextRef
  inSet : ∀ {bundle}, bundle ∈ s.prioList → bundle < s.nextRef
  nonempty : ∀ {bundle}, s.Tracked bundle → (s.bundles bundle).getProcsCount ≠ 0
  covered : ∀ bundle, (s.bundles bundle).Covered

namespace ReclaimPriorityManager

variable {platform : Platform} {s s' : ReclaimPriorityManager} {bundle : BundleRef}

theorem mem_addBundleInfoToSet {other : BundleRef}
    (h : other ∈ (s.addBundleInfoToSet platform bundle).prioList) :
    other = bundle ∨ other ∈ s.prioList := by
  rw [prioList, addBundleInfoToSet, SearchTree.Rebalancing.inorder_balance] at h
  exact SearchTree.mem_of_mem_insert h

theorem mem_deleteBundleInfoFromSet {other : BundleRef}
    (h : other ∈ (s.deleteBundleInfoFromSet platform bundle).prioList) : other ∈ s.prioList := by
  rw [prioList, deleteBundleInfoFromSet, SearchTree.Rebalancing.inorder_balance] at h
  exact SearchTree.mem_of_mem_erase h

/-- Re-sorting a bundle puts nothing else in the set. -/
theorem mem_updateBundlePriority {other : BundleRef}
    (h : other ∈ (s.updateBundlePriority platform bundle).prioList) :
    other = bundle ∨ other ∈ s.prioList := by
  rcases mem_addBundleInfoToSet h with h | h
  · exact Or.inl h
  · exact Or.inr (mem_deleteBundleInfoFromSet h)

end ReclaimPriorityManager

namespace WellFormed

variable {platform : Platform} {dirty : BundleRef → Prop} {s s' : ReclaimPriorityManager}
variable {bundle : BundleRef} {info : BundlePriorityInfo}

theorem start (platform : Platform) : WellFormed (.init platform) where
  accountId := by simp [ReclaimPriorityManager.init]
  stored := by simp [findBundle_eq_some, ReclaimPriorityManager.init]
  allocated := by simp [Tracked, findBundle_eq_some, ReclaimPriorityManager.init]
  inSet := by simp [prioList, ReclaimPriorityManager.init]
  nonempty := by simp [Tracked, findBundle_eq_some, ReclaimPriorityManager.init]
  covered := by
    intro bundle
    refine ⟨⟨rfl, ?_⟩, (by decide : (-1000 : Int) ≤ 0), (by decide : (0 : Int) ≤ 1000), ?_⟩ <;>
      simp [ReclaimPriorityManager.init, BundlePriorityInfo.create]

/-- A tracked bundle is the only one tracked under its uid. -/
theorem tracked_unique (h : WellFormed s) {other : BundleRef} (hBundle : s.Tracked bundle)
    (hOther : s.Tracked other) (hUid : (s.bundles bundle).uid = (s.bundles other).uid) :
    bundle = other := by
  obtain ⟨accountId, uid, hFind⟩ := hBundle
  obtain ⟨accountId', uid', hFind'⟩ := hOther
  obtain ⟨hUid₁, rfl⟩ := h.stored hFind
  obtain ⟨hUid₂, rfl⟩ := h.stored hFind'
  obtain rfl : uid = uid' := by rw [← hUid₁, hUid, hUid₂]
  exact Option.some.inj (hFind.symm.trans hFind')

/-- A change of one object that leaves the accounts alone. -/
theorem modify (h : WellFormed s) (hMap : s'.osAccountsInfoMap = s.osAccountsInfoMap)
    (hRef : s'.nextRef = s.nextRef)
    (hSet : ∀ other ∈ s'.prioList, other ∈ s.prioList ∨ other < s.nextRef)
    (hHeap : s'.bundles = Function.update s.bundles bundle info) (hCovered : info.Covered)
    (hUid : info.uid = (s.bundles bundle).uid)
    (hLeft : s.Tracked bundle → info.getProcsCount ≠ 0) : WellFormed s' where
  accountId := by
    rw [hMap]
    exact h.accountId
  stored := by
    intro uid accountId found hFind
    rw [findBundle_congr hMap] at hFind
    obtain ⟨hFound, hAccount⟩ := h.stored hFind
    refine ⟨?_, hAccount⟩
    rw [hHeap, Function.update_apply]
    split_ifs with hIs
    · rw [hUid, ← hIs, hFound]
    · exact hFound
  allocated := by
    intro found hFound
    rw [hRef]
    exact h.allocated ((tracked_congr hMap).mp hFound)
  inSet := by
    intro found hFound
    rw [hRef]
    rcases hSet found hFound with hOld | hLess
    · exact h.inSet hOld
    · exact hLess
  nonempty := by
    intro found hFound
    rw [tracked_congr hMap] at hFound
    rw [hHeap, Function.update_apply]
    split_ifs with hIs
    · exact hLeft (hIs ▸ hFound)
    · exact h.nonempty hFound
  covered := by
    intro found
    rw [hHeap, Function.update_apply]
    split_ifs
    · exact hCovered
    · exact h.covered found

/-- An object that is changed and re-sorted. -/
theorem resort (h : WellFormed s) (hRef : bundle < s.nextRef)
    {change : BundlePriorityInfo → BundlePriorityInfo}
    (hShaped : (change (s.bundles bundle)).Shaped)
    (hUid : (change (s.bundles bundle)).uid = (s.bundles bundle).uid)
    (hLeft : (change (s.bundles bundle)).getProcsCount ≠ 0) :
    WellFormed ((s.modifyBundle bundle change).updateBundlePriority platform bundle) := by
  refine h.modify rfl rfl ?_ ?_ hShaped.updatePriority hUid fun _ => hLeft
  · intro other hOther
    rcases mem_updateBundlePriority hOther with rfl | hOther
    · exact Or.inr hRef
    · exact Or.inl hOther
  · simp

theorem retouch (h : WellFormed s) {change : BundlePriorityInfo → BundlePriorityInfo}
    (hCovered : (change (s.bundles bundle)).Covered)
    (hUid : (change (s.bundles bundle)).uid = (s.bundles bundle).uid)
    (hLeft : s.Tracked bundle → (change (s.bundles bundle)).getProcsCount ≠ 0) :
    WellFormed (s.modifyBundle bundle change) :=
  h.modify rfl rfl (fun _ hOther => Or.inl hOther) rfl hCovered hUid hLeft

/-- A change of the accounts that tracks nothing new. -/
theorem untrack (h : WellFormed s)
    (hIds : ∀ {accountId : Int} {account}, s'.osAccountsInfoMap[accountId]? = some account →
      account.id = accountId)
    (hFind : ∀ uid accountId bundle, s'.findBundle uid accountId = some bundle →
      s.findBundle uid accountId = some bundle)
    (hRef : s'.nextRef = s.nextRef) (hSet : s'.prioList ⊆ s.prioList)
    (hHeap : s'.bundles = s.bundles) : WellFormed s' where
  accountId := hIds
  stored := fun hFound => hHeap ▸ h.stored (hFind _ _ _ hFound)
  allocated := fun ⟨accountId, uid, hFound⟩ => hRef ▸ h.allocated ⟨accountId, uid, hFind _ _ _ hFound⟩
  inSet := fun hOther => hRef ▸ h.inSet (hSet hOther)
  nonempty := fun ⟨accountId, uid, hFound⟩ =>
    hHeap ▸ h.nonempty ⟨accountId, uid, hFind _ _ _ hFound⟩
  covered := fun bundle => hHeap ▸ h.covered bundle

/-- States that differ in nothing the invariant reads. -/
theorem congr (h : WellFormed s) (hMap : s'.osAccountsInfoMap = s.osAccountsInfoMap)
    (hRef : s'.nextRef = s.nextRef) (hSet : s'.prioList = s.prioList)
    (hHeap : s'.bundles = s.bundles) : WellFormed s' :=
  h.untrack (hMap ▸ h.accountId) (fun _ _ _ hFound => by rwa [findBundle_congr hMap] at hFound) hRef
    (fun _ hOther => hSet ▸ hOther) hHeap

theorem modifyAccount_ids (h : WellFormed s) {changed : Int}
    {change : AccountBundleInfo → AccountBundleInfo} (hId : ∀ account, (change account).id = account.id)
    {accountId : Int} {account : AccountBundleInfo}
    (hAccount : (s.modifyAccount changed change).osAccountsInfoMap[accountId]? = some account) :
    account.id = accountId := by
  rw [modifyAccount_lookup] at hAccount
  split_ifs at hAccount
  · obtain ⟨before, hBefore, rfl⟩ := Option.map_eq_some_iff.mp hAccount
    exact (hId before).trans (h.accountId hBefore)
  · exact h.accountId hAccount

/-- An object with a process enters the account of its uid. -/
theorem addBundle (h : WellFormed s) {uid : Int} {account : AccountBundleInfo}
    (hAccount : s.osAccountsInfoMap[getOsAccountIdByUid uid]? = some account)
    (hUid : (s.bundles bundle).uid = uid) (hRef : bundle < s.nextRef)
    (hLeft : (s.bundles bundle).getProcsCount ≠ 0) :
    WellFormed (s.modifyAccount (getOsAccountIdByUid uid) fun account =>
      account.addBundleToOsAccount uid bundle) := by
  have hFound : ∀ {uid' accountId found}, (s.modifyAccount (getOsAccountIdByUid uid) fun account =>
        account.addBundleToOsAccount uid bundle).findBundle uid' accountId = some found →
      (found = bundle ∧ uid' = uid ∧ accountId = getOsAccountIdByUid uid) ∨
        s.findBundle uid' accountId = some found := by
    intro uid' accountId found hFind
    rw [findBundle_addBundle hAccount] at hFind
    split_ifs at hFind with hNew
    · exact Or.inl ⟨(Option.some.inj hFind).symm, hNew.2.1.symm, hNew.1.symm⟩
    · exact Or.inr hFind
  constructor
  case accountId =>
    intro accountId account hFound
    refine h.modifyAccount_ids ?_ hFound
    exact fun _ => rfl
  case stored =>
    intro uid' accountId found hFind
    rcases hFound hFind with ⟨rfl, rfl, rfl⟩ | hOld
    · exact ⟨hUid, rfl⟩
    · exact h.stored hOld
  case allocated =>
    rintro found ⟨accountId, uid', hFind⟩
    rcases hFound hFind with ⟨rfl, rfl, rfl⟩ | hOld
    · exact hRef
    · exact h.allocated ⟨accountId, uid', hOld⟩
  case inSet => exact h.inSet
  case nonempty =>
    rintro found ⟨accountId, uid', hFind⟩
    rcases hFound hFind with ⟨rfl, rfl, rfl⟩ | hOld
    · exact hLeft
    · exact h.nonempty ⟨accountId, uid', hOld⟩
  case covered => exact h.covered

theorem admitProc (h : WellFormed s) {uid : Int} {proc : ProcessPriorityInfo}
    {account : AccountBundleInfo}
    (hAccount : s.osAccountsInfoMap[getOsAccountIdByUid uid]? = some account)
    (hUid : (s.bundles bundle).uid = uid) (hRef : bundle < s.nextRef) (hCreated : Created uid proc) :
    WellFormed (s.admitProc platform bundle (getOsAccountIdByUid uid) proc) := by
  have hLeft : ((s.bundles bundle).addProc proc).getProcsCount ≠ 0 :=
    getProcsCount_ne_zero.mpr ⟨_, addProc_recorded proc⟩
  have hShaped : ((s.bundles bundle).addProc proc).Shaped :=
    (h.covered bundle).toShaped.addProc ⟨rfl, hCreated.uid.trans hUid.symm, hCreated.notRender,
      hCreated.least, hCreated.leastIfImportant⟩
  have hResorted : WellFormed ((s.modifyBundle bundle fun info =>
      info.addProc proc).updateBundlePriority platform bundle) := h.resort hRef hShaped rfl hLeft
  have hInfo : ((s.modifyBundle bundle fun info => info.addProc proc).updateBundlePriority platform
      bundle).bundles bundle = ((s.bundles bundle).addProc proc).updatePriority := by simp
  have hKept : ((s.bundles bundle).addProc proc).updatePriority.uid = uid := hUid
  rw [ReclaimPriorityManager.admitProc]
  simp only [hInfo, hKept]
  exact hResorted.addBundle hAccount (by rw [hInfo, hKept]) hRef (by rw [hInfo]; exact hLeft)

theorem newBundle (h : WellFormed s) (hCovered : info.Covered) :
    WellFormed (s.newBundle platform info) := by
  have hBundles : ∀ other, (s.newBundle platform info).bundles other =
      if other = s.nextRef then info else s.bundles other := fun other => by
    simp [ReclaimPriorityManager.newBundle, Function.update_apply]
  have hOld : ∀ {other}, s.Tracked other → (s.newBundle platform info).bundles other = s.bundles other := by
    intro other hTracked
    rw [hBundles, if_neg (h.allocated hTracked).ne]
  constructor
  case accountId => exact h.accountId
  case stored =>
    intro uid accountId found hFind
    rw [hOld ⟨accountId, uid, hFind⟩]
    exact h.stored hFind
  case allocated => exact fun hTracked => Nat.lt_succ_of_lt (h.allocated hTracked)
  case inSet =>
    intro other hOther
    rcases mem_addBundleInfoToSet hOther with rfl | hOther
    · exact Nat.lt_succ_self _
    · exact Nat.lt_succ_of_lt (h.inSet hOther)
  case nonempty =>
    intro other hTracked
    rw [hOld hTracked]
    exact h.nonempty hTracked
  case covered =>
    intro other
    rw [hBundles]
    split_ifs
    · exact hCovered
    · exact h.covered other

theorem covered_create (name : String) (uid now : Int) :
    (BundlePriorityInfo.create name uid reclaimPriorityBackground now).Covered := by
  refine ⟨⟨rfl, ?_⟩, (by decide : (-1000 : Int) ≤ 400), (by decide : (400 : Int) ≤ 1000), ?_⟩ <;>
    simp [BundlePriorityInfo.create]

theorem findOsAccountById_ne_none (h : WellFormed s) (hTracked : s.Tracked bundle) :
    s.findOsAccountById (s.bundles bundle).accountId ≠ none := by
  obtain ⟨accountId, uid, hFind⟩ := hTracked
  obtain ⟨account, hAccount, -⟩ := findBundle_eq_some.mp hFind
  obtain ⟨rfl, rfl⟩ := h.stored hFind
  rw [(h.covered _).owner, findOsAccountById, hAccount]
  exact Option.some_ne_none account

theorem unlink (h : WellFormed s) (unlinked uid : Int) :
    WellFormed (s.modifyAccount unlinked fun account => account.removeBundleById uid) := by
  refine h.untrack ?_ ?_ rfl (List.Subset.refl _) rfl
  · intro accountId account hFound
    refine h.modifyAccount_ids ?_ hFound
    exact fun _ => rfl
  · intro bundleUid accountId found hFound
    rw [findBundle_removeBundle] at hFound
    split_ifs at hFound
    exact hFound

/-- A bundle leaves the account map under its own uid. -/
theorem not_tracked_unlink (h : WellFormed s) : ¬ (s.modifyAccount
    (getOsAccountIdByUid (s.bundles bundle).uid) fun account =>
      account.removeBundleById (s.bundles bundle).uid).Tracked bundle := by
  rintro ⟨accountId, uid, hFound⟩
  rw [findBundle_removeBundle] at hFound
  split_ifs at hFound with hRemoved
  obtain ⟨rfl, rfl⟩ := h.stored hFound
  exact hRemoved ⟨rfl, rfl⟩

/-- No other tracked bundle leaves with it. -/
theorem tracked_unlink (h : WellFormed s) (hTracked : s.Tracked bundle) (other : BundleRef) :
    (s.modifyAccount (getOsAccountIdByUid (s.bundles bundle).uid) fun account =>
        account.removeBundleById (s.bundles bundle).uid).Tracked other ↔
      s.Tracked other ∧ other ≠ bundle := by
  constructor
  · intro hOther
    refine ⟨tracked_of_removeBundle hOther, ?_⟩
    rintro rfl
    exact h.not_tracked_unlink hOther
  · rintro ⟨⟨accountId, uid, hFound⟩, hNe⟩
    refine ⟨accountId, uid, ?_⟩
    rw [findBundle_removeBundle, if_neg]
    · exact hFound
    · rintro ⟨-, hUid⟩
      exact hNe (h.tracked_unique ⟨_, _, hFound⟩ hTracked ((h.stored hFound).1.trans hUid.symm))

/-- A bundle is dropped from its account, then loses its last process. -/
theorem retire (h : WellFormed s) {uid removed : Int}
    (hFind : s.findBundle uid (getOsAccountIdByUid uid) = some bundle) :
    WellFormed (((s.modifyBundle bundle fun info => info.removeProcByPid removed).modifyAccount
      (getOsAccountIdByUid uid) fun account =>
        account.removeBundleById (s.bundles bundle).uid).deleteBundleInfoFromSet platform bundle) := by
  obtain ⟨rfl, -⟩ := h.stored hFind
  have hEmptied : WellFormed ((s.modifyAccount (getOsAccountIdByUid (s.bundles bundle).uid) fun account =>
      account.removeBundleById (s.bundles bundle).uid).modifyBundle bundle fun info =>
        info.removeProcByPid removed) :=
    (h.unlink _ _).retouch ((h.covered bundle).removeProcByPid removed) rfl fun hTracked =>
      absurd hTracked h.not_tracked_unlink
  exact hEmptied.untrack hEmptied.accountId (fun _ _ _ hFound => hFound) rfl
    (fun _ hOther => mem_deleteBundleInfoFromSet hOther) rfl

/-- Every effect of a request keeps the state well formed. -/
theorem effect (h : WellFormed s) (hEffect : Effect platform dirty s s') : WellFormed s' := by
  cases hEffect with
  | notes handler apps => exact h.congr rfl rfl rfl rfl
  | edit hTracks hSame hPriority =>
      refine h.retouch ((h.covered _).setProc hTracks.2 hSame hPriority) rfl fun _ => ?_
      exact getProcsCount_ne_zero.mpr ⟨_, _, by rw [setProc_procs, if_pos rfl]⟩
  | reprice hDirty hTracks hRepriced =>
      refine h.resort (h.allocated hTracks.1)
        ((h.covered _).toShaped.setProc hTracks.2 hRepriced.same hRepriced.least) rfl ?_
      exact getProcsCount_ne_zero.mpr ⟨_, _, by rw [setProc_procs, if_pos rfl]⟩
  | link hTracks hRepriced =>
      refine WellFormed.congr (h.resort (h.allocated hTracks.1)
        ((h.covered _).toShaped.setProc hTracks.2 hRepriced.same hRepriced.least) rfl ?_) rfl rfl rfl rfl
      exact getProcsCount_ne_zero.mpr ⟨_, _, by rw [setProc_procs, if_pos rfl]⟩
  | suspend hDirty hTracked =>
      refine h.resort (h.allocated hTracked) (h.covered _).toShaped.suspendProcs rfl ?_
      obtain ⟨pid, proc, hProc⟩ := getProcsCount_ne_zero.mp (h.nonempty hTracked)
      exact getProcsCount_ne_zero.mpr ⟨pid, _, by simp [suspendProcs, hProc]; rfl⟩
  | openAccount hNone =>
      refine h.untrack ?_ (fun _ _ _ hFind => by rwa [findBundle_openAccount hNone] at hFind) rfl
        (List.Subset.refl _) rfl
      intro accountId account hAccount
      rw [addOsAccountInfo_lookup hNone] at hAccount
      split_ifs at hAccount with hIs
      · rw [← Option.some.inj hAccount, hIs]
      · exact h.accountId hAccount
  | join hDirty hFind hCreated =>
      obtain ⟨account, hAccount, -⟩ := findBundle_eq_some.mp hFind
      exact h.admitProc hAccount (h.stored hFind).1 (h.allocated ⟨_, _, hFind⟩) hCreated
  | enlist hDirty hAccount hNone hCreated =>
      obtain ⟨account, hAccount⟩ := Option.ne_none_iff_exists'.mp hAccount
      refine (h.newBundle (covered_create _ _ _)).admitProc hAccount ?_ (Nat.lt_succ_self _) hCreated
      simp [ReclaimPriorityManager.newBundle, BundlePriorityInfo.create]
  | discharge hClean hTracks hLeft hAbove =>
      exact h.retouch ((h.covered _).removeProcByPid _) rfl fun _ => hLeft
  | dischargeLeast hClean hTracks hLeft =>
      exact h.resort (h.allocated hTracks.1) ((h.covered _).removeProcByPid _).toShaped rfl hLeft
  | retire hClean hFind hProc hLast => exact h.retire hFind
  | closeAccount hAccount hEmpty =>
      obtain rfl := h.accountId hAccount
      refine h.untrack ?_ (fun _ _ _ hFind => by rwa [findBundle_closeAccount hAccount hEmpty] at hFind)
        rfl (List.Subset.refl _) rfl
      intro accountId account hFound
      rw [removeOsAccountById_lookup] at hFound
      split_ifs at hFound
      exact h.accountId hFound
  | setState hTracked state =>
      exact h.retouch ((h.covered _).mono rfl rfl rfl fun pid proc hProc =>
        ⟨proc, hProc, .refl proc, rfl⟩) rfl h.nonempty
  | reset hClean =>
      refine h.untrack ?_ ?_ rfl (by simp [prioList, ReclaimPriorityManager.reset]) rfl
      · simp [ReclaimPriorityManager.reset]
      · simp [findBundle_eq_some, ReclaimPriorityManager.reset]

theorem chain (h : WellFormed s) (hChain : Chain platform dirty s s') : WellFormed s' := by
  induction hChain with
  | refl => exact h
  | tail _ hEffect ih => exact ih.effect hEffect

theorem writeBundleOomScoreAdj (h : WellFormed s) : WellFormed (s.writeBundleOomScoreAdj bundle) :=
  h.congr (by simp) (by simp) (by rw [writeBundleOomScoreAdj_eq]; rfl) (by simp)

theorem settled {rendered : Option Int} (h : WellFormed s) (hSettled : Settled platform rendered s s') :
    WellFormed s' := by
  cases hSettled with
  | clean hChain => exact h.chain hChain
  | written bundle hTracked hChain handler =>
      exact (h.chain hChain).writeBundleOomScoreAdj.congr rfl rfl rfl rfl
  | render pid hRendered priority => exact h.congr rfl rfl rfl rfl

end WellFormed

/-- What every effect keeps in well formed states, a request keeps, unless it depends on the
files that are written or on the tasks. -/
theorem Settled.invariant {rendered : Option Int} (inv : ReclaimPriorityManager → Prop)
    (hWf : WellFormed s) (h : inv s) (hSettled : Settled platform rendered s s')
    (hEffect : ∀ {dirty : BundleRef → Prop} {s s'}, WellFormed s → inv s →
      Effect platform dirty s s' → inv s')
    (hCongr : ∀ {s s' : ReclaimPriorityManager}, s'.osAccountsInfoMap = s.osAccountsInfoMap →
      s'.prioList = s.prioList → s'.bundles = s.bundles → inv s → inv s') : inv s' := by
  have hChain : ∀ {dirty : BundleRef → Prop} {s'}, Chain platform dirty s s' → inv s' := by
    intro dirty s' hChain
    induction hChain with
    | refl => exact h
    | tail hPrior hLast ih => exact hEffect (hWf.chain hPrior) ih hLast
  cases hSettled with
  | clean hClean => exact hChain hClean
  | written bundle hTracked hBefore handler =>
      apply hCongr _ _ _ (hChain hBefore)
      · simp
      · simp [prioList]
      · simp
  | render pid hRendered priority => exact @hCongr s _ rfl rfl rfl h

end MemMgr
