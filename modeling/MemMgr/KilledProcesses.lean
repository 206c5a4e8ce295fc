import MemMgr.BundleMembers
import MemMgr.HotSwitch
import MemMgr.LowMemoryKiller

/-! Whom the killer kills. It takes bundles from the set, so what it kills is tracked as
long as no bundle with a process is left in the set without its account. A purge can
do that: it drops an empty bundle under its uid, whatever bundle has the uid by then. -/
namespace MemMgr

open Execution ReclaimPriorityManager BundlePriorityInfo

namespace ReclaimPriorityManager

/-- Every bundle of the set that holds a process is tracked. -/
def SetTracked (s : ReclaimPriorityManager) : Prop :=
  ∀ bundle ∈ s.prioList, (s.bundles bundle).getProcsCount ≠ 0 → s.Tracked bundle

/-- Where an empty bundle of the set is dropped, no bundle of the set that survives is stored
under its uid. -/
def DropsOwn (s : ReclaimPriorityManager) (alivePids : List Nat) : Prop :=
  ∀ bundle ∈ s.prioList, ¬ HasSurvivor alivePids (s.bundles bundle) → ∀ other ∈ s.prioList,
    s.findBundle (s.bundles bundle).uid (s.bundles bundle).accountId = some other →
      ¬ HasSurvivor alivePids (s.bundles other)

instance (s : ReclaimPriorityManager) (alivePids : List Nat) : Decidable (s.DropsOwn alivePids) :=
  inferInstanceAs (Decidable (∀ bundle ∈ s.prioList, _ → ∀ other ∈ s.prioList, _ → _))

end ReclaimPriorityManager

/-- A purge drops only bundles that are stored where it looks for them. -/
def purgesOwn (sys : Service) : Op → Prop
  | .filterDiedProcess (some alivePids) => sys.manager.DropsOwn alivePids
  | _ => True

variable {platform : Platform} {dirty : BundleRef → Prop} {s s₁ s' : ReclaimPriorityManager}
variable {bundle : BundleRef} {info : BundlePriorityInfo}

namespace ReclaimPriorityManager

/-- Sorting a changed bundle in again adds no other bundle to the set. -/
theorem mem_resort {change : BundlePriorityInfo → BundlePriorityInfo} {other : BundleRef}
    (h : other ∈ ((s.modifyBundle bundle change).updateBundlePriority platform bundle).prioList) :
    other = bundle ∨ other ∈ s.prioList :=
  @mem_updateBundlePriority platform (s.modifyBundle bundle change) bundle other h

/-- Admitting a process adds no bundle but its own. -/
theorem mem_admitProc {accountId : Int} {proc : ProcessPriorityInfo} {other : BundleRef}
    (h : other ∈ (s.admitProc platform bundle accountId proc).prioList) :
    other = bundle ∨ other ∈ s.prioList :=
  @mem_resort platform s bundle (fun info => info.addProc proc) other h

/-- A new bundle is the only one that its creation adds. -/
theorem mem_newBundle {other : BundleRef} (h : other ∈ (s.newBundle platform info).prioList) :
    other = s.nextRef ∨ other ∈ s.prioList :=
  @mem_addBundleInfoToSet platform { s.modifyBundle s.nextRef (fun _ => info) with
    nextRef := s.nextRef + 1 } s.nextRef other h

end ReclaimPriorityManager

namespace ReclaimPriorityManager.SetTracked

/-- The same set over the same bundles, with no bundle forgotten. -/
theorem congr (h : s.SetTracked) (hTracked : ∀ other, s.Tracked other → s'.Tracked other)
    (hSet : s'.prioList = s.prioList) (hHeap : s'.bundles = s.bundles) : s'.SetTracked := by
  intro other hOther hLeft
  rw [hSet] at hOther
  rw [hHeap] at hLeft
  exact hTracked other (h other hOther hLeft)

/-- A tracked bundle changes, and is perhaps sorted again. -/
theorem touch (h : s.SetTracked) (hTracked : s.Tracked bundle)
    (hKeeps : ∀ other, s.Tracked other → s'.Tracked other)
    (hSet : ∀ other ∈ s'.prioList, other = bundle ∨ other ∈ s.prioList)
    (hHeap : s'.bundles = Function.update s.bundles bundle info) : s'.SetTracked := by
  intro other hOther hLeft
  rcases hSet other hOther with rfl | hOther
  · exact hKeeps other hTracked
  · by_cases hIs : other = bundle
    · rw [hIs]
      exact hKeeps bundle hTracked
    · rw [hHeap, Function.update_of_ne hIs] at hLeft
      exact hKeeps other (h other hOther hLeft)

/-- A tracked bundle changes in place. -/
theorem retouch (h : s.SetTracked) (hTracked : s.Tracked bundle)
    (hMap : s'.osAccountsInfoMap = s.osAccountsInfoMap) (hSet : s'.prioList = s.prioList)
    (hHeap : s'.bundles = Function.update s.bundles bundle info) : s'.SetTracked :=
  h.touch hTracked (fun _ => (tracked_congr hMap).mpr) (fun _ hOther => Or.inr (hSet ▸ hOther)) hHeap

/-- Sorting in a tracked bundle keeps the set within the tracked ones. -/
theorem resort (h : s.SetTracked) (hTracked : s.Tracked bundle)
    {change : BundlePriorityInfo → BundlePriorityInfo} :
    ((s.modifyBundle bundle change).updateBundlePriority platform bundle).SetTracked :=
  h.touch hTracked (fun _ => (tracked_congr rfl).mpr) (fun _ hOther => mem_resort hOther)
    (resort_bundles change)

/-- A bundle with a new process enters its account. -/
theorem admitProc (h : s.SetTracked) {accountId : Int} {proc : ProcessPriorityInfo}
    (hTracked : (s.admitProc platform bundle accountId proc).Tracked bundle) :
    (s.admitProc platform bundle accountId proc).SetTracked := by
  intro other hOther hLeft
  by_cases hIs : other = bundle
  · rw [hIs]
    exact hTracked
  · rw [admitProc_bundles, Function.update_of_ne hIs] at hLeft
    exact (h other ((mem_admitProc hOther).resolve_left hIs) hLeft).admitProc

/-- A new bundle enters the set, then the account of its uid. -/
theorem enlist (h : s.SetTracked) {name : String} {uid now : Int} {proc : ProcessPriorityInfo}
    (hAccount : s.osAccountsInfoMap[getOsAccountIdByUid uid]? ≠ none)
    (hNone : s.findBundle uid (getOsAccountIdByUid uid) = none) :
    ((s.newBundle platform (.create name uid reclaimPriorityBackground now)).admitProc platform
      s.nextRef (getOsAccountIdByUid uid) proc).SetTracked := by
  obtain ⟨account, hAccount⟩ := Option.ne_none_iff_exists'.mp hAccount
  intro other hOther hLeft
  by_cases hIs : other = s.nextRef
  · rw [hIs]
    apply @tracked_admitProc platform (s.newBundle platform _) _ _ _ account hAccount
    intro found hFound
    rw [newBundle_bundles, Function.update_self] at hFound
    have hFind : s.findBundle uid (getOsAccountIdByUid uid) = some found :=
      findBundle_eq_some.mpr ⟨account, hAccount, hFound⟩
    exact absurd (hNone.symm.trans hFind) (by simp)
  · rw [enlist_bundles, Function.update_of_ne hIs] at hLeft
    have hMem := (mem_newBundle ((mem_admitProc hOther).resolve_left hIs)).resolve_left hIs
    have hBefore : (s.newBundle platform (.create name uid reclaimPriorityBackground now)).Tracked
      other := h other hMem hLeft
    exact hBefore.admitProc

/-- Every effect of a request keeps the set within the tracked bundles. -/
theorem effect (hWf : WellFormed s) (h : s.SetTracked) (hEffect : Effect platform dirty s s') :
    s'.SetTracked := by
  cases hEffect with
  | notes handler apps => exact h.congr (fun _ => (tracked_congr rfl).mpr) rfl rfl
  | edit hTracks hSame hPriority => exact h.retouch hTracks.1 rfl rfl rfl
  | reprice hDirty hTracks hRepriced => exact h.resort hTracks.1
  | @link bundle _ proc proc' hTracks hRepriced =>
      have hResort : ((s.setProc bundle proc').updateBundlePriority platform bundle).SetTracked :=
        h.resort hTracks.1
      exact hResort.congr (fun _ => (tracked_congr rfl).mpr) rfl rfl
  | suspend hDirty hTracked => exact h.resort hTracked
  | openAccount hNone => exact h.congr (fun _ => (tracked_openAccount hNone).mpr) rfl rfl
  | join hDirty hFind hCreated =>
      have hTracked : s.Tracked _ := ⟨_, _, hFind⟩
      exact h.admitProc hTracked.admitProc
  | enlist hDirty hAccount hNone hCreated => exact h.enlist hAccount hNone
  | discharge hClean hTracks hLeft hAbove => exact h.retouch hTracks.1 rfl rfl rfl
  | dischargeLeast hClean hTracks hLeft => exact h.resort hTracks.1
  | @retire bundle uid pid proc hClean hFind hProc hLast =>
      obtain ⟨hUid, -⟩ := hWf.stored hFind
      have hUnlink := hWf.tracked_unlink ⟨_, _, hFind⟩
      intro other hOther hLeft
      by_cases hIs : other = bundle
      · rw [hIs] at hLeft
        exact absurd hLast (by simpa using hLeft)
      · have hMem := mem_deleteBundleInfoFromSet hOther
        have hBefore : s.Tracked other := by
          apply h other hMem
          simpa [Function.update_of_ne hIs] using hLeft
        have hKept := (hUnlink other).mpr ⟨hBefore, hIs⟩
        rw [hUid] at hKept ⊢
        exact (tracked_congr rfl).mp hKept
  | closeAccount hAccount hEmpty =>
      obtain rfl := hWf.accountId hAccount
      exact h.congr (fun _ => (tracked_closeAccount hAccount hEmpty).mpr) rfl rfl
  | setState hTracked state => exact h.retouch hTracked rfl rfl rfl
  | reset hClean =>
      intro other hOther
      simp [ReclaimPriorityManager.reset, prioList] at hOther

/-- A settled request keeps the set within the tracked bundles. -/
theorem settled {rendered : Option Int} (hWf : WellFormed s) (h : s.SetTracked)
    (hSettled : Settled platform rendered s s') : s'.SetTracked :=
  hSettled.invariant SetTracked hWf h (fun hWf h hEffect => effect hWf h hEffect)
    fun hMap hSet hHeap h => h.congr (fun _ => (tracked_congr hMap).mpr) hSet hHeap

end ReclaimPriorityManager.SetTracked

/-- The walk of a purge, with the bundles it has visited and left. -/
structure Walking (alivePids : List Nat) (start : ReclaimPriorityManager) (visited : List BundleRef)
    (s : ReclaimPriorityManager) : Prop where
  wellFormed : WellFormed s
  owner : ∀ bundle, (s.bundles bundle).uid = (start.bundles bundle).uid ∧
    (s.bundles bundle).accountId = (start.bundles bundle).accountId
  survivors : ∀ bundle, HasSurvivor alivePids (s.bundles bundle) ↔
    HasSurvivor alivePids (start.bundles bundle)
  set : s.prioList ⊆ start.prioList
  stored : ∀ {uid accountId bundle}, s.findBundle uid accountId = some bundle →
    start.findBundle uid accountId = some bundle
  filtered : ∀ bundle ∈ visited, (s.bundles bundle).getProcsCount ≠ 0 →
    HasSurvivor alivePids (start.bundles bundle)

namespace Walking

variable {alivePids : List Nat} {start : ReclaimPriorityManager} {visited : List BundleRef}

/-- The walk starts with nothing visited. -/
theorem zero (hWf : WellFormed start) : Walking alivePids start [] start where
  wellFormed := hWf
  owner _ := ⟨rfl, rfl⟩
  survivors _ := Iff.rfl
  set := List.Subset.refl _
  stored := id
  filtered _ hVisited := absurd hVisited List.not_mem_nil

/-- A bundle loses its dead. -/
theorem visit (h : Walking alivePids start visited s) (hWf : WellFormed s')
    (hHeap : s'.bundles = Function.update s.bundles bundle (filterDiedProcs alivePids (s.bundles bundle)))
    (hSet : s'.prioList ⊆ s.prioList)
    (hStored : ∀ {uid accountId other}, s'.findBundle uid accountId = some other →
      s.findBundle uid accountId = some other) : Walking alivePids start (visited ++ [bundle]) s' where
  wellFormed := hWf
  owner := by
    intro other
    rw [hHeap, Function.update_apply]
    split_ifs with hIs
    · rw [hIs]
      exact h.owner bundle
    · exact h.owner other
  survivors := by
    intro other
    rw [hHeap, Function.update_apply]
    split_ifs with hIs
    · rw [hIs, hasSurvivor_filterDiedProcs]
      exact h.survivors bundle
    · exact h.survivors other
  set := fun _ hOther => h.set (hSet hOther)
  stored := fun hFind => h.stored (hStored hFind)
  filtered := by
    intro other hVisited hLeft
    rw [hHeap, Function.update_apply] at hLeft
    split_ifs at hLeft with hIs
    · rw [filterDiedProcs_left, h.survivors] at hLeft
      exact hIs ▸ hLeft
    · rcases List.mem_append.mp hVisited with hBefore | hThis
      · exact h.filtered other hBefore hLeft
      · exact absurd (List.mem_singleton.mp hThis) hIs

/-- A bundle stays in the set. -/
theorem stay (platform : Platform) (h : Walking alivePids start visited s)
    (hPurge : Purge platform alivePids s (s.modifyBundle bundle (filterDiedProcs alivePids))) :
    Walking alivePids start (visited ++ [bundle])
      (s.modifyBundle bundle (filterDiedProcs alivePids)) :=
  h.visit (h.wellFormed.purge hPurge) rfl (List.Subset.refl _) id

/-- Dropping a bundle forgets it under its own account and uid only. -/
theorem findBundle_dropDied (uid accountId : Int) (position : Nat) :
    (s.dropDied platform alivePids bundle position).findBundle uid accountId =
      if (s.bundles bundle).accountId = accountId ∧ (s.bundles bundle).uid = uid then none
      else s.findBundle uid accountId :=
  findBundle_removeBundle _ _ uid accountId

/-- An empty bundle goes. -/
theorem drop (h : Walking alivePids start visited s) {position : Nat}
    (hAt : s.prioList[position]? = some bundle) (hEmpty : ¬ HasSurvivor alivePids (s.bundles bundle)) :
    Walking alivePids start visited (s.dropDied platform alivePids bundle position) := by
  have hVisit : Walking alivePids start (visited ++ [bundle])
      (s.dropDied platform alivePids bundle position) := by
    apply h.visit (h.wellFormed.purge (.drop position hAt hEmpty)) rfl
    · rw [dropDied_prioList]
      exact List.eraseIdx_subset
    · intro uid accountId other hFind
      rw [findBundle_dropDied] at hFind
      split_ifs at hFind
      exact hFind
  have hFiltered := fun other hVisited => hVisit.filtered other (List.mem_append_left _ hVisited)
  exact { hVisit with filtered := hFiltered }

/-- A bundle with a survivor stays tracked when one that is stored elsewhere goes. -/
theorem tracked_drop (h : Walking alivePids start visited s) (hOwn : start.DropsOwn alivePids)
    {position : Nat} (hAt : s.prioList[position]? = some bundle)
    (hEmpty : ¬ HasSurvivor alivePids (s.bundles bundle)) {other : BundleRef}
    (hOther : other ∈ s.prioList) (hSurvivor : HasSurvivor alivePids (start.bundles other))
    (hTracked : s.Tracked other) : (s.dropDied platform alivePids bundle position).Tracked other := by
  obtain ⟨accountId, uid, hFind⟩ := hTracked
  refine ⟨accountId, uid, ?_⟩
  rw [findBundle_dropDied, if_neg]
  · exact hFind
  · rintro ⟨rfl, rfl⟩
    have hStored := h.stored hFind
    rw [(h.owner bundle).1, (h.owner bundle).2] at hStored
    exact hOwn bundle (h.set (List.mem_of_getElem? hAt)) (fun hWas => hEmpty ((h.survivors bundle).mpr hWas))
      other (h.set hOther) hStored hSurvivor

/-- What the purge leaves in the set is tracked, unless it is empty. -/
theorem filterDiedProcess (hWf : WellFormed start) (h : start.SetTracked)
    (hOwn : start.DropsOwn alivePids) :
    (start.filterDiedProcess platform (some alivePids)).SetTracked := by
  have hMem : ∀ {s : ReclaimPriorityManager} {before rest : List BundleRef} {bundle : BundleRef},
      s.prioList = before ++ bundle :: rest → bundle ∈ s.prioList := by
    intro s before rest bundle hList
    simp [hList]
  have hStart : ∀ bundle ∈ start.prioList, HasSurvivor alivePids (start.bundles bundle) →
      start.Tracked bundle := by
    intro bundle hBundle hSurvivor
    obtain ⟨pid, proc, hProc, -⟩ := hSurvivor
    exact h bundle hBundle (getProcsCount_ne_zero.mpr ⟨pid, proc, hProc⟩)
  have hWalk := @filterDiedBundles_rounds platform alivePids start
    (fun visited s => Walking alivePids start visited s ∧ ∀ bundle ∈ s.prioList,
      HasSurvivor alivePids (start.bundles bundle) → s.Tracked bundle)
    (fun hList hLeft h => ⟨h.1.stay platform (.keep (hMem hList) hLeft), h.2⟩)
    (fun hList hEmpty hNone h => ⟨h.1.stay platform (.orphan (hMem hList) hEmpty hNone), h.2⟩)
    (fun {s before rest bundle} hList hEmpty h => by
      have hAt : s.prioList[before.length]? = some bundle := by simp [hList]
      refine ⟨h.1.drop hAt hEmpty, fun other hOther hSurvivor => ?_⟩
      rw [dropDied_prioList] at hOther
      have hBefore := List.eraseIdx_subset hOther
      exact h.1.tracked_drop hOwn hAt hEmpty hBefore hSurvivor (h.2 other hBefore hSurvivor))
    start.prioList [] rfl ⟨.zero hWf, hStart⟩
  intro bundle hBundle hLeft
  exact hWalk.2 bundle hBundle (hWalk.1.filtered bundle hBundle hLeft)

section LeftBehind

variable {other : BundleRef}

/-- Bundles of one uid have one place where they may be tracked. -/
theorem findBundle_of_tracked (h : Walking alivePids start visited s)
    (hUid : (start.bundles other).uid = (start.bundles bundle).uid) (hTracked : s.Tracked other) :
    s.findBundle (s.bundles bundle).uid (s.bundles bundle).accountId = some other := by
  obtain ⟨accountId, uid, hFound⟩ := hTracked
  obtain ⟨hStored, rfl⟩ := h.wellFormed.stored hFound
  rw [(h.wellFormed.covered bundle).owner, (h.owner bundle).1, ← hUid, ← (h.owner other).1, hStored]
  exact hFound

/-- The survivor `other` stays in the set. It is untracked once the walk has visited `bundle`. -/
def LeftBehind (alivePids : List Nat) (start : ReclaimPriorityManager) (bundle other : BundleRef)
    (visited : List BundleRef) (s : ReclaimPriorityManager) : Prop :=
  Walking alivePids start visited s ∧ other ∈ s.prioList ∧
    (¬ s.Tracked other ∨ bundle ∈ s.prioList ∧ bundle ∉ visited)

variable {dropped : BundleRef} {before rest : List BundleRef}

/-- A bundle that is not the one dropped is not visited by dropping it. -/
theorem not_mem_visited (hNot : bundle ∉ before) (hOther : dropped ≠ bundle) :
    bundle ∉ before ++ [dropped] := by
  simp [hNot, hOther.symm]

/-- The other bundles stay in the list. -/
theorem mem_eraseIdx_of_ne {list : List BundleRef} (hList : list = before ++ dropped :: rest)
    (hNe : dropped ≠ other) (hOther : other ∈ list) : other ∈ list.eraseIdx before.length := by
  rw [hList, List.eraseIdx_append_of_length_le le_rfl]
  simpa [hList, hNe.symm] using hOther

/-- Passing a bundle with a survivor keeps the other one left behind. -/
theorem LeftBehind.keep (platform : Platform)
    (hEmpty : ¬ HasSurvivor alivePids (start.bundles bundle))
    (h : LeftBehind alivePids start bundle other before s)
    (hList : s.prioList = before ++ dropped :: rest)
    (hLeft : HasSurvivor alivePids (s.bundles dropped)) :
    LeftBehind alivePids start bundle other (before ++ [dropped])
      (s.modifyBundle dropped (filterDiedProcs alivePids)) := by
  obtain ⟨hWalk, hOther, hLater⟩ := h
  refine ⟨hWalk.stay platform (.keep (by simp [hList]) hLeft), hOther,
    hLater.imp id fun hLater => ?_⟩
  apply And.intro hLater.1 (not_mem_visited hLater.2 _)
  rintro rfl
  exact hEmpty ((hWalk.survivors _).mp hLeft)

/-- A bundle without a survivor whose account is gone is passed, and the other one stays
left behind. -/
theorem LeftBehind.orphan (platform : Platform)
    (hUid : (start.bundles other).uid = (start.bundles bundle).uid)
    (h : LeftBehind alivePids start bundle other before s)
    (hList : s.prioList = before ++ dropped :: rest)
    (hNone : ¬ HasSurvivor alivePids (s.bundles dropped))
    (hAccount : s.findOsAccountById (s.bundles dropped).accountId = none) :
    LeftBehind alivePids start bundle other (before ++ [dropped])
      (s.modifyBundle dropped (filterDiedProcs alivePids)) := by
  obtain ⟨hWalk, hOther, hLater⟩ := h
  refine ⟨hWalk.stay platform (.orphan (by simp [hList]) hNone hAccount), hOther, ?_⟩
  by_cases hIs : dropped = bundle
  · left
    intro hTracked
    have hFound := hWalk.findBundle_of_tracked hUid hTracked
    rw [hIs] at hAccount
    simp [findBundle, hAccount] at hFound
  · exact hLater.imp id fun hLater => ⟨hLater.1, not_mem_visited hLater.2 hIs⟩

/-- Dropping a bundle of a known account keeps the other one left behind. -/
theorem LeftBehind.drop (hUid : (start.bundles other).uid = (start.bundles bundle).uid)
    (hSurvivor : HasSurvivor alivePids (start.bundles other))
    (h : LeftBehind alivePids start bundle other before s)
    (hList : s.prioList = before ++ dropped :: rest)
    (hNone : ¬ HasSurvivor alivePids (s.bundles dropped)) :
    LeftBehind alivePids start bundle other before
      (s.dropDied platform alivePids dropped before.length) := by
  obtain ⟨hWalk, hOther, hLater⟩ := h
  have hNe : dropped ≠ other := by
    rintro rfl
    exact hNone ((hWalk.survivors _).mpr hSurvivor)
  have hDropped : Walking alivePids start before
      (s.dropDied platform alivePids dropped before.length) := hWalk.drop (by simp [hList]) hNone
  refine ⟨hDropped, ?_, ?_⟩
  · rw [dropDied_prioList]
    exact mem_eraseIdx_of_ne hList hNe hOther
  · by_cases hIs : dropped = bundle
    · left
      intro hTracked
      have hFound := hDropped.findBundle_of_tracked hUid hTracked
      rw [(hDropped.owner bundle).1, (hDropped.owner bundle).2, ← (hWalk.owner bundle).1,
        ← (hWalk.owner bundle).2, findBundle_dropDied, hIs, if_pos ⟨rfl, rfl⟩] at hFound
      cases hFound
    · apply hLater.imp
      · exact fun hNot hTracked => hNot (tracked_of_removeBundle hTracked)
      · intro hLater
        rw [dropDied_prioList]
        exact ⟨mem_eraseIdx_of_ne hList hIs hLater.1, hLater.2⟩

end LeftBehind

/-- A bundle with a survivor, stored under the uid of one that goes, is left in the set untracked. -/
theorem dropsOwn_of_setTracked (hWf : WellFormed start)
    (h : (start.filterDiedProcess platform (some alivePids)).SetTracked) : start.DropsOwn alivePids := by
  intro bundle hBundle hEmpty other hOther hFind hSurvivor
  have hUid := (hWf.stored hFind).1
  have hWalk := @filterDiedBundles_rounds platform alivePids start
    (LeftBehind alivePids start bundle other)
    (fun hList hLeft h => h.keep platform hEmpty hList hLeft)
    (fun hList hNone hAccount h => h.orphan platform hUid hList hNone hAccount)
    (fun hList hNone h => h.drop hUid hSurvivor hList hNone)
    start.prioList [] rfl ⟨.zero hWf, hOther, Or.inr ⟨hBundle, List.not_mem_nil⟩⟩
  obtain ⟨hEnd, hLeft, hUntracked⟩ := hWalk
  obtain ⟨pid, proc, hProc, -⟩ := (hEnd.survivors other).mpr hSurvivor
  have hTracked := h other hLeft (getProcsCount_ne_zero.mpr ⟨pid, proc, hProc⟩)
  rcases hUntracked with hNot | ⟨hMem, hNot⟩
  · exact hNot hTracked
  · exact hNot hMem

end Walking

/-- An account switch writes priorities in place. -/
theorem ReclaimPriorityManager.SetTracked.hotSwitch (h : s.SetTracked) (accounts : MultiAccountManager)
    (updatedAccountIds : List Int) : (accounts.handleAccountHotSwitch updatedAccountIds s).SetTracked := by
  have hSame : NoneJoins s (accounts.handleAccountHotSwitch updatedAccountIds s) :=
    handleAccountHotSwitch_noneJoins accounts updatedAccountIds
  intro bundle hBundle hLeft
  rw [MultiAccountManager.handleAccountHotSwitch_prioList] at hBundle
  rw [tracked_congr (MultiAccountManager.handleAccountHotSwitch_osAccountsInfoMap _)]
  apply h bundle hBundle
  obtain ⟨pid, proc, hProc⟩ := getProcsCount_ne_zero.mp hLeft
  apply getProcsCount_ne_zero.mpr
  by_contra hNone
  simp only [not_exists] at hNone
  have hAbsent := hSame.absent (Option.eq_none_iff_forall_ne_some.mpr (hNone pid))
  exact absurd (hAbsent.symm.trans hProc) (by simp)

/-- One operation keeps the set within the tracked bundles. -/
theorem StepEffect.setTracked {sys : Service} {op : Op} (hWf : WellFormed sys.manager)
    (h : sys.manager.SetTracked) (hOwn : purgesOwn sys op) (hEffect : StepEffect platform sys op s') :
    s'.SetTracked := by
  cases hEffect with
  | settled hSettled => exact h.settled hWf hSettled
  | purged alivePids => exact Walking.filterDiedProcess hWf h hOwn
  | switched used updatedAccountIds hSwitch => exact h.hotSwitch used updatedAccountIds

namespace Service

variable {sys : Service}

/-- In every run whose purges drop their own bundles, the set stays within the tracked ones. -/
theorem Run.setTracked (run : Run platform purgesOwn sys) : sys.manager.SetTracked := by
  apply run.keeps SetTracked
  · intro bundle hBundle
    simp [ReclaimPriorityManager.init, prioList] at hBundle
  · intro sys op sys' hWf h hOwn hStep
    exact (hStep.effect hWf).setTracked hWf h hOwn

end Service

/-- A process the killer may take at this priority. -/
def ReclaimPriorityManager.Killable (s : ReclaimPriorityManager) (minPrio pid : Int) : Prop :=
  ∃ bundle ∈ s.prioList, minPrio ≤ (s.bundles bundle).priority ∧
    ∃ proc, (s.bundles bundle).procs[pid]? = some proc

/-- A copy holds the same processes. -/
theorem BundlePriorityInfo.mem_copy (hShaped : info.Shaped) {pid : Int} (hPid : pid ∈ info.copy.procs.keys) :
    ∃ proc, info.procs[pid]? = some proc := by
  have hFold : ∀ (entries : List (Int × ProcessPriorityInfo)) (procs : Std.ExtTreeMap Int ProcessPriorityInfo),
      pid ∈ entries.foldl (fun procs entry => procs.insertIfNew entry.2.pid entry.2) procs →
        pid ∈ procs ∨ ∃ entry ∈ entries, entry.2.pid = pid := by
    intro entries
    induction entries with
    | nil => exact fun _ hMem => Or.inl hMem
    | cons entry entries ih =>
        intro procs hMem
        rcases ih _ hMem with hFirst | ⟨other, hOther, hIs⟩
        · rw [Std.ExtTreeMap.mem_insertIfNew, Std.LawfulEqCmp.compare_eq_iff_eq] at hFirst
          rcases hFirst with hIs | hBefore
          · exact Or.inr ⟨entry, List.mem_cons_self, hIs⟩
          · exact Or.inl hBefore
        · exact Or.inr ⟨other, List.mem_cons_of_mem _ hOther, hIs⟩
  rw [Std.ExtTreeMap.mem_keys, BundlePriorityInfo.copy, Std.ExtTreeMap.foldl_eq_foldl_toList] at hPid
  rcases hFold _ _ hPid with hEmpty | ⟨entry, hEntry, rfl⟩
  · exact absurd hEmpty Std.ExtTreeMap.not_mem_empty
  · have hProc := Std.ExtTreeMap.mem_toList_iff_getElem?_eq_some.mp hEntry
    rw [(hShaped.record _ _ hProc).pid]
    exact ⟨_, hProc⟩

namespace ReclaimPriorityManager

/-- The copy, and the processes killed at once, come from bundles at this priority. -/
theorem killableFrom_killable (hWf : WellFormed s) (copySucceeds : Nat → Bool) (minPrio : Int)
    {bundles : List BundleRef} (hBundles : bundles ⊆ s.prioList) (position : Nat) :
    (∀ pid ∈ (s.killableFrom copySucceeds minPrio bundles position).2, s.Killable minPrio pid) ∧
      ∀ copied, (s.killableFrom copySucceeds minPrio bundles position).1 = some copied →
        ∀ pid ∈ copied.procs.keys, s.Killable minPrio pid := by
  induction bundles generalizing position with
  | nil =>
      constructor
      · intro pid hPid
        cases hPid
      · intro copied hCopied
        cases hCopied
  | cons bundle bundles ih =>
      have hMem : bundle ∈ s.prioList := hBundles List.mem_cons_self
      have hRest := ih (fun other hOther => hBundles (List.mem_cons_of_mem _ hOther)) (position + 1)
      have hShaped := (hWf.covered bundle).toShaped
      rw [killableFrom]
      dsimp only
      split_ifs with hBelow
      · constructor
        · intro pid hPid
          cases hPid
        · intro copied hCopied
          cases hCopied
      · exact hRest
      · constructor
        · intro pid hPid
          cases hPid
        · intro copied hCopied pid hPid
          obtain rfl := Option.some.inj hCopied
          exact ⟨bundle, hMem, not_lt.mp hBelow, mem_copy hShaped hPid⟩
      · constructor
        · intro pid hPid
          rcases List.mem_append.mp hPid with hOwn | hLater
          · obtain ⟨entry, hEntry, rfl⟩ := List.mem_map.mp hOwn
            have hProc := Std.ExtTreeMap.mem_toList_iff_getElem?_eq_some.mp hEntry
            rw [(hShaped.record _ _ hProc).pid]
            exact ⟨bundle, hMem, not_lt.mp hBelow, _, hProc⟩
          · exact hRest.1 pid hLater
        · exact hRest.2

/-- A state is no part of what may be killed. -/
theorem killable_setBundleState {accountId uid minPrio pid : Int} {state : BundleState} :
    (s.setBundleState accountId uid state).Killable minPrio pid ↔ s.Killable minPrio pid := by
  rw [setBundleState]
  cases s.findBundle uid accountId with
  | none => rfl
  | some marked =>
      have hSame : ∀ other,
          ((s.modifyBundle marked fun info => { info with state := state }).bundles other).priority =
            (s.bundles other).priority ∧
          ((s.modifyBundle marked fun info => { info with state := state }).bundles other).procs =
            (s.bundles other).procs := by
        intro other
        rw [modifyBundle_bundles, Function.update_apply]
        split_ifs with hIs
        · rw [hIs]
          exact ⟨rfl, rfl⟩
        · exact ⟨rfl, rfl⟩
      simp only [Killable, hSame]
      rfl

/-- In a set whose bundles are tracked, only tracked processes at that priority may be killed. -/
theorem Killable.tracks (hWf : WellFormed s) (hTracked : s.SetTracked) {minPrio pid : Int}
    (h : s.Killable minPrio pid) : ∃ bundle proc, s.TracksProc bundle pid proc ∧ minPrio ≤ proc.priority := by
  obtain ⟨bundle, hMem, hPriority, proc, hProc⟩ := h
  have hLeft := getProcsCount_ne_zero.mpr ⟨pid, proc, hProc⟩
  exact ⟨bundle, proc, ⟨hTracked bundle hMem hLeft, hProc⟩,
    hPriority.trans ((hWf.covered bundle).below pid proc hProc)⟩

end ReclaimPriorityManager

namespace LowMemoryKiller

variable (event : PressureEvent) {minPrio : Int}

/-- What one round kills, and what it leaves as it was. -/
theorem killOneBundleByPrio_killable (round : Nat) {killer : KillerState}
    (hWf : WellFormed killer.manager) :
    (∀ pid ∈ (killOneBundleByPrio event round minPrio killer).1.killed,
      pid ∈ killer.killed ∨ killer.manager.Killable minPrio pid) ∧
    WellFormed (killOneBundleByPrio event round minPrio killer).1.manager ∧
    ∀ pid, (killOneBundleByPrio event round minPrio killer).1.manager.Killable minPrio pid ↔
      killer.manager.Killable minPrio pid := by
  have hSubset : killer.manager.prioList.reverse ⊆ killer.manager.prioList :=
    fun _ => List.mem_reverse.mp
  obtain ⟨hQuick, hCopied⟩ := killableFrom_killable hWf (event.copyBundle round) minPrio hSubset 0
  rw [killOneBundleByPrio, getOneKillableBundle]
  generalize killer.manager.killableFrom (event.copyBundle round) minPrio
    killer.manager.prioList.reverse 0 = chosen at hQuick hCopied ⊢
  obtain ⟨found, quick⟩ := chosen
  dsimp only at hQuick hCopied ⊢
  have hNoted : ∀ pid ∈ quick.reverse ++ killer.killed,
      pid ∈ killer.killed ∨ killer.manager.Killable minPrio pid := by
    intro pid hPid
    rcases List.mem_append.mp hPid with hNew | hOld
    · exact Or.inr (hQuick pid (List.mem_reverse.mp hNew))
    · exact Or.inl hOld
  rw [killAll_eq]
  cases found with
  | none => exact ⟨hNoted, hWf, fun _ => Iff.rfl⟩
  | some copied =>
      dsimp only
      split_ifs
      · exact ⟨hNoted, hWf, fun _ => Iff.rfl⟩
      · exact ⟨hNoted, hWf, fun _ => Iff.rfl⟩
      · exact ⟨hNoted, hWf, fun _ => Iff.rfl⟩
      · rw [killAll_eq]
        refine ⟨fun pid hPid => ?_, ?_, fun pid => killable_setBundleState⟩
        · rcases List.mem_append.mp hPid with hNew | hOld
          · exact Or.inr (hCopied copied rfl pid (List.mem_reverse.mp hNew))
          · exact hNoted pid hOld
        · have hSettled : Settled ⟨.none, .empty⟩ none killer.manager
              (killer.manager.setBundleState copied.accountId copied.uid .stateWaitingForKill) :=
            setBundleState_settled _ _ _
          exact hWf.settled hSettled

/-- The rounds of one event kill only what could be killed when it began. -/
theorem killRounds_killable (targetBuf targetKillKb : Nat) (left currKillKb : Nat) {killer : KillerState}
    (hWf : WellFormed killer.manager) :
    ∀ pid ∈ (killRounds event minPrio targetBuf targetKillKb left currKillKb killer).killed,
      pid ∈ killer.killed ∨ killer.manager.Killable minPrio pid := by
  induction left generalizing currKillKb killer with
  | zero => exact fun pid hPid => Or.inl hPid
  | succ left ih =>
      obtain ⟨hRound, hWf₁, hSame⟩ := @killOneBundleByPrio_killable event minPrio
        (maxKillCntPerEvent - (left + 1)) killer hWf
      rw [killRounds]
      generalize killOneBundleByPrio event (maxKillCntPerEvent - (left + 1)) minPrio killer = round
        at hRound hWf₁ hSame ⊢
      obtain ⟨next, freedBuf⟩ := round
      dsimp only at hRound hWf₁ hSame ⊢
      split_ifs
      · exact hRound
      · exact hRound
      · exact hRound
      · intro pid hPid
        rcases ih _ hWf₁ pid hPid with hBefore | hLater
        · exact hRound pid hBefore
        · exact Or.inr ((hSame pid).mp hLater)
      · exact hRound

/-- The least priority an event kills from. -/
def eventMinPrio (levelMap : Std.ExtTreeMap Nat Int) : Int :=
  (queryKillMemoryPriorityPair levelMap (toUnsigned (event.getCurrentBuffer 0))).minPrio

/-- A handled event kills only what could be killed when it began. -/
theorem psiHandlerInner_killable (levelMap : Std.ExtTreeMap Nat Int) {killer : KillerState}
    (hWf : WellFormed killer.manager) :
    ∀ pid ∈ (psiHandlerInner event levelMap killer).killed,
      pid ∈ killer.killed ∨ killer.manager.Killable (eventMinPrio event levelMap) pid := by
  rw [psiHandlerInner]
  dsimp only
  split
  · exact fun pid hPid => Or.inl hPid
  split
  · exact fun pid hPid => Or.inl hPid
  · exact killRounds_killable event _ _ _ _ hWf

end LowMemoryKiller

/-- While purges drop only bundles stored where they look for them, whatever an event kills is
tracked, at the priority of the event or behind it. -/
theorem Service.Run.killed_tracked {sys : Service} (run : Service.Run platform purgesOwn sys)
    (event : PressureEvent) (levelMap : Std.ExtTreeMap Nat Int) (killLevel : Nat) :
    ∀ pid ∈ (LowMemoryKiller.psiHandlerInner event levelMap ⟨sys.manager, killLevel, []⟩).killed,
      ∃ bundle proc, sys.manager.TracksProc bundle pid proc ∧
        LowMemoryKiller.eventMinPrio event levelMap ≤ proc.priority := by
  intro pid hPid
  have hKillable := (LowMemoryKiller.psiHandlerInner_killable event levelMap run.wellFormed pid
    hPid).resolve_left List.not_mem_nil
  exact hKillable.tracks run.wellFormed run.setTracked

namespace Scenario

/-- An event that leaves nothing unkilled from priority 400 on. -/
def pressure : PressureEvent := ⟨fun _ => 480000, fun _ => 10, fun _ _ => 100, fun _ _ => true⟩

/-- Two bundles in the background, and a purge that finds one of them dead. -/
def purged : Service :=
  (reached [event .createProcess 1 20000001, event .createProcess 2 20000002,
    event .background 1 20000001, event .background 2 20000002,
    .filterDiedProcess (some [2])]).get (by decide)

instance (sys : Service) (op : Op) : Decidable (purgesOwn sys op) :=
  match op with
  | .filterDiedProcess (some alivePids) => inferInstanceAs (Decidable (sys.manager.DropsOwn alivePids))
  | .filterDiedProcess none => isTrue trivial
  | .updateReclaimPriorityInner _ _ _ => isTrue trivial
  | .updateRecalimPrioritySyncWithLock _ _ => isTrue trivial
  | .checkAbilityStartCompleted _ _ _ => isTrue trivial
  | .checkCreateProcPriorityDelay _ _ => isTrue trivial
  | .setBundleState _ _ _ => isTrue trivial
  | .reset => isTrue trivial
  | .initAccounts _ => isTrue trivial
  | .osAccountsChanged _ _ _ => isTrue trivial

/-- The survivor is killed. -/
theorem killed_tracked_purged :
    (LowMemoryKiller.psiHandlerInner pressure ∅ ⟨purged.manager, 0, []⟩).killed = [2] ∧
      ∃ bundle proc, purged.manager.TracksProc bundle 2 proc ∧
        LowMemoryKiller.eventMinPrio pressure ∅ ≤ proc.priority := by
  have hKilled : (LowMemoryKiller.psiHandlerInner pressure ∅ ⟨purged.manager, 0, []⟩).killed = [2] := by
    decide +kernel
  refine ⟨hKilled, ?_⟩
  have hRun : Service.Run Scenario.platform purgesOwn purged := run_checked (by decide) (by decide)
  exact hRun.killed_tracked pressure ∅ 0 2 (by simp [hKilled])

/-- After the switch to account 101 the end of its process leaves an empty bundle in the set. A
second process of the application gets a bundle of its own, which the purge takes from the
account in place of the empty one. -/
def purgedOther : Service :=
  (reached (twoAccounts ++ switchTo101 ++ [event .processTerminated 2 20200001,
    event .createProcess 3 20200001, event .background 3 20200001,
    .filterDiedProcess (some [1, 3])])).get (by decide +kernel)

/-- Where a purge dropped the bundle of another account, a process is killed that no
bundle tracks. -/
theorem killed_untracked_purgedOther : ∃ sys, Service.Run Scenario.platform Service.anyOp sys ∧
    3 ∈ (LowMemoryKiller.psiHandlerInner pressure ∅ ⟨sys.manager, 0, []⟩).killed ∧
    ∀ bundle proc, ¬ sys.manager.TracksProc bundle 3 proc := by
  have hRun : Service.Run Scenario.platform Service.anyOp purgedOther :=
    run_reached (fun _ _ _ => trivial) (by decide +kernel)
  refine ⟨purgedOther, hRun, by decide +kernel, ?_⟩
  intro bundle proc hTracks
  have hOnly : purgedOther.manager.trackedBundles = [0] := by decide +kernel
  have hNone : (purgedOther.manager.bundles 0).procs[(3 : Int)]? = none := by decide +kernel
  have hBundle := mem_trackedBundles.mpr hTracks.1
  rw [hOnly, List.mem_singleton] at hBundle
  subst hBundle
  exact absurd (hNone.symm.trans hTracks.2) (by simp)

end Scenario
end MemMgr
