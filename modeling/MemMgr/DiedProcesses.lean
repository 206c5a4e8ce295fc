import MemMgr.WellFormed

/-! The periodic purge of processes that died without a notice. It walks the set
and erases through the iterator, so it is a chain of three kinds of step whatever
order the set is in. -/
namespace MemMgr

open Std (ExtTreeMap)
open Relation ReclaimPriorityManager BundlePriorityInfo ProcessPriorityInfo

/-- The record of a survivor, without the dead ends of its bindings. -/
def survivor (alivePids : List Nat) (proc : ProcessPriorityInfo) : ProcessPriorityInfo :=
  handleDiedExtensionBindFromMe alivePids (handleDiedExtensionBindToMe alivePids proc)

/-- A survivor differs from what it was only in its bindings. -/
theorem survivor_eq (alivePids : List Nat) (proc : ProcessPriorityInfo) :
    ∃ toMe fromMe, survivor alivePids proc =
      { proc with procsBindToMe := toMe, procsBindFromMe := fromMe } := by
  have hToMe : ∀ (connectors : List Int) (proc : ProcessPriorityInfo),
      ∃ toMe, connectors.foldl procUnBindToMe proc = { proc with procsBindToMe := toMe } := by
    intro connectors
    induction connectors with
    | nil => exact fun proc => ⟨proc.procsBindToMe, rfl⟩
    | cons connector connectors ih => exact fun proc => ih (proc.procUnBindToMe connector)
  have hFromMe : ∀ (connectors : List Int) (proc : ProcessPriorityInfo),
      ∃ fromMe, connectors.foldl procUnBindFromMe proc = { proc with procsBindFromMe := fromMe } := by
    intro connectors
    induction connectors with
    | nil => exact fun proc => ⟨proc.procsBindFromMe, rfl⟩
    | cons connector connectors ih => exact fun proc => ih (proc.procUnBindFromMe connector)
  obtain ⟨toMe, hTo⟩ := hToMe _ proc
  obtain ⟨fromMe, hFrom⟩ := hFromMe _ { proc with procsBindToMe := toMe }
  refine ⟨toMe, fromMe, ?_⟩
  rw [survivor, handleDiedExtensionBindToMe, hTo]
  exact hFrom

/-- A survivor keeps who it is and its priority. -/
theorem survivor_same (alivePids : List Nat) (proc : ProcessPriorityInfo) :
    SameIdentity proc (survivor alivePids proc) ∧
      (survivor alivePids proc).priority = proc.priority := by
  obtain ⟨toMe, fromMe, hEq⟩ := survivor_eq alivePids proc
  rw [hEq]
  exact ⟨⟨rfl, rfl, rfl, rfl, rfl⟩, rfl⟩

/-- The processes left in a bundle are its survivors. -/
theorem filterDiedProcs_lookup {alivePids : List Nat} {info : BundlePriorityInfo} {pid : Int}
    {proc : ProcessPriorityInfo} :
    (filterDiedProcs alivePids info).procs[pid]? = some proc ↔
      ∃ before, info.procs[pid]? = some before ∧ isAlive alivePids before.pid = true ∧
        survivor alivePids before = proc := by
  simp only [filterDiedProcs, ExtTreeMap.getElem?_filterMap', Option.bind_eq_some_iff,
    Option.ite_none_right_eq_some, Option.some.injEq]
  rfl

/-- A bundle still covers its processes when the dead have been taken out. -/
theorem covered_filterDiedProcs {info : BundlePriorityInfo} (alivePids : List Nat)
    (h : info.Covered) : (filterDiedProcs alivePids info).Covered := by
  refine h.mono rfl rfl rfl fun pid proc hProc => ?_
  obtain ⟨before, hBefore, -, rfl⟩ := filterDiedProcs_lookup.mp hProc
  exact ⟨before, hBefore, survivor_same alivePids before⟩

/-- The bundle has a process that is still alive. -/
def HasSurvivor (alivePids : List Nat) (info : BundlePriorityInfo) : Prop :=
  info.SomeProc fun proc => isAlive alivePids proc.pid = true

instance (alivePids : List Nat) : DecidablePred (HasSurvivor alivePids) :=
  fun info => inferInstanceAs (Decidable (info.SomeProc _))

/-- A bundle is left with processes when one of them survives. -/
theorem filterDiedProcs_left {alivePids : List Nat} {info : BundlePriorityInfo} :
    (filterDiedProcs alivePids info).getProcsCount ≠ 0 ↔ HasSurvivor alivePids info := by
  rw [getProcsCount_ne_zero]
  constructor
  · rintro ⟨pid, proc, hProc⟩
    obtain ⟨before, hBefore, hAlive, -⟩ := filterDiedProcs_lookup.mp hProc
    exact ⟨pid, before, hBefore, hAlive⟩
  · rintro ⟨pid, before, hBefore, hAlive⟩
    exact ⟨pid, _, filterDiedProcs_lookup.mpr ⟨before, hBefore, hAlive, rfl⟩⟩

/-- Purging twice keeps the survivors of the first time. -/
theorem hasSurvivor_filterDiedProcs {alivePids : List Nat} {info : BundlePriorityInfo} :
    HasSurvivor alivePids (filterDiedProcs alivePids info) ↔ HasSurvivor alivePids info := by
  constructor
  · rintro ⟨pid, proc, hProc, hAlive⟩
    obtain ⟨before, hBefore, hWas, -⟩ := filterDiedProcs_lookup.mp hProc
    exact ⟨pid, before, hBefore, hWas⟩
  · rintro ⟨pid, before, hBefore, hAlive⟩
    refine ⟨pid, _, filterDiedProcs_lookup.mpr ⟨before, hBefore, hAlive, rfl⟩, ?_⟩
    simpa only [(survivor_same alivePids before).1.pid] using hAlive

namespace ReclaimPriorityManager

/-- A bundle that was left empty goes from its account and, by position, from the set. -/
def dropDied (platform : Platform) (alivePids : List Nat) (s : ReclaimPriorityManager)
    (bundle : BundleRef) (position : Nat) : ReclaimPriorityManager :=
  let s := (s.modifyBundle bundle (filterDiedProcs alivePids)).modifyAccount
    (s.bundles bundle).accountId fun account => account.removeBundleById (s.bundles bundle).uid
  { s with
    totalBundlePrioSet := platform.rebalancing.balance
      (SearchTree.eraseIdx position s.totalBundlePrioSet) }

/-- A bundle that is dropped is taken out of the set at its position. -/
theorem dropDied_prioList (platform : Platform) (alivePids : List Nat) (s : ReclaimPriorityManager)
    (bundle : BundleRef) (position : Nat) :
    (s.dropDied platform alivePids bundle position).prioList = s.prioList.eraseIdx position := by
  simp only [dropDied, prioList, SearchTree.Rebalancing.inorder_balance, SearchTree.inorder_eraseIdx]
  rfl

end ReclaimPriorityManager

/-- One round of the walk. -/
inductive Purge (platform : Platform) (alivePids : List Nat) :
    ReclaimPriorityManager → ReclaimPriorityManager → Prop where
  | keep {s bundle} (hMem : bundle ∈ s.prioList) (hLeft : HasSurvivor alivePids (s.bundles bundle)) :
      Purge platform alivePids s (s.modifyBundle bundle (filterDiedProcs alivePids))
  | orphan {s bundle} (hMem : bundle ∈ s.prioList)
      (hEmpty : ¬ HasSurvivor alivePids (s.bundles bundle))
      (hNone : s.findOsAccountById (s.bundles bundle).accountId = none) :
      Purge platform alivePids s (s.modifyBundle bundle (filterDiedProcs alivePids))
  | drop {s bundle} (position : Nat) (hAt : s.prioList[position]? = some bundle)
      (hEmpty : ¬ HasSurvivor alivePids (s.bundles bundle)) :
      Purge platform alivePids s (s.dropDied platform alivePids bundle position)

variable {platform : Platform} {alivePids : List Nat} {s s' : ReclaimPriorityManager}

/-- What each kind of round keeps, of the bundles visited so far and the state, holds in the end
of the bundles that are left. -/
theorem filterDiedBundles_rounds (inv : List BundleRef → ReclaimPriorityManager → Prop)
    (hKeep : ∀ {s before rest bundle}, s.prioList = before ++ bundle :: rest →
      HasSurvivor alivePids (s.bundles bundle) → inv before s →
        inv (before ++ [bundle]) (s.modifyBundle bundle (filterDiedProcs alivePids)))
    (hOrphan : ∀ {s before rest bundle}, s.prioList = before ++ bundle :: rest →
      ¬ HasSurvivor alivePids (s.bundles bundle) →
      s.findOsAccountById (s.bundles bundle).accountId = none → inv before s →
        inv (before ++ [bundle]) (s.modifyBundle bundle (filterDiedProcs alivePids)))
    (hDrop : ∀ {s before rest bundle}, s.prioList = before ++ bundle :: rest →
      ¬ HasSurvivor alivePids (s.bundles bundle) → inv before s →
        inv before (s.dropDied platform alivePids bundle before.length))
    {rest before : List BundleRef} (hList : s.prioList = before ++ rest) (h : inv before s) :
    inv (filterDiedBundles platform alivePids rest before.length s).prioList
      (filterDiedBundles platform alivePids rest before.length s) := by
  induction rest generalizing s before with
  | nil =>
      rw [filterDiedBundles, hList, List.append_nil]
      exact h
  | cons bundle rest ih =>
      have hNext : (s.modifyBundle bundle (filterDiedProcs alivePids)).prioList =
          (before ++ [bundle]) ++ rest := by
        simpa using hList
      have hInfo : (s.modifyBundle bundle (filterDiedProcs alivePids)).bundles bundle =
          filterDiedProcs alivePids (s.bundles bundle) := by simp
      have hCount : ((s.modifyBundle bundle (filterDiedProcs alivePids)).bundles
          bundle).getProcsCount = 0 ↔ ¬ HasSurvivor alivePids (s.bundles bundle) := by
        rw [hInfo, ← filterDiedProcs_left, not_not]
      have hOwner : (s.modifyBundle bundle (filterDiedProcs alivePids)).findOsAccountById
            ((s.modifyBundle bundle (filterDiedProcs alivePids)).bundles bundle).accountId =
          s.findOsAccountById (s.bundles bundle).accountId := by
        rw [hInfo]
        rfl
      have hAfter : ∀ (s : ReclaimPriorityManager), s.prioList = (before ++ [bundle]) ++ rest →
          inv (before ++ [bundle]) s →
          inv (filterDiedBundles platform alivePids rest (before.length + 1) s).prioList
            (filterDiedBundles platform alivePids rest (before.length + 1) s) := by
        intro s hList h
        have hRest := ih hList h
        rw [List.length_append, List.length_singleton] at hRest
        exact hRest
      rw [filterDiedBundles]
      simp only [hOwner]
      split_ifs with hEmpty
      · cases hAccount : s.findOsAccountById (s.bundles bundle).accountId with
        | none => exact hAfter _ hNext (hOrphan hList (hCount.mp hEmpty) hAccount h)
        | some account =>
            have hErased : (s.dropDied platform alivePids bundle before.length).prioList =
                before ++ rest := by
              rw [dropDied_prioList, hList, List.eraseIdx_append_of_length_le le_rfl]
              simp
            simp only [hInfo]
            exact ih hErased (hDrop hList (hCount.mp hEmpty) h)
      · exact hAfter _ hNext (hKeep hList (not_not.mp fun h => hEmpty (hCount.mpr h)) h)

/-- A purge goes through the set, one bundle after the other. -/
theorem filterDiedProcess_chain :
    ReflTransGen (Purge platform alivePids) s (s.filterDiedProcess platform (some alivePids)) := by
  have hMem : ∀ {s : ReclaimPriorityManager} {before rest : List BundleRef} {bundle : BundleRef},
      s.prioList = before ++ bundle :: rest → bundle ∈ s.prioList := by
    intro s before rest bundle hList
    simp [hList]
  refine @filterDiedBundles_rounds platform alivePids s
    (fun _ s' => ReflTransGen (Purge platform alivePids) s s') ?_ ?_ ?_ s.prioList [] rfl .refl
  · exact fun hList hLeft h => h.tail (.keep (hMem hList) hLeft)
  · exact fun hList hEmpty hNone h => h.tail (.orphan (hMem hList) hEmpty hNone)
  · exact fun hList hEmpty h => h.tail (.drop _ (by simp [hList]) hEmpty)

/-- What every round keeps, a purge keeps. -/
theorem filterDiedProcess_invariant (inv : ReclaimPriorityManager → Prop) (h : inv s)
    (hRound : ∀ {s s'}, Purge platform alivePids s s' → inv s → inv s') :
    inv (s.filterDiedProcess platform (some alivePids)) := by
  have hChain : ∀ {s'}, ReflTransGen (Purge platform alivePids) s s' → inv s' := by
    intro s' hChain
    induction hChain with
    | refl => exact h
    | tail _ hPurge ih => exact hRound hPurge ih
  exact hChain filterDiedProcess_chain

namespace WellFormed

/-- A bundle that was dropped is no longer tracked. -/
theorem not_tracked_dropDied (h : WellFormed s) {bundle : BundleRef} {position : Nat} :
    ¬ (s.dropDied platform alivePids bundle position).Tracked bundle := by
  have hOwner := (h.covered bundle).owner
  intro hTracked
  have hUnlinked := @not_tracked_unlink s bundle h
  rw [← hOwner] at hUnlinked
  exact hUnlinked hTracked

/-- A bundle that left its account may be emptied. -/
theorem dropDied (h : WellFormed s) {bundle : BundleRef} {position : Nat} :
    WellFormed (s.dropDied platform alivePids bundle position) := by
  have hNot := @not_tracked_dropDied platform alivePids s h bundle position
  have hEmptied : WellFormed ((s.modifyAccount (s.bundles bundle).accountId fun account =>
      account.removeBundleById (s.bundles bundle).uid).modifyBundle bundle
        (filterDiedProcs alivePids)) :=
    (h.unlink _ _).retouch (covered_filterDiedProcs alivePids (h.covered bundle)) rfl fun hTracked =>
      absurd hTracked hNot
  refine hEmptied.untrack hEmptied.accountId (fun _ _ _ hFound => hFound) rfl ?_ rfl
  intro other hOther
  rw [dropDied_prioList] at hOther
  exact List.mem_of_mem_eraseIdx hOther

/-- The purge of one bundle keeps the state well formed. -/
theorem purge (h : WellFormed s) (hPurge : Purge platform alivePids s s') : WellFormed s' := by
  cases hPurge with
  | keep hMem hLeft =>
      exact h.retouch (covered_filterDiedProcs alivePids (h.covered _)) rfl fun _ =>
        filterDiedProcs_left.mpr hLeft
  | orphan hMem hEmpty hNone =>
      -- The account of a tracked bundle is there, so this bundle is not tracked.
      exact h.retouch (covered_filterDiedProcs alivePids (h.covered _)) rfl fun hTracked =>
        absurd hNone (h.findOsAccountById_ne_none hTracked)
  | drop position hAt hEmpty => exact h.dropDied

/-- A purge keeps the state well formed, whatever processes are alive. -/
theorem filterDiedProcess (h : WellFormed s) (alivePids : Option (List Nat)) :
    WellFormed (s.filterDiedProcess platform alivePids) := by
  cases alivePids with
  | none => exact h
  | some alivePids => exact filterDiedProcess_invariant WellFormed h fun hPurge h => h.purge hPurge

end WellFormed
end MemMgr
