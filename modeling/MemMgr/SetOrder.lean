import Mathlib.Data.Prod.Lex
import MemMgr.Runs
import MemMgr.Scenario

/-! The ordered set against the account map. The comparator reads the objects as
they are, so the set is only searched correctly while its stored order is the
order of the present priorities. Every operation that erases before it changes a
priority keeps it so. -/
namespace MemMgr

open Std (ExtTreeMap)
open SearchTree ReclaimPriorityManager BundlePriorityInfo

/-- What the set sorts by. -/
def ReclaimPriorityManager.sortKey (s : ReclaimPriorityManager) (bundle : BundleRef) : Int ×ₗ Int :=
  toLex ((s.bundles bundle).priority, (s.bundles bundle).uid)

/-- The set lists exactly the members, strictly ascending, one for each uid. -/
structure OrderedAs (s : ReclaimPriorityManager) (member : BundleRef → Prop) : Prop where
  ascending : Ascending s.sortKey s.prioList
  exact : ∀ bundle, bundle ∈ s.prioList ↔ member bundle
  distinct : ∀ {bundle other}, member bundle → member other →
    (s.bundles bundle).uid = (s.bundles other).uid → bundle = other

/-- The set agrees with the account map. -/
abbrev SetOrdered (s : ReclaimPriorityManager) : Prop := OrderedAs s s.Tracked

namespace OrderedAs

variable {platform : Platform} {dirty : BundleRef → Prop} {s s' : ReclaimPriorityManager}
variable {member : BundleRef → Prop} {bundle : BundleRef}

theorem comparesByKey (h : OrderedAs s member)
    (hUid : ∀ other, member other → (s.bundles other).uid = (s.bundles bundle).uid → other = bundle) :
    ComparesByKey s.sortKey s.bundleInfoPtrCmp bundle s.prioList := by
  intro other hOther
  have hSame := hUid other ((h.exact other).mp hOther)
  simp only [bundleInfoPtrCmp, sortKey, Prod.Lex.toLex_lt_toLex]
  by_cases hEq : (s.bundles other).uid = (s.bundles bundle).uid
  · rw [hSame hEq]
    simp
  · rw [if_neg (Ne.symm hEq), if_neg hEq]
    constructor <;> split_ifs with hPriority <;> simp only [decide_eq_true_eq] <;> omega

theorem congr (h : OrderedAs s member) (hSet : s'.prioList = s.prioList)
    (hHeap : s'.bundles = s.bundles) {member' : BundleRef → Prop}
    (hMember : ∀ bundle, member' bundle ↔ member bundle) : OrderedAs s' member' := by
  have hKey : s'.sortKey = s.sortKey := by
    funext bundle
    simp [sortKey, hHeap]
  refine ⟨?_, fun bundle => ?_, fun hBundle hOther hUid => ?_⟩
  · rw [hKey, hSet]
    exact h.ascending
  · rw [hSet, h.exact, hMember]
  · rw [hHeap] at hUid
    exact h.distinct ((hMember _).mp hBundle) ((hMember _).mp hOther) hUid

/-- A change that the sorting does not see. -/
theorem retouch (h : OrderedAs s member) {change : BundlePriorityInfo → BundlePriorityInfo}
    (hUid : (change (s.bundles bundle)).uid = (s.bundles bundle).uid)
    (hPriority : (change (s.bundles bundle)).priority = (s.bundles bundle).priority) :
    OrderedAs (s.modifyBundle bundle change) member := by
  have hKept : ∀ other, ((s.modifyBundle bundle change).bundles other).uid = (s.bundles other).uid ∧
      ((s.modifyBundle bundle change).bundles other).priority = (s.bundles other).priority := by
    intro other
    rw [modifyBundle_bundles, Function.update_apply]
    split_ifs with hIs
    · exact ⟨hIs ▸ hUid, hIs ▸ hPriority⟩
    · exact ⟨rfl, rfl⟩
  have hKey : (s.modifyBundle bundle change).sortKey = s.sortKey := by
    funext other
    simp only [sortKey, (hKept other).1, (hKept other).2]
  refine ⟨?_, h.exact, fun hBundle hOther hEq => ?_⟩
  · rw [hKey]
    exact h.ascending
  · rw [(hKept _).1, (hKept _).1] at hEq
    exact h.distinct hBundle hOther hEq

theorem delete_prioList (h : OrderedAs s member) (hMember : member bundle) :
    (s.deleteBundleInfoFromSet platform bundle).prioList =
      s.prioList.filter fun other => s.sortKey other ≠ s.sortKey bundle := by
  rw [prioList, deleteBundleInfoFromSet, Rebalancing.inorder_balance]
  exact inorder_erase_ascending h.ascending
    (h.comparesByKey fun other hOther hUid => h.distinct hOther hMember hUid)

/-- Taking the key of a member out of the list takes out that member alone. -/
theorem erased (h : OrderedAs s member) (hMember : member bundle) (hHeap : s'.bundles = s.bundles)
    (hSet : s'.prioList = s.prioList.filter fun other => s.sortKey other ≠ s.sortKey bundle) :
    OrderedAs s' fun other => member other ∧ other ≠ bundle := by
  have hKey : s'.sortKey = s.sortKey := by
    funext other
    simp [sortKey, hHeap]
  refine ⟨?_, fun other => ?_, fun hBundle hOther hUid => ?_⟩
  · rw [hKey, hSet]
    exact h.ascending.filter _
  · rw [hSet, List.mem_filter, h.exact, decide_eq_true_eq]
    refine and_congr_right fun hOther => not_congr ⟨fun hSame => ?_, fun hIs => hIs ▸ rfl⟩
    exact h.distinct hOther hMember (Prod.ext_iff.mp (toLex_inj.mp hSame)).2
  · rw [hHeap] at hUid
    exact h.distinct hBundle.1 hOther.1 hUid

theorem delete (h : OrderedAs s member) (hMember : member bundle) :
    OrderedAs (s.deleteBundleInfoFromSet platform bundle)
      fun other => member other ∧ other ≠ bundle :=
  h.erased hMember rfl (h.delete_prioList hMember)

theorem add (h : OrderedAs s member) (hNew : ¬ member bundle)
    (hUid : ∀ other, member other → (s.bundles other).uid ≠ (s.bundles bundle).uid) :
    OrderedAs (s.addBundleInfoToSet platform bundle) fun other => other = bundle ∨ member other := by
  have hCmp : ComparesByKey s.sortKey s.bundleInfoPtrCmp bundle s.prioList :=
    h.comparesByKey fun other hOther hEq => absurd hEq (hUid other hOther)
  have hKey : ∀ other ∈ s.prioList, s.sortKey other ≠ s.sortKey bundle := by
    intro other hOther hEq
    exact hUid other ((h.exact other).mp hOther) (Prod.ext_iff.mp (toLex_inj.mp hEq)).2
  have hList : (s.addBundleInfoToSet platform bundle).prioList =
      inorder (insert s.bundleInfoPtrCmp bundle s.totalBundlePrioSet) := by
    rw [prioList, addBundleInfoToSet, Rebalancing.inorder_balance]
  refine ⟨?_, fun other => ?_, ?_⟩
  · rw [hList]
    exact insert_ascending h.ascending hCmp
  · rw [hList]
    constructor
    · intro hOther
      rcases mem_of_mem_insert hOther with hIs | hOld
      · exact Or.inl hIs
      · exact Or.inr ((h.exact other).mp hOld)
    · rintro (rfl | hOld)
      · exact mem_insert_self hCmp hKey
      · exact mem_insert_of_mem ((h.exact other).mpr hOld)
  · rintro x y (rfl | hx) (rfl | hy) hEq
    · rfl
    · exact absurd hEq.symm (hUid y hy)
    · exact absurd hEq (hUid x hx)
    · exact h.distinct hx hy hEq

/-- A change of an object that is not in the set, whatever it does to the priority. -/
theorem modifyOutside (h : OrderedAs s member) (hOut : ¬ member bundle)
    {change : BundlePriorityInfo → BundlePriorityInfo} :
    OrderedAs (s.modifyBundle bundle change) member := by
  have hKept : ∀ other, member other →
      (s.modifyBundle bundle change).bundles other = s.bundles other := by
    intro other hOther
    rw [modifyBundle_bundles, Function.update_of_ne]
    rintro rfl
    exact hOut hOther
  refine ⟨?_, h.exact, fun hBundle hOther hEq => ?_⟩
  · refine List.Pairwise.imp_of_mem ?_ h.ascending
    intro a b ha hb hLess
    simp only [sortKey, hKept a ((h.exact a).mp ha), hKept b ((h.exact b).mp hb)]
    exact hLess
  · rw [hKept _ hBundle, hKept _ hOther] at hEq
    exact h.distinct hBundle hOther hEq

/-- Erasing a bundle, recomputing its priority and inserting it again keeps the set in order. -/
theorem updateBundlePriority (h : OrderedAs s member) (hMember : member bundle) :
    OrderedAs (s.updateBundlePriority platform bundle) member := by
  have hDeleted : OrderedAs (s.deleteBundleInfoFromSet platform bundle)
      fun other => member other ∧ other ≠ bundle := h.delete hMember
  have hChanged : OrderedAs ((s.deleteBundleInfoFromSet platform bundle).modifyBundle bundle
      BundlePriorityInfo.updatePriority) fun other => member other ∧ other ≠ bundle :=
    hDeleted.modifyOutside fun hOut => hOut.2 rfl
  have hAdded : OrderedAs (s.updateBundlePriority platform bundle)
      fun other => other = bundle ∨ (member other ∧ other ≠ bundle) := by
    refine hChanged.add (fun hOut => hOut.2 rfl) fun other hOther hUid => ?_
    have hOld : (s.bundles other).uid = (s.bundles bundle).uid := by
      simpa [Function.update_of_ne hOther.2, BundlePriorityInfo.updatePriority] using hUid
    exact hOther.2 (h.distinct hOther.1 hMember hOld)
  refine hAdded.congr rfl rfl fun other => ⟨fun hOther => ?_, ?_⟩
  · by_cases hIs : other = bundle
    · exact Or.inl hIs
    · exact Or.inr ⟨hOther, hIs⟩
  · rintro (rfl | hOther)
    · exact hMember
    · exact hOther.1

/-- A member whose object is changed and re-sorted. -/
theorem resort (h : OrderedAs s member) (hMember : member bundle)
    {change : BundlePriorityInfo → BundlePriorityInfo}
    (hUid : (change (s.bundles bundle)).uid = (s.bundles bundle).uid)
    (hPriority : (change (s.bundles bundle)).priority = (s.bundles bundle).priority) :
    OrderedAs ((s.modifyBundle bundle change).updateBundlePriority platform bundle) member :=
  (h.retouch hUid hPriority).updateBundlePriority hMember

end OrderedAs

namespace SetOrdered

variable {platform : Platform} {dirty : BundleRef → Prop} {s s' : ReclaimPriorityManager}
variable {bundle : BundleRef} {alivePids : List Nat}

theorem start (platform : Platform) : SetOrdered (.init platform) := by
  have hNone := not_tracked_init platform
  refine ⟨?_, fun bundle => ?_, fun hBundle => absurd hBundle (hNone _)⟩
  · simp [Ascending, prioList, ReclaimPriorityManager.init]
  · simpa [prioList, ReclaimPriorityManager.init] using hNone bundle

theorem of_ordered {member : BundleRef → Prop} (h : OrderedAs s member)
    (hSet : s'.prioList = s.prioList) (hHeap : s'.bundles = s.bundles)
    (hMember : ∀ bundle, s'.Tracked bundle ↔ member bundle) : SetOrdered s' :=
  OrderedAs.congr h hSet hHeap hMember

/-- A change of an object that the sorting does not see. -/
theorem retouch (h : SetOrdered s) {change : BundlePriorityInfo → BundlePriorityInfo}
    (hUid : (change (s.bundles bundle)).uid = (s.bundles bundle).uid)
    (hPriority : (change (s.bundles bundle)).priority = (s.bundles bundle).priority) :
    SetOrdered (s.modifyBundle bundle change) :=
  of_ordered (OrderedAs.retouch h hUid hPriority) rfl rfl fun _ => tracked_congr rfl

/-- A tracked bundle whose object is changed and re-sorted. -/
theorem resort (h : SetOrdered s) (hTracked : s.Tracked bundle)
    {change : BundlePriorityInfo → BundlePriorityInfo}
    (hUid : (change (s.bundles bundle)).uid = (s.bundles bundle).uid)
    (hPriority : (change (s.bundles bundle)).priority = (s.bundles bundle).priority) :
    SetOrdered ((s.modifyBundle bundle change).updateBundlePriority platform bundle) :=
  of_ordered (OrderedAs.resort h hTracked hUid hPriority) rfl rfl fun _ => tracked_congr rfl

/-- The end of a creation tracks the bundle, if it was not tracked before. -/
theorem admitProc {member : BundleRef → Prop} (h : OrderedAs s member) (hMember : member bundle)
    {uid : Int} {proc : ProcessPriorityInfo} (hUid : (s.bundles bundle).uid = uid)
    (hTracked : ∀ other, (s.modifyAccount (getOsAccountIdByUid uid) fun account =>
      account.addBundleToOsAccount uid bundle).Tracked other ↔ member other) :
    SetOrdered (s.admitProc platform bundle (getOsAccountIdByUid uid) proc) := by
  have hResorted : OrderedAs ((s.modifyBundle bundle fun info =>
      info.addProc proc).updateBundlePriority platform bundle) member := h.resort hMember rfl rfl
  have hKept : (((s.modifyBundle bundle fun info => info.addProc proc).updateBundlePriority platform
      bundle).bundles bundle).uid = uid := by
    simpa [BundlePriorityInfo.updatePriority, BundlePriorityInfo.addProc] using hUid
  rw [ReclaimPriorityManager.admitProc]
  simp only [hKept]
  refine of_ordered hResorted rfl rfl fun other => ?_
  exact Iff.trans (tracked_congr rfl) (hTracked other)

theorem enlist (hWf : WellFormed s) (h : SetOrdered s) {uid : Int} {info : BundlePriorityInfo}
    {proc : ProcessPriorityInfo} {account : AccountBundleInfo}
    (hAccount : s.osAccountsInfoMap[getOsAccountIdByUid uid]? = some account)
    (hNone : s.findBundle uid (getOsAccountIdByUid uid) = none) (hUid : info.uid = uid) :
    SetOrdered ((s.newBundle platform info).admitProc platform s.nextRef (getOsAccountIdByUid uid)
      proc) := by
  have hFresh : ¬ s.Tracked s.nextRef := fun hTracked => (hWf.allocated hTracked).ne rfl
  have hOutside : OrderedAs (s.modifyBundle s.nextRef fun _ => info) s.Tracked :=
    OrderedAs.modifyOutside h hFresh
  have hMade : OrderedAs { s.modifyBundle s.nextRef (fun _ => info) with nextRef := s.nextRef + 1 }
      s.Tracked := ⟨hOutside.ascending, hOutside.exact, hOutside.distinct⟩
  have hAdded : OrderedAs (s.newBundle platform info) fun other => other = s.nextRef ∨ s.Tracked other := by
    refine hMade.add hFresh fun other hOther hEq => ?_
    have hOtherUid : (s.bundles other).uid = uid := by
      have hNe : other ≠ s.nextRef := (hWf.allocated hOther).ne
      simpa [Function.update_of_ne hNe, hUid] using hEq
    obtain ⟨accountId, uid', hFind⟩ := hOther
    obtain ⟨rfl, rfl⟩ := hWf.stored hFind
    rw [hOtherUid, hNone] at hFind
    cases hFind
  refine admitProc hAdded (Or.inl rfl) ?_ fun other => ?_
  · simpa [ReclaimPriorityManager.newBundle] using hUid
  · have hFind : ∀ bundleUid accountId, ((s.newBundle platform info).modifyAccount
        (getOsAccountIdByUid uid) fun account => account.addBundleToOsAccount uid s.nextRef).findBundle
          bundleUid accountId =
        if getOsAccountIdByUid uid = accountId ∧ uid = bundleUid then some s.nextRef
        else s.findBundle bundleUid accountId := by
      intro bundleUid accountId
      have hAccount' : (s.newBundle platform info).osAccountsInfoMap[getOsAccountIdByUid uid]? =
        some account := hAccount
      have hSame : (s.newBundle platform info).findBundle = s.findBundle := findBundle_congr rfl
      rw [findBundle_addBundle hAccount', hSame, hNone]
      simp
    constructor
    · rintro ⟨accountId, bundleUid, hFound⟩
      rw [hFind] at hFound
      split_ifs at hFound
      · exact Or.inl (Option.some.inj hFound).symm
      · exact Or.inr ⟨accountId, bundleUid, hFound⟩
    · rintro (rfl | ⟨accountId, bundleUid, hFound⟩)
      · exact ⟨_, _, (hFind _ _).trans (if_pos ⟨rfl, rfl⟩)⟩
      · refine ⟨accountId, bundleUid, (hFind _ _).trans ?_⟩
        rw [if_neg]
        · exact hFound
        · rintro ⟨rfl, rfl⟩
          rw [hNone] at hFound
          cases hFound

theorem retire (hWf : WellFormed s) (h : SetOrdered s) {uid removed : Int}
    (hFind : s.findBundle uid (getOsAccountIdByUid uid) = some bundle) :
    SetOrdered (((s.modifyBundle bundle fun info => info.removeProcByPid removed).modifyAccount
      (getOsAccountIdByUid uid) fun account =>
        account.removeBundleById (s.bundles bundle).uid).deleteBundleInfoFromSet platform bundle) := by
  have hTracked : s.Tracked bundle := ⟨_, _, hFind⟩
  obtain ⟨rfl, -⟩ := hWf.stored hFind
  have hDeleted : OrderedAs ((s.modifyBundle bundle fun info =>
      info.removeProcByPid removed).deleteBundleInfoFromSet platform bundle)
        fun other => s.Tracked other ∧ other ≠ bundle :=
    (OrderedAs.retouch h rfl rfl).delete hTracked
  exact of_ordered hDeleted rfl rfl fun other =>
    Iff.trans (tracked_congr rfl) (hWf.tracked_unlink hTracked other)

/-- Erasing through the iterator removes the bundle it stands on. -/
theorem dropDied (hWf : WellFormed s) (h : SetOrdered s) {position : Nat}
    (hAt : s.prioList[position]? = some bundle) :
    SetOrdered (s.dropDied platform alivePids bundle position) := by
  have hTracked : s.Tracked bundle := (h.exact bundle).mp (List.mem_of_getElem? hAt)
  have hOwner := (hWf.covered bundle).owner
  have hTouched : OrderedAs (s.modifyBundle bundle (filterDiedProcs alivePids)) s.Tracked :=
    OrderedAs.retouch h rfl rfl
  have hErased : OrderedAs (s.dropDied platform alivePids bundle position)
      fun other => s.Tracked other ∧ other ≠ bundle := by
    refine hTouched.erased hTracked rfl ?_
    rw [dropDied_prioList]
    exact eraseIdx_eq_filter hTouched.ascending hAt
  refine of_ordered hErased rfl rfl fun other => ?_
  refine Iff.trans (tracked_congr ?_) (hWf.tracked_unlink hTracked other)
  rw [← hOwner]
  rfl

theorem effect (hWf : WellFormed s) (h : SetOrdered s) (hEffect : Effect platform dirty s s') :
    SetOrdered s' := by
  cases hEffect with
  | notes handler apps => exact of_ordered h rfl rfl fun _ => tracked_congr rfl
  | edit hTracks hSame hPriority => exact h.retouch rfl rfl
  | reprice hDirty hTracks hRepriced => exact h.resort hTracks.1 rfl rfl
  | link hTracks hRepriced =>
      exact of_ordered (h.resort hTracks.1 rfl rfl) rfl rfl fun _ => tracked_congr rfl
  | suspend hDirty hTracked => exact h.resort hTracked rfl rfl
  | openAccount hNone =>
      exact of_ordered h rfl rfl fun _ => tracked_openAccount hNone
  | join hDirty hFind hCreated =>
      obtain ⟨account, hAccount, -⟩ := findBundle_eq_some.mp hFind
      refine admitProc h ⟨_, _, hFind⟩ (hWf.stored hFind).1 fun other => ?_
      simp only [Tracked, findBundle_addBundle hAccount, hFind]
      simp
  | enlist hDirty hAccount hNone hCreated =>
      obtain ⟨account, hAccount⟩ := Option.ne_none_iff_exists'.mp hAccount
      exact enlist hWf h hAccount hNone rfl
  | discharge hClean hTracks hLeft hAbove => exact h.retouch rfl rfl
  | dischargeLeast hClean hTracks hLeft => exact h.resort hTracks.1 rfl rfl
  | retire hClean hFind hProc hLast => exact retire hWf h hFind
  | closeAccount hAccount hEmpty =>
      obtain rfl := hWf.accountId hAccount
      exact of_ordered h rfl rfl fun _ => tracked_closeAccount hAccount hEmpty
  | setState hTracked state => exact h.retouch rfl rfl
  | reset hClean =>
      refine ⟨by simp [Ascending, prioList, ReclaimPriorityManager.reset], fun bundle => ?_, ?_⟩ <;>
        simp [Tracked, findBundle_eq_some, prioList, ReclaimPriorityManager.reset]

theorem settled {rendered : Option Int} (hWf : WellFormed s) (h : SetOrdered s)
    (hSettled : Settled platform rendered s s') : SetOrdered s' :=
  hSettled.invariant SetOrdered hWf h (fun hWf h hEffect => effect hWf h hEffect)
    fun hMap hSet hHeap h => of_ordered h hSet hHeap fun _ => tracked_congr hMap

theorem purge (hWf : WellFormed s) (h : SetOrdered s) (hPurge : Purge platform alivePids s s') :
    SetOrdered s' := by
  cases hPurge with
  | keep hMem hLeft => exact h.retouch rfl rfl
  | orphan hMem hEmpty hNone => exact h.retouch rfl rfl
  | drop position hAt hEmpty => exact dropDied hWf h hAt

theorem filterDiedProcess (hWf : WellFormed s) (h : SetOrdered s) (alivePids : Option (List Nat)) :
    SetOrdered (s.filterDiedProcess platform alivePids) := by
  cases alivePids with
  | none => exact h
  | some alivePids =>
      have hBoth := @filterDiedProcess_invariant platform alivePids s
        (fun s' => WellFormed s' ∧ SetOrdered s') ⟨hWf, h⟩
        fun hPurge h => ⟨h.1.purge hPurge, purge h.1 h.2 hPurge⟩
      exact hBoth.2

end SetOrdered
/-- The set, the accounts and the bundles agree. -/
structure SetAgrees (s : ReclaimPriorityManager) : Prop where
  ascending : s.prioList.Pairwise fun bundle other =>
    (s.bundles bundle).priority < (s.bundles other).priority ∨
      (s.bundles bundle).priority = (s.bundles other).priority ∧
        (s.bundles bundle).uid < (s.bundles other).uid
  distinct : s.prioList.Pairwise fun bundle other => (s.bundles bundle).uid ≠ (s.bundles other).uid
  /-- Every reference points to an object that was made. -/
  allocated : ∀ bundle ∈ s.prioList, bundle < s.nextRef
  exact : ∀ bundle, bundle ∈ s.prioList ↔
    ∃ accountId uid, s.findBundle uid accountId = some bundle
  stored : ∀ uid accountId bundle, s.findBundle uid accountId = some bundle →
    (s.bundles bundle).uid = uid ∧ accountId = uid.tdiv 200000
  nonempty : ∀ uid accountId bundle, s.findBundle uid accountId = some bundle →
    ∃ (pid : Int) (proc : _), (s.bundles bundle).procs[pid]? = some proc

theorem setAgrees_of_ordered {s : ReclaimPriorityManager} (hWf : WellFormed s) (h : SetOrdered s) :
    SetAgrees s where
  ascending := h.ascending.imp fun hLess => (Prod.Lex.toLex_lt_toLex).mp hLess
  distinct := by
    refine List.Pairwise.imp_of_mem (fun ha hb hLess hUid => ?_) h.ascending
    rw [h.distinct ((h.exact _).mp ha) ((h.exact _).mp hb) hUid] at hLess
    exact lt_irrefl _ hLess
  allocated := fun _ hMem => hWf.inSet hMem
  exact := h.exact
  stored := fun _ _ _ hFind => hWf.stored hFind
  nonempty := fun _ _ _ hFind => getProcsCount_ne_zero.mp (hWf.nonempty ⟨_, _, hFind⟩)

theorem StepEffect.setOrdered {platform : Platform} {sys : Service} {op : Op}
    {s' : ReclaimPriorityManager} (hWf : WellFormed sys.manager) (h : SetOrdered sys.manager)
    (hOp : Service.noAccountSwitch sys op) (hEffect : StepEffect platform sys op s') :
    SetOrdered s' := by
  cases hEffect with
  | settled hSettled => exact h.settled hWf hSettled
  | purged alivePids => exact h.filterDiedProcess hWf _
  | switched used updatedAccountIds hSwitch => exact hOp.elim

namespace Service

variable {platform : Platform} {sys start : Service}

/-- From an agreeing state, operations other than the account switch reach agreeing states. -/
theorem setOrdered_of_run
    (run : Execution.Run (Step platform) noAccountSwitch start sys)
    (hWf : WellFormed start.manager) (h : SetOrdered start.manager) :
    WellFormed sys.manager ∧ SetOrdered sys.manager := by
  refine run.invariant (fun sys => WellFormed sys.manager ∧ SetOrdered sys.manager) ⟨hWf, h⟩ ?_
  intro sys op sys' hBoth hOp hStep
  exact ⟨(hStep.effect hBoth.1).wellFormed hBoth.1,
    (hStep.effect hBoth.1).setOrdered hBoth.1 hBoth.2 hOp⟩

/-- Without account switches the set agrees with the accounts in every state reached. -/
theorem Run.setAgrees (run : Run platform noAccountSwitch sys) : SetAgrees sys.manager := by
  have hBoth := setOrdered_of_run run (.start platform) (.start platform)
  exact setAgrees_of_ordered hBoth.1 hBoth.2

open Scenario in
/-- Two bundles of one account, the second one in the background. -/
theorem setAgrees_two_bundles : SetAgrees ((reached [event .createProcess 1 20000001,
    event .createProcess 2 20000002, event .background 2 20000002]).get (by decide)).manager :=
  Run.setAgrees (run_reached (by simp [noAccountSwitch, event]) (by decide))

end Service
end MemMgr
