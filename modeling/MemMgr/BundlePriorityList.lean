import MemMgr.LowMemoryKiller
import MemMgr.SetOrder

/-! The list of bundles a client asks for. It travels to the service and back in parcels,
and the service adds its bundles to what it was sent. -/
namespace MemMgr

open SearchTree ReclaimPriorityManager

structure BundlePriority where
  uid : Int
  name : String
  priority : Int
  accountId : Int
  deriving DecidableEq

structure BundlePriorityList where
  count : Int
  list : List BundlePriority
  deriving DecidableEq

/-- A parcel holds what was written, in order. -/
inductive ParcelValue where
  | int32 (value : Int)
  | string (value : String)
  deriving DecidableEq

abbrev Parcel := List ParcelValue

/-- A read that does not find an integer gives 0. -/
def Parcel.readInt32 : Parcel → Int × Parcel
  | .int32 value :: parcel => (value, parcel)
  | parcel => (0, parcel)

def Parcel.readString : Parcel → Option (String × Parcel)
  | .string value :: parcel => some (value, parcel)
  | _ => none

namespace BundlePriorityList

def maxParcelSize : Int := 1000

def empty : BundlePriorityList := ⟨0, []⟩

/-- The first entries are written. Reading past the end of the list is undefined. -/
def writeEntries : Nat → List BundlePriority → Option Parcel
  | 0, _ => some []
  | _ + 1, [] => none
  | count + 1, bundle :: list =>
      (writeEntries count list).map fun parcel =>
        .int32 bundle.uid :: .string bundle.name :: .int32 bundle.priority ::
          .int32 bundle.accountId :: parcel

def marshalling (bundles : BundlePriorityList) : Option Parcel :=
  (writeEntries bundles.count.toNat bundles.list).map fun parcel => .int32 bundles.count :: parcel

def readEntries : Nat → Parcel → Option (List BundlePriority)
  | 0, _ => some []
  | count + 1, parcel =>
      let (uid, parcel) := parcel.readInt32
      match parcel.readString with
      | none => none
      | some (name, parcel) =>
          let (priority, parcel) := parcel.readInt32
          let (accountId, parcel) := parcel.readInt32
          (readEntries count parcel).map fun list => ⟨uid, name, priority, accountId⟩ :: list

def unmarshalling (parcel : Parcel) : Option BundlePriorityList :=
  let (count, parcel) := parcel.readInt32
  if count < 0 ∨ count > maxParcelSize then none
  else (readEntries count.toNat parcel).map fun list => ⟨count, list⟩

/-- The count says how many entries there are. -/
def Counted (bundles : BundlePriorityList) : Prop := bundles.count = bundles.list.length

theorem counted_empty : empty.Counted := rfl

/-- Entries that were written are read back, as many as were counted. -/
theorem readEntries_writeEntries (list : List BundlePriority) :
    ∃ parcel, writeEntries list.length list = some parcel ∧ readEntries list.length parcel = some list := by
  induction list with
  | nil => exact ⟨[], rfl, rfl⟩
  | cons bundle list ih =>
      obtain ⟨parcel, hWrite, hRead⟩ := ih
      simp [writeEntries, hWrite, readEntries, Parcel.readInt32, Parcel.readString, hRead]

/-- A list comes back as it was written, unless it is too long. -/
theorem unmarshalling_marshalling {bundles : BundlePriorityList} (h : bundles.Counted) :
    ∃ parcel, bundles.marshalling = some parcel ∧
      unmarshalling parcel = if bundles.list.length ≤ 1000 then some bundles else none := by
  obtain ⟨parcel, hWrite, hRead⟩ := readEntries_writeEntries bundles.list
  have hCount : bundles.count.toNat = bundles.list.length := by
    rw [h]
    exact Int.toNat_natCast _
  refine ⟨.int32 bundles.count :: parcel, by simp [marshalling, hCount, hWrite], ?_⟩
  rw [unmarshalling, Parcel.readInt32]
  dsimp only
  have hLimit : (bundles.count < 0 ∨ bundles.count > maxParcelSize) ↔ ¬ bundles.list.length ≤ 1000 := by
    rw [h, maxParcelSize]
    omega
  rw [hCount, hRead]
  by_cases hFits : bundles.list.length ≤ 1000
  · rw [if_neg (hLimit.not.mpr (not_not.mpr hFits)), if_pos hFits]
    rfl
  · rw [if_pos (hLimit.mpr hFits), if_neg hFits]

/-- What is written is read back whole up to the limit of the reader, and refused beyond it. -/
theorem unmarshalling_eq_some_iff {bundles : BundlePriorityList} {parcel : Parcel}
    (hCounted : bundles.Counted) (hWritten : bundles.marshalling = some parcel) :
    (unmarshalling parcel = some bundles ↔ bundles.count ≤ maxParcelSize) ∧
      (unmarshalling parcel = none ↔ maxParcelSize < bundles.count) := by
  obtain ⟨written, hMarshalled, hRead⟩ := unmarshalling_marshalling hCounted
  obtain rfl := Option.some.inj (hWritten.symm.trans hMarshalled)
  have hFits : bundles.list.length ≤ 1000 ↔ bundles.count ≤ maxParcelSize := by
    rw [hCounted, maxParcelSize]
    omega
  rw [hRead, ← not_le, ← hFits]
  split_ifs with hShort <;> simp [hShort]

/-- Two bundles, the one in the background first. -/
def twoEntries : BundlePriorityList :=
  ⟨2, [⟨20000001, "a", 400, 100⟩, ⟨20000002, "b", 0, 100⟩]⟩

/-- A list of two bundles is read back in its order. -/
theorem unmarshalling_eq_some_twoEntries :
    let parcel : Parcel := [.int32 2, .int32 20000001, .string "a", .int32 400, .int32 100,
      .int32 20000002, .string "b", .int32 0, .int32 100]
    (unmarshalling parcel = some twoEntries ↔ twoEntries.count ≤ maxParcelSize) ∧
      (unmarshalling parcel = none ↔ maxParcelSize < twoEntries.count) :=
  unmarshalling_eq_some_iff rfl rfl

/-- One entry more than the reader lets in. -/
def oneTooMany : BundlePriorityList := ⟨1001, List.replicate 1001 ⟨20000001, "a", 400, 100⟩⟩

/-- A list of 1001 bundles is written, and refused by the reader. -/
theorem unmarshalling_oneTooMany : ∃ parcel, oneTooMany.Counted ∧
    oneTooMany.marshalling = some parcel ∧ unmarshalling parcel ≠ some oneTooMany := by
  have hLength : oneTooMany.list.length = 1001 := List.length_replicate
  have hCounted : oneTooMany.Counted := by
    rw [Counted, hLength]
    rfl
  obtain ⟨parcel, hWritten, hRead⟩ := unmarshalling_marshalling hCounted
  refine ⟨parcel, hCounted, hWritten, ?_⟩
  rw [hRead, hLength, if_neg (by decide)]
  exact (Option.some_ne_none oneTooMany).symm

end BundlePriorityList

/-- `BundleInfoCmp`, which compares copies. -/
def bundleInfoCmp (p1 p2 : BundlePriorityInfo) : Bool :=
  if p1.uid = p2.uid then false
  else if p1.priority ≠ p2.priority then p1.priority > p2.priority
  else p1.uid < p2.uid

/-- A copy through the constructor, which stamps it with the present time. -/
def BundlePriorityInfo.tmpBundleInfo (now : Int) (bundle : BundlePriorityInfo) : BundlePriorityInfo :=
  { bundle.copy with createTime := now }

/-- The entry of a bundle. -/
def BundlePriorityInfo.toBundlePriority (bundle : BundlePriorityInfo) : BundlePriority :=
  ⟨bundle.uid, bundle.name, bundle.priority, bundle.accountId⟩

namespace ReclaimPriorityManager

variable (rebalancing : Rebalancing BundlePriorityInfo) (now : Int) (s : ReclaimPriorityManager)

/-- The set of the copies, inserted one after the other. -/
def copySet (copies : List BundlePriorityInfo) : BinaryTree BundlePriorityInfo :=
  copies.foldl (fun bundleSet tmpBundleInfo =>
    rebalancing.balance (insert bundleInfoCmp tmpBundleInfo bundleSet)) .nil

/-- The bundles are copied from the greatest element of the set on. -/
def getBundlePrioSet : BinaryTree BundlePriorityInfo :=
  copySet rebalancing (s.prioList.reverse.map fun bundle => (s.bundles bundle).tmpBundleInfo now)

end ReclaimPriorityManager

section GetBundlePriorityList

variable (rebalancing : Rebalancing BundlePriorityInfo) (now : Int) (s : ReclaimPriorityManager)

/-- `MemMgrService::GetBundlePriorityList`, which always answers 0. -/
def MemMgrService.getBundlePriorityList (bundlePrioList : BundlePriorityList) : BundlePriorityList :=
  let list := bundlePrioList.list ++
    (inorder (s.getBundlePrioSet rebalancing now)).map BundlePriorityInfo.toBundlePriority
  ⟨list.length, list⟩

/-- The code a request is answered with, and the reply. -/
def MemMgrStub.handleGetBunldePriorityList (data : Parcel) : Int × Parcel :=
  match BundlePriorityList.unmarshalling data with
  | none => (-1, [])
  | some list =>
      (0, (MemMgrService.getBundlePriorityList rebalancing now s list).marshalling.getD [])

/-- The code the client gets, and what its object holds then. -/
def MemMgrProxy.getBundlePriorityList (sendRequest : Parcel → Int × Parcel)
    (bundlePrioList : BundlePriorityList) : Option (Int × BundlePriorityList) :=
  bundlePrioList.marshalling.map fun data =>
    let (error, reply) := sendRequest data
    if error ≠ 0 then (error, bundlePrioList)
    else
      match BundlePriorityList.unmarshalling reply with
      | none => (-1, bundlePrioList)
      | some list => (0, list)

/-- `MemMgrClient::GetBundlePriorityList`, with the service found. -/
def MemMgrClient.getBundlePriorityList (bundlePrioList : BundlePriorityList) :
    Option (Int × BundlePriorityList) :=
  MemMgrProxy.getBundlePriorityList (MemMgrStub.handleGetBunldePriorityList rebalancing now s)
    bundlePrioList

end GetBundlePriorityList

/-- One entry for each tracked bundle, in descending priority, and by uid within a priority. -/
structure ListsBundles (s : ReclaimPriorityManager) (list : List BundlePriority) : Prop where
  ordered : list.Pairwise fun first second => second.priority < first.priority ∨
    first.priority = second.priority ∧ first.uid < second.uid
  exact : ∀ entry, entry ∈ list ↔
    ∃ bundle, s.Tracked bundle ∧ (s.bundles bundle).toBundlePriority = entry

variable {rebalancing : Rebalancing BundlePriorityInfo} {now : Int} {s : ReclaimPriorityManager}

/-- What the copies are sorted by. -/
def copyKey (bundle : BundlePriorityInfo) : Int ×ₗ Int := toLex (-bundle.priority, bundle.uid)

/-- The comparison of copies goes by priority from the greatest on, and by uid within a priority. -/
theorem bundleInfoCmp_iff {p1 p2 : BundlePriorityInfo} (h : p1.uid ≠ p2.uid) :
    bundleInfoCmp p1 p2 = true ↔ copyKey p1 < copyKey p2 := by
  rw [bundleInfoCmp, if_neg h, copyKey, copyKey, Prod.Lex.toLex_lt_toLex]
  split_ifs <;> simp <;> omega

/-- The set of copies with distinct uids has all of them, in the order of its comparison. -/
theorem copySet_spec {copies : List BundlePriorityInfo}
    (hDistinct : copies.Pairwise fun first second => first.uid ≠ second.uid) :
    Ascending copyKey (inorder (copySet rebalancing copies)) ∧
      (inorder (copySet rebalancing copies)).Perm copies := by
  induction copies using List.reverseRecOn with
  | nil => exact ⟨List.Pairwise.nil, List.Perm.refl _⟩
  | append_singleton copies copied ih =>
      rw [List.pairwise_append] at hDistinct
      obtain ⟨hAsc, hPerm⟩ := ih hDistinct.1
      have hUid : ∀ other ∈ inorder (copySet rebalancing copies), other.uid ≠ copied.uid :=
        fun other hOther => hDistinct.2.2 other (hPerm.mem_iff.mp hOther) copied (by simp)
      have hCmp : ComparesByKey copyKey bundleInfoCmp copied (inorder (copySet rebalancing copies)) :=
        fun other hOther => ⟨bundleInfoCmp_iff (Ne.symm (hUid other hOther)),
          bundleInfoCmp_iff (hUid other hOther)⟩
      have hNew : ∀ other ∈ inorder (copySet rebalancing copies), copyKey other ≠ copyKey copied :=
        fun other hOther hKey => hUid other hOther (Prod.ext_iff.mp (toLex_inj.mp hKey)).2
      have hSet : inorder (copySet rebalancing (copies ++ [copied])) =
          inorder (insert bundleInfoCmp copied (copySet rebalancing copies)) := by
        rw [copySet, List.foldl_append, List.foldl_cons, List.foldl_nil, Rebalancing.inorder_balance]
        rfl
      rw [hSet]
      constructor
      · exact insert_ascending hAsc hCmp
      · have hLast : (copied :: copies).Perm (copies ++ [copied]) := (List.perm_append_singleton _ _).symm
        exact ((insert_perm hCmp hNew).trans (hPerm.cons copied)).trans hLast

/-- What the service adds to the list. -/
def addedEntries (rebalancing : Rebalancing BundlePriorityInfo) (now : Int) (s : ReclaimPriorityManager) :
    List BundlePriority :=
  (inorder (s.getBundlePrioSet rebalancing now)).map BundlePriorityInfo.toBundlePriority

/-- What the service adds has one entry for each tracked bundle, in order. -/
theorem addedEntries_spec (h : SetAgrees s) : ListsBundles s (addedEntries rebalancing now s) ∧
    (addedEntries rebalancing now s).length = s.prioList.length := by
  have hDistinct : (s.prioList.reverse.map fun bundle => (s.bundles bundle).tmpBundleInfo now).Pairwise
      fun first second => first.uid ≠ second.uid := by
    rw [List.pairwise_map, List.pairwise_reverse]
    exact h.distinct.imp fun hNe => Ne.symm hNe
  obtain ⟨hAsc, hPerm⟩ := @copySet_spec rebalancing _ hDistinct
  refine ⟨⟨?_, fun entry => ?_⟩, ?_⟩
  · rw [addedEntries, List.pairwise_map]
    refine hAsc.imp fun {first second} hLess => ?_
    rw [copyKey, copyKey, Prod.Lex.toLex_lt_toLex] at hLess
    simp only [BundlePriorityInfo.toBundlePriority]
    omega
  · rw [addedEntries, List.mem_map]
    constructor
    · rintro ⟨copied, hCopied, rfl⟩
      obtain ⟨bundle, hBundle, rfl⟩ := List.mem_map.mp (hPerm.mem_iff.mp hCopied)
      exact ⟨bundle, (h.exact bundle).mp (List.mem_reverse.mp hBundle), rfl⟩
    · rintro ⟨bundle, hTracked, rfl⟩
      refine ⟨(s.bundles bundle).tmpBundleInfo now, hPerm.mem_iff.mpr ?_, rfl⟩
      exact List.mem_map_of_mem (List.mem_reverse.mpr ((h.exact bundle).mpr hTracked))
  · rw [addedEntries, List.length_map, getBundlePrioSet, hPerm.length_eq, List.length_map,
      List.length_reverse]

namespace MemMgrClient

variable {passed : BundlePriorityList}

/-- The answer is what was passed in with all bundles after it, unless that is too long. -/
theorem getBundlePriorityList_eq (hCounted : passed.Counted) :
    getBundlePriorityList rebalancing now s passed =
      let list := passed.list ++ addedEntries rebalancing now s
      some (if list.length ≤ 1000 then (0, ⟨list.length, list⟩) else (-1, passed)) := by
  obtain ⟨data, hData, hSent⟩ := BundlePriorityList.unmarshalling_marshalling hCounted
  have hAnswer : (MemMgrService.getBundlePriorityList rebalancing now s passed).Counted := rfl
  obtain ⟨reply, hReply, hReceived⟩ := BundlePriorityList.unmarshalling_marshalling hAnswer
  rw [getBundlePriorityList, MemMgrProxy.getBundlePriorityList, hData, Option.map_some,
    MemMgrStub.handleGetBunldePriorityList, hSent]
  congr 1
  by_cases hPassed : passed.list.length ≤ 1000
  · rw [if_pos hPassed]
    dsimp only
    rw [hReply, Option.getD_some, hReceived]
    change (match if (passed.list ++ addedEntries rebalancing now s).length ≤ 1000 then
      some (MemMgrService.getBundlePriorityList rebalancing now s passed) else none with
      | none => ((-1 : Int), passed)
      | some list => (0, list)) = _
    split_ifs <;> rfl
  · have hLong : ¬ (passed.list ++ addedEntries rebalancing now s).length ≤ 1000 := by
      rw [List.length_append]
      omega
    rw [if_neg hPassed]
    simp only [hLong, ↓reduceIte]
    rfl

/-- The call succeeds and leaves one entry for each bundle, in order. -/
def Lists (s : ReclaimPriorityManager) (result : Option (Int × BundlePriorityList)) : Prop :=
  ∃ bundles, result = some (0, bundles) ∧ bundles.Counted ∧ ListsBundles s bundles.list

/-- A further call, with the object the last one left, succeeds and leaves it as it is. -/
def Repeats (rebalancing : Rebalancing BundlePriorityInfo) (now : Int) (s : ReclaimPriorityManager)
    (result : Option (Int × BundlePriorityList)) : Prop :=
  ∃ code bundles, result = some (code, bundles) ∧
    getBundlePriorityList rebalancing now s bundles = some (0, bundles)

/-- The client is left with the exact list if its object was empty and a parcel has room for all. -/
theorem lists_iff (h : SetAgrees s) (hCounted : passed.Counted) :
    Lists s (getBundlePriorityList rebalancing now s passed) ↔
      passed.list = [] ∧ s.prioList.length ≤ 1000 := by
  obtain ⟨hAdded, hLength⟩ := @addedEntries_spec rebalancing now s h
  rw [Lists, getBundlePriorityList_eq hCounted]
  dsimp only
  constructor
  · rintro ⟨bundles, hResult, -, hLists⟩
    split_ifs at hResult with hFits
    · obtain rfl := (Prod.mk.inj (Option.some.inj hResult)).2
      rw [List.length_append, hLength] at hFits
      refine ⟨List.eq_nil_iff_forall_not_mem.mpr fun entry hEntry => ?_, by omega⟩
      -- An entry that was passed in is either of no bundle, or listed again.
      have hListed := (hLists.exact entry).mp (List.mem_append_left _ hEntry)
      have hAgain := (hAdded.exact entry).mpr hListed
      have hOrdered := (List.pairwise_append.mp hLists.ordered).2.2 entry hEntry entry hAgain
      omega
    · cases hResult
  · rintro ⟨hNil, hFew⟩
    rw [hNil, List.nil_append, hLength, if_pos hFew]
    refine ⟨_, rfl, ?_, hAdded⟩
    rw [BundlePriorityList.Counted, hLength]

/-- A second call changes nothing just when there is no bundle to add again. -/
theorem repeats_iff {rebalancing' : Rebalancing BundlePriorityInfo} {now' : Int} (h : SetAgrees s)
    (hCounted : passed.Counted) (hFits : passed.list.length + s.prioList.length ≤ 1000) :
    Repeats rebalancing' now' s (getBundlePriorityList rebalancing now s passed) ↔ s.prioList = [] := by
  obtain ⟨-, hLength⟩ := @addedEntries_spec rebalancing now s h
  obtain ⟨-, hLength'⟩ := @addedEntries_spec rebalancing' now' s h
  rw [Repeats, getBundlePriorityList_eq hCounted]
  dsimp only
  rw [List.length_append, hLength, if_pos hFits]
  constructor
  · rintro ⟨code, bundles, hFirst, hSecond⟩
    obtain rfl := (Prod.mk.inj (Option.some.inj hFirst)).2
    rw [getBundlePriorityList_eq (by simp [BundlePriorityList.Counted, hLength])] at hSecond
    dsimp only at hSecond
    split_ifs at hSecond with hRoom
    · have hSame := (BundlePriorityList.mk.inj (Prod.mk.inj (Option.some.inj hSecond)).2).2
      rw [List.append_right_eq_self.mp hSame, List.length_nil] at hLength'
      exact List.length_eq_zero_iff.mp hLength'.symm
    · cases (Prod.mk.inj (Option.some.inj hSecond)).1
  · intro hNone
    have hAdded : addedEntries rebalancing now s = [] := by
      rw [← List.length_eq_zero_iff, hLength, hNone, List.length_nil]
    have hAdded' : addedEntries rebalancing' now' s = [] := by
      rw [← List.length_eq_zero_iff, hLength', hNone, List.length_nil]
    refine ⟨0, _, rfl, ?_⟩
    rw [getBundlePriorityList_eq (by simp [BundlePriorityList.Counted, hLength])]
    rw [hNone, List.length_nil, Nat.add_zero] at hFits
    simp [hAdded, hAdded', hNone, hFits]

/-- One call is exact just when the object is empty and a parcel has room for all bundles. It stays
exact when it is called again just when there are no bundles. -/
theorem getBundlePriorityList_exact_iff (h : SetAgrees s) (hCounted : passed.Counted)
    (rebalancing' : Rebalancing BundlePriorityInfo) (now' : Int) :
    (Lists s (getBundlePriorityList rebalancing now s passed) ↔
        passed.list = [] ∧ s.prioList.length ≤ 1000) ∧
      (Lists s (getBundlePriorityList rebalancing now s passed) ∧
          Repeats rebalancing' now' s (getBundlePriorityList rebalancing now s passed) ↔
        passed.list = [] ∧ s.prioList = []) := by
  refine ⟨lists_iff h hCounted, ?_⟩
  rw [lists_iff h hCounted]
  constructor
  · rintro ⟨⟨hNil, hFew⟩, hRepeats⟩
    exact ⟨hNil, (repeats_iff h hCounted (by simpa [hNil] using hFew)).mp hRepeats⟩
  · rintro ⟨hNil, hNone⟩
    exact ⟨⟨hNil, by simp [hNone]⟩, (repeats_iff h hCounted (by simp [hNil, hNone])).mpr hNone⟩

/-- One process, so one bundle. -/
def oneBundle : Service :=
  (Scenario.reached [Scenario.event .createProcess 2 20000002]).get (by decide)

/-- The set and the accounts agree on the one bundle. -/
theorem setAgrees_oneBundle : SetAgrees oneBundle.manager := by
  have hRun : Service.Run Scenario.platform Service.noAccountSwitch oneBundle :=
    Scenario.run_reached (by simp [Service.noAccountSwitch, Scenario.event]) (by decide)
  have hBoth := Service.setOrdered_of_run hRun (.start _) (.start _)
  exact setAgrees_of_ordered hBoth.1 hBoth.2

/-- One call lists the one bundle, and a second call with the same object lists it again. -/
theorem getBundlePriorityList_exact_oneBundle :
    (Lists oneBundle.manager (getBundlePriorityList .none 0 oneBundle.manager .empty) ↔
        BundlePriorityList.empty.list = [] ∧ oneBundle.manager.prioList.length ≤ 1000) ∧
      (Lists oneBundle.manager (getBundlePriorityList .none 0 oneBundle.manager .empty) ∧
          Repeats .none 1 oneBundle.manager (getBundlePriorityList .none 0 oneBundle.manager .empty) ↔
        BundlePriorityList.empty.list = [] ∧ oneBundle.manager.prioList = []) :=
  getBundlePriorityList_exact_iff setAgrees_oneBundle BundlePriorityList.counted_empty .none 1

/-- The second call lists the bundle twice. -/
theorem getBundlePriorityList_accumulates : ∃ (s : ReclaimPriorityManager) (passed : BundlePriorityList),
    SetAgrees s ∧ passed = .empty ∧ ¬ (Lists s (getBundlePriorityList .none 0 s passed) ∧
      Repeats .none 1 s (getBundlePriorityList .none 0 s passed)) := by
  refine ⟨oneBundle.manager, .empty, setAgrees_oneBundle, rfl, fun h => ?_⟩
  have hNone := (repeats_iff setAgrees_oneBundle BundlePriorityList.counted_empty (by decide)).mp h.2
  exact absurd hNone (by decide)

end MemMgrClient
end MemMgr
