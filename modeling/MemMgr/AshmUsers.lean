import MemMgr.Library.Lookup
import MemMgr.PurgeByPsi
import MemMgr.StringParsing

/-! The blocks of purgeable shared memory, of which the kernel lists every user on a line of its
own. A block gets the least adj of its users, but its name and size come from the first of them. -/
namespace MemMgr

open Std (ExtTreeMap ExtTreeSet)

/-- Name and size of a block. -/
def PurgeableAshmInfo.label (info : PurgeableAshmInfo) : String × Int := (info.curAppName, info.sizeKB)

namespace PurgeableMemUtils

def ashmParamSizeOneLine : Nat := 10

/-- What one line says, unless it is malformed or its block is pinned or purged. -/
def parseAshmLine (line : String) : Option PurgeableAshmInfo :=
  let words := splitOneLineByDelim line.toList ','
  let word (index : Nat) : List Char := (words[index]?).getD []
  if words.length ≠ ashmParamSizeOneLine ∨ word 8 ≠ ['0'] ∨ word 9 ≠ ['0'] then none
  else
    match stoi (word 2) with
    | none => none
    | some minPriority =>
        match stoi (word 5) with
        | none => none
        | some sizeKB =>
            some
              { curAppName := String.ofList (word 0)
                idWithTime := String.ofList (word 6 ++ ' ' :: word 7)
                minPriority := minPriority
                sizeKB := sizeKB }

/-- The record of a block after one more of its users. -/
def mergeUser (old : Option PurgeableAshmInfo) (user : PurgeableAshmInfo) : Option PurgeableAshmInfo :=
  match old with
  | none => some user
  | some info =>
      if info.minPriority > user.minPriority then some { info with minPriority := user.minPriority }
      else some info

def addUser (ashmIdToInfoMap : ExtTreeMap String PurgeableAshmInfo) (user : PurgeableAshmInfo) :
    ExtTreeMap String PurgeableAshmInfo :=
  match mergeUser ashmIdToInfoMap[user.idWithTime]? user with
  | none => ashmIdToInfoMap
  | some info => ashmIdToInfoMap.insert user.idWithTime info

def getashmIdToInfoMap (strLines : List String) : ExtTreeMap String PurgeableAshmInfo :=
  strLines.foldl (fun ashmIdToInfoMap line =>
    match parseAshmLine line with
    | none => ashmIdToInfoMap
    | some user => addUser ashmIdToInfoMap user) ∅

/-- The users of a block, in the order of their lines. -/
def usersOf (strLines : List String) (key : String) : List PurgeableAshmInfo :=
  (strLines.filterMap parseAshmLine).filter fun user => user.idWithTime = key

/-- What the users of a block come to. -/
def recordOf (users : List PurgeableAshmInfo) : Option PurgeableAshmInfo := users.foldl mergeUser none

end PurgeableMemUtils

namespace PurgeableMemManager

open PurgeableMemUtils

/-- The blocks that may be purged one by one: those of an app in the list, which free something. -/
def purgeableBlocks (purgeWhiteAppSet : ExtTreeSet String) (strLines : List String) :
    Option (List PurgeableAshmInfo) :=
  (getPurgeableAshmInfo (some ((getashmIdToInfoMap strLines).toList.map Prod.snd))).map fun info =>
    info.2.filter fun block => isPurgeWhiteApp purgeWhiteAppSet block.curAppName

end PurgeableMemManager

namespace PurgeableMemUtils

variable {strLines strLines' : List String} {users users' : List PurgeableAshmInfo}
variable {key : String} {record : PurgeableAshmInfo}

/-- A user changes the record of its own block only. -/
theorem addUser_lookup (ashmIdToInfoMap : ExtTreeMap String PurgeableAshmInfo)
    (user : PurgeableAshmInfo) (key : String) : (addUser ashmIdToInfoMap user)[key]? =
      if compare user.idWithTime key = .eq then mergeUser ashmIdToInfoMap[key]? user
      else ashmIdToInfoMap[key]? := by
  have hSome : ∀ old, ∃ info, mergeUser old user = some info := by
    intro old
    cases old with
    | none => exact ⟨user, rfl⟩
    | some info =>
        rw [mergeUser]
        split_ifs
        · exact ⟨_, rfl⟩
        · exact ⟨_, rfl⟩
  obtain ⟨info, hInfo⟩ := hSome ashmIdToInfoMap[user.idWithTime]?
  rw [addUser, hInfo]
  dsimp only
  rw [ExtTreeMap.getElem?_insert]
  split_ifs with hKey
  · rw [← hInfo, Std.LawfulEqCmp.compare_eq_iff_eq.mp hKey]
  · rfl

/-- The map holds what the users of each block come to. -/
theorem getashmIdToInfoMap_lookup (strLines : List String) (key : String) :
    (getashmIdToInfoMap strLines)[key]? = recordOf (usersOf strLines key) := by
  have hFold : getashmIdToInfoMap strLines = (strLines.filterMap parseAshmLine).foldl addUser ∅ := by
    rw [getashmIdToInfoMap, List.foldl_filterMap]
    congr 1
    funext ashmIdToInfoMap line
    cases parseAshmLine line <;> rfl
  rw [hFold, ExtTreeMap.getElem?_foldl addUser_lookup, ExtTreeMap.getElem?_empty, recordOf, usersOf]
  simp only [Std.LawfulEqCmp.compare_eq_iff_eq]

/-- The first user names the block, and all of them lower its adj. -/
theorem recordOf_cons (first : PurgeableAshmInfo) (others : List PurgeableAshmInfo) :
    recordOf (first :: others) = some { first with
      minPriority := others.foldl (fun least user => min least user.minPriority) first.minPriority } := by
  rw [recordOf, List.foldl_cons, mergeUser]
  induction others generalizing first with
  | nil => rfl
  | cons second others ih =>
      rw [List.foldl_cons, List.foldl_cons, mergeUser]
      split_ifs with hLower
      · rw [ih, min_eq_right hLower.le]
      · rw [ih, min_eq_left (not_lt.mp hLower)]

/-- A block has a record as soon as it has a user. -/
theorem recordOf_eq_none : recordOf users = none ↔ users = [] := by
  cases users with
  | nil => exact ⟨fun _ => rfl, fun _ => rfl⟩
  | cons first others => simp [recordOf_cons]

/-- The name and the size of a block are those of its first user. -/
theorem recordOf_label (users : List PurgeableAshmInfo) :
    (recordOf users).map PurgeableAshmInfo.label = users.head?.map PurgeableAshmInfo.label := by
  cases users with
  | nil => rfl
  | cons first others =>
      rw [recordOf_cons]
      rfl

/-- A bound of the least priority is a bound of all priorities. -/
theorem le_foldl_min {bound start : Int} (others : List PurgeableAshmInfo) :
    bound ≤ others.foldl (fun least user => min least user.minPriority) start ↔
      bound ≤ start ∧ ∀ user ∈ others, bound ≤ user.minPriority := by
  induction others generalizing start with
  | nil => simp
  | cons second others ih =>
      rw [List.foldl_cons, ih, le_min_iff, List.forall_mem_cons, and_assoc]

/-- The adj of a block is the least one of its users. -/
theorem le_recordOf {bound : Int} (hRecord : recordOf users = some record) :
    bound ≤ record.minPriority ↔ ∀ user ∈ users, bound ≤ user.minPriority := by
  cases users with
  | nil => cases hRecord
  | cons first others =>
      rw [recordOf_cons] at hRecord
      obtain rfl := Option.some.inj hRecord
      rw [List.forall_mem_cons]
      exact le_foldl_min others

/-- The record of a block stands under the key of its users. -/
theorem recordOf_key (hKey : ∀ user ∈ users, user.idWithTime = key)
    (hRecord : recordOf users = some record) : record.idWithTime = key := by
  cases users with
  | nil => cases hRecord
  | cons first others =>
      rw [recordOf_cons] at hRecord
      obtain rfl := Option.some.inj hRecord
      exact hKey first List.mem_cons_self

/-- The order of the users does not change the adj of a block. -/
theorem recordOf_perm (hPerm : users.Perm users') :
    (recordOf users).map (·.minPriority) = (recordOf users').map (·.minPriority) := by
  cases hRecord : recordOf users with
  | none =>
      have hNil := recordOf_eq_none.mp hRecord
      rw [hNil] at hPerm
      rw [hPerm.nil_eq.symm]
      rfl
  | some record =>
      cases hRecord' : recordOf users' with
      | none =>
          have hNil := recordOf_eq_none.mp hRecord'
          rw [hNil] at hPerm
          rw [hPerm.eq_nil] at hRecord
          cases hRecord
      | some record' =>
          have hLe : ∀ bound, bound ≤ record.minPriority ↔ bound ≤ record'.minPriority := by
            intro bound
            rw [le_recordOf hRecord, le_recordOf hRecord']
            exact forall_congr' fun user => by rw [hPerm.mem_iff]
          exact congrArg some (le_antisymm ((hLe _).mp le_rfl) ((hLe _).mpr le_rfl))

/-- Lines in another order give the same users in another order. -/
theorem usersOf_perm (hPerm : strLines.Perm strLines') (key : String) :
    (usersOf strLines key).Perm (usersOf strLines' key) :=
  (hPerm.filterMap parseAshmLine).filter _

/-- A record is made up of its key, its adj and its label. -/
theorem info_ext {first second : PurgeableAshmInfo} (hKey : first.idWithTime = second.idWithTime)
    (hAdj : first.minPriority = second.minPriority) (hLabel : first.label = second.label) :
    first = second := by
  cases first
  cases second
  cases hLabel
  dsimp only at hKey hAdj
  rw [hKey, hAdj]

/-- Users that agree put the same label first in any order. -/
theorem head?_label_of_uniform (hPerm : users.Perm users')
    (hUniform : ∀ user ∈ users, ∀ other ∈ users, user.label = other.label) :
    users.head?.map PurgeableAshmInfo.label = users'.head?.map PurgeableAshmInfo.label := by
  cases users with
  | nil => rw [hPerm.nil_eq]
  | cons first others =>
      cases users' with
      | nil => cases hPerm.eq_nil
      | cons first' others' =>
          have hMem : first' ∈ first :: others := hPerm.mem_iff.mpr List.mem_cons_self
          exact congrArg some (hUniform first List.mem_cons_self first' hMem)

/-- All users of a block have its key. -/
theorem usersOf_key : ∀ user ∈ usersOf strLines key, user.idWithTime = key := by
  intro user hUser
  exact of_decide_eq_true (List.mem_filter.mp hUser).2

/-- The records of a block are the same once their labels are. -/
theorem lookup_eq_iff (hPerm : strLines.Perm strLines') (key : String) :
    (getashmIdToInfoMap strLines)[key]? = (getashmIdToInfoMap strLines')[key]? ↔
      (usersOf strLines key).head?.map PurgeableAshmInfo.label =
        (usersOf strLines' key).head?.map PurgeableAshmInfo.label := by
  have hAdj := recordOf_perm (usersOf_perm hPerm key)
  rw [getashmIdToInfoMap_lookup, getashmIdToInfoMap_lookup, ← recordOf_label, ← recordOf_label]
  constructor
  · intro hSame
    rw [hSame]
  · intro hLabel
    cases hRecord : recordOf (usersOf strLines key) with
    | none =>
        rw [hRecord, Option.map_none] at hAdj
        exact (Option.map_eq_none_iff.mp hAdj.symm).symm
    | some record =>
        rw [hRecord, Option.map_some] at hAdj hLabel
        obtain ⟨record', hRecord', hSameAdj⟩ := Option.map_eq_some_iff.mp hAdj.symm
        rw [hRecord', Option.map_some] at hLabel
        rw [hRecord']
        have hKey := (recordOf_key usersOf_key hRecord).trans (recordOf_key usersOf_key hRecord').symm
        exact congrArg some (info_ext hKey hSameAdj.symm (Option.some.inj hLabel))

end PurgeableMemUtils

namespace PurgeableMemManager

open PurgeableMemUtils

variable {strLines strLines' : List String}

/-- The order of the lines does not change the keys and the adj of a block, but its name and size
are those of the first of its users. Where these agree nothing depends on the order. -/
theorem getashmIdToInfoMap_perm (hPerm : strLines.Perm strLines') :
    (∀ key : String, (getashmIdToInfoMap strLines)[key]?.map (·.minPriority) =
      (getashmIdToInfoMap strLines')[key]?.map (·.minPriority)) ∧
    (∀ key : String, (getashmIdToInfoMap strLines)[key]?.map PurgeableAshmInfo.label =
      (usersOf strLines key).head?.map PurgeableAshmInfo.label) ∧
    (getashmIdToInfoMap strLines = getashmIdToInfoMap strLines' ↔
      ∀ key, (usersOf strLines key).head?.map PurgeableAshmInfo.label =
        (usersOf strLines' key).head?.map PurgeableAshmInfo.label) ∧
    ((∀ key, ∀ user ∈ usersOf strLines key, ∀ other ∈ usersOf strLines key, user.label = other.label) →
      getashmIdToInfoMap strLines = getashmIdToInfoMap strLines' ∧
        ∀ purgeWhiteAppSet, purgeableBlocks purgeWhiteAppSet strLines =
          purgeableBlocks purgeWhiteAppSet strLines') := by
  have hSame : getashmIdToInfoMap strLines = getashmIdToInfoMap strLines' ↔
      ∀ key, (usersOf strLines key).head?.map PurgeableAshmInfo.label =
        (usersOf strLines' key).head?.map PurgeableAshmInfo.label := by
    constructor
    · intro hMaps key
      rw [← lookup_eq_iff hPerm, hMaps]
    · intro hLabels
      apply ExtTreeMap.ext_getElem?
      exact fun key => (lookup_eq_iff hPerm key).mpr (hLabels key)
  refine ⟨fun key => ?_, fun key => ?_, hSame, fun hUniform => ?_⟩
  · rw [getashmIdToInfoMap_lookup, getashmIdToInfoMap_lookup]
    exact recordOf_perm (usersOf_perm hPerm key)
  · rw [getashmIdToInfoMap_lookup, recordOf_label]
  · have hMaps : getashmIdToInfoMap strLines = getashmIdToInfoMap strLines' := by
      apply hSame.mpr
      exact fun key => head?_label_of_uniform (usersOf_perm hPerm key) (hUniform key)
    refine ⟨hMaps, fun purgeWhiteAppSet => ?_⟩
    rw [purgeableBlocks, purgeableBlocks, hMaps]

/-- A block that two processes of one app use. -/
def oneApp : List String := ["a,1,200,3,x,64,7,9,0,0", "a,2,100,3,x,64,7,9,0,0"]

/-- A block with one user label is read the same in either order of its lines. -/
theorem getashmIdToInfoMap_perm_oneApp :
    getashmIdToInfoMap oneApp = getashmIdToInfoMap oneApp.reverse := by
  have hLabel : ∀ user ∈ oneApp.filterMap parseAshmLine, user.label = ("a", 64) := by
    decide +kernel
  have hPerm : oneApp.Perm oneApp.reverse := (List.reverse_perm _).symm
  refine ((getashmIdToInfoMap_perm hPerm).2.2.2 fun key user hUser other hOther => ?_).1
  rw [hLabel user (List.mem_filter.mp hUser).1, hLabel other (List.mem_filter.mp hOther).1]

/-- The same block, of which the second user is another app. -/
def twoApps : List String := ["a,1,200,3,x,64,7,9,0,0", "b,2,100,3,x,64,7,9,0,0"]

/-- Which app is listed first decides whether the block is purged. -/
theorem purgeableBlocks_twoApps : twoApps.Perm twoApps.reverse ∧
    getashmIdToInfoMap twoApps ≠ getashmIdToInfoMap twoApps.reverse ∧
    purgeableBlocks (ExtTreeSet.insert ∅ "a") twoApps ≠
      purgeableBlocks (ExtTreeSet.insert ∅ "a") twoApps.reverse := by
  refine ⟨(List.reverse_perm _).symm, fun hMaps => ?_, ?_⟩
  · have hRecord := congrArg (fun m => m["7 9"]?.map PurgeableAshmInfo.label) hMaps
    exact absurd hRecord (by decide +kernel)
  · decide +kernel

end PurgeableMemManager
end MemMgr
