import Mathlib.Data.List.Basic
import MemMgr.ConfigSections

/-! The levels of the killer as they are configured: from a threshold of memory on, the least
priority that is killed. One child that cannot be used makes all of them void. -/
namespace MemMgr

open XmlHelper
open Std (ExtTreeMap)

abbrev KillLevelsMap := ExtTreeMap Nat Int

namespace KillConfig

def killLevelItemsMaxCount : Nat := 10

def uintMax : Nat := 2 ^ 32 - 1

def parseKillLevelNode (node : XmlNode) (param : ModuleParam) (killLevelsMap : KillLevelsMap) :
    Bool × KillLevelsMap :=
  if node.name = "comment" then (true, killLevelsMap)
  else if node.name ≠ "killLevel" then (false, killLevelsMap)
  else
    let memoryMB := setUnsignedIntParam param "memoryMB" 0
    let minPriority := setIntParam param "minPriority" (reclaimPriorityMax + 1)
    if memoryMB = 0 ∨ minPriority = reclaimPriorityMax + 1 then (false, killLevelsMap)
    else if wrapUInt (memoryMB * kbPerMb) > uintMax then (false, killLevelsMap)
    else
      let memoryKB := wrapUInt (memoryMB * kbPerMb)
      if killLevelsMap.contains memoryKB then (false, killLevelsMap)
      else (true, killLevelsMap.insertIfNew memoryKB minPriority)

/-- The loop over the children. -/
def parseNodes : List XmlNode → KillLevelsMap → KillLevelsMap
  | [], killLevelsMap => killLevelsMap
  | node :: rest, killLevelsMap =>
      let param := (getModuleParam node.children ∅).2
      let (success, killLevelsMap) := parseKillLevelNode node param killLevelsMap
      if !success || killLevelsMap.size > killLevelItemsMaxCount then ∅
      else parseNodes rest killLevelsMap

/-- The loop that compares each priority with the one before. -/
def increasing : Int → List (Nat × Int) → Bool
  | _, [] => true
  | lastPriority, level :: rest => if level.2 ≤ lastPriority then false else increasing level.2 rest

def parseConfig (root : XmlNode) (killLevelsMap : KillLevelsMap) : KillLevelsMap :=
  if !checkNode root || !hasChild root then killLevelsMap
  else
    let killLevelsMap := parseNodes root.children killLevelsMap
    if killLevelsMap.isEmpty then killLevelsMap
    else if increasing (reclaimPriorityMin - 1) killLevelsMap.toList then killLevelsMap
    else ∅

/-- The children that are to be levels. -/
def killLevelNodes (nodes : List XmlNode) : List XmlNode := nodes.filter fun node => node.name = "killLevel"

/-- The megabytes and the priority that a child asks for, if its texts can be used. -/
def askedLevel (node : XmlNode) : Option (Nat × Int) :=
  let param := (getModuleParam node.children ∅).2
  let memoryMB := setUnsignedIntParam param "memoryMB" 0
  let minPriority := setIntParam param "minPriority" (reclaimPriorityMax + 1)
  if memoryMB = 0 ∨ minPriority = reclaimPriorityMax + 1 then none
  else some (memoryMB, minPriority)

/-- The level that a child stands for: from that many megabytes on. It cannot be used if these are
more kilobytes than an `unsigned int` holds. -/
def levelOf (node : XmlNode) : Option (Nat × Int) :=
  (askedLevel node).bind fun asked =>
    if uintMax < kbPerMb * asked.1 then none else some (kbPerMb * asked.1, asked.2)

/-- The level that is stored for a child, whose kilobytes are taken modulo 2 ^ 32. -/
def storedLevel (node : XmlNode) : Option (Nat × Int) :=
  (askedLevel node).map fun asked => (wrapUInt (asked.1 * kbPerMb), asked.2)

/-- Some child asks for more kilobytes than an `unsigned int` holds. -/
def Wraps (nodes : List XmlNode) : Prop :=
  ∃ node ∈ killLevelNodes nodes, ∃ asked ∈ askedLevel node, uintMax < kbPerMb * asked.1

instance : DecidablePred Wraps := fun _ => inferInstanceAs (Decidable (∃ _ ∈ _, _))

section Reading

variable (level : XmlNode → Option (Nat × Int))

/-- A child that is neither a comment nor a level that can be used. -/
def BadChild (nodes : List XmlNode) : Prop :=
  ∃ node ∈ nodes, node.name ≠ "comment" ∧ (node.name = "killLevel" → level node = none)

/-- Two levels from one threshold on. -/
def DuplicateChild (nodes : List XmlNode) : Prop :=
  ¬ (((killLevelNodes nodes).filterMap level).map Prod.fst).Nodup

def SurplusChild (nodes : List XmlNode) : Prop := killLevelItemsMaxCount < (killLevelNodes nodes).length

/-- Each level is there once, and no other. -/
def RepresentsEach (nodes : List XmlNode) (killLevelsMap : KillLevelsMap) : Prop :=
  ∃ levels, (killLevelNodes nodes).map level = levels.map some ∧ killLevelsMap.toList.Perm levels

/-- Every child can be used, and the priorities rise with the thresholds. -/
structure Acceptable (root : XmlNode) : Prop where
  node : checkNode root = true
  child : hasChild root = true
  usable : ¬ BadChild level root.children
  distinct : ¬ DuplicateChild level root.children
  few : ¬ SurplusChild root.children
  rising : ∀ lower ∈ (killLevelNodes root.children).filterMap level,
    ∀ higher ∈ (killLevelNodes root.children).filterMap level,
      lower.1 < higher.1 → lower.2 < higher.2
  least : ∀ known ∈ (killLevelNodes root.children).filterMap level, reclaimPriorityMin ≤ known.2

end Reading

/-- The section is taken over as a whole, in order, or not at all. -/
structure KillLevelsRead (nodes : List XmlNode) (killLevelsMap : KillLevelsMap) : Prop where
  represents : killLevelsMap = ∅ ∨ RepresentsEach levelOf nodes killLevelsMap
  size : killLevelsMap.size ≤ killLevelItemsMaxCount
  ascending : killLevelsMap.toList.Pairwise fun lower higher =>
    lower.1 < higher.1 ∧ lower.2 < higher.2
  atLeast : ∀ level ∈ killLevelsMap.toList, reclaimPriorityMin ≤ level.2
  void : BadChild levelOf nodes ∨ DuplicateChild levelOf nodes ∨ SurplusChild nodes → killLevelsMap = ∅

variable {nodes : List XmlNode} {node : XmlNode} {killLevelsMap : KillLevelsMap}
variable {levels known : List (Nat × Int)} {lastPriority : Int}

/-- The wrapped product never exceeds the greatest value of its type, so that the check against it
is never true. -/
theorem not_uintMax_lt_wrapUInt (value : Nat) : ¬ wrapUInt value > uintMax := by
  rw [wrapUInt, uintMax]
  omega

/-- A child is refused, or passed by, or adds its level for a new threshold. -/
theorem parseKillLevelNode_cases (node : XmlNode) (killLevelsMap : KillLevelsMap) :
    (parseKillLevelNode node (getModuleParam node.children ∅).2 killLevelsMap).1 = false ∨
      (node.name = "comment" ∧
        parseKillLevelNode node (getModuleParam node.children ∅).2 killLevelsMap = (true, killLevelsMap)) ∨
      (node.name = "killLevel" ∧ ∃ level, storedLevel node = some level ∧ killLevelsMap[level.1]? = none ∧
        parseKillLevelNode node (getModuleParam node.children ∅).2 killLevelsMap =
          (true, killLevelsMap.insertIfNew level.1 level.2)) := by
  rw [parseKillLevelNode, storedLevel, askedLevel]
  dsimp only
  split
  · rename_i hComment
    exact Or.inr (Or.inl ⟨hComment, rfl⟩)
  · split
    · exact Or.inl rfl
    · rename_i hName
      split
      · exact Or.inl rfl
      · rw [if_neg (not_uintMax_lt_wrapUInt _)]
        split
        · exact Or.inl rfl
        · rename_i hHas
          refine Or.inr (Or.inr ⟨Decidable.not_not.mp hName, _, rfl, ?_, rfl⟩)
          rw [ExtTreeMap.getElem?_eq_none_iff, ExtTreeMap.mem_iff_contains]
          exact hHas

/-- A level from a new threshold on is added. -/
theorem parseKillLevelNode_of_level {level : Nat × Int} (hName : node.name = "killLevel")
    (hLevel : storedLevel node = some level) (hNew : killLevelsMap[level.1]? = none) :
    parseKillLevelNode node (getModuleParam node.children ∅).2 killLevelsMap =
      (true, killLevelsMap.insertIfNew level.1 level.2) := by
  rw [ExtTreeMap.getElem?_eq_none_iff, ExtTreeMap.mem_iff_contains] at hNew
  rw [storedLevel, askedLevel] at hLevel
  split at hLevel
  · cases hLevel
  · rename_i hUsable
    obtain rfl := Option.some.inj hLevel
    rw [parseKillLevelNode, if_neg (by simp [hName]), if_neg (by simp [hName]), if_neg hUsable,
      if_neg (not_uintMax_lt_wrapUInt _), if_neg hNew]

/-- A child of another name is no kill level. -/
theorem killLevelNodes_cons_of_ne (hName : node.name ≠ "killLevel") :
    killLevelNodes (node :: nodes) = killLevelNodes nodes :=
  List.filter_cons_of_neg (by simp [hName])

/-- A child of this name is one. -/
theorem killLevelNodes_cons_of_eq (hName : node.name = "killLevel") :
    killLevelNodes (node :: nodes) = node :: killLevelNodes nodes :=
  List.filter_cons_of_pos (by simp [hName])

/-- What is left of the loop either gives up or adds a level for each child that is left. -/
theorem parseNodes_cases (hKnown : killLevelsMap.toList.Perm known)
    (hSize : killLevelsMap.size ≤ killLevelItemsMaxCount) :
    parseNodes nodes killLevelsMap = ∅ ∨
      ((∀ node ∈ nodes, node.name = "comment" ∨ node.name = "killLevel") ∧
        (parseNodes nodes killLevelsMap).size ≤ killLevelItemsMaxCount ∧
        ∃ levels, (killLevelNodes nodes).map storedLevel = levels.map some ∧
          (parseNodes nodes killLevelsMap).toList.Perm (known ++ levels)) := by
  induction nodes generalizing killLevelsMap known with
  | nil =>
      refine Or.inr ⟨by simp, hSize, [], rfl, ?_⟩
      rw [List.append_nil]
      exact hKnown
  | cons node rest ih =>
      rw [parseNodes]
      rcases parseKillLevelNode_cases node killLevelsMap with
        hRefused | ⟨hComment, hStep⟩ | ⟨hName, level, hLevel, hNew, hStep⟩
      · simp [hRefused]
      · rw [hStep]
        simp only [Bool.not_true, Bool.false_or, decide_eq_true_eq, if_neg (Nat.not_lt.mpr hSize)]
        rcases ih hKnown hSize with hVoid | ⟨hNames, hLeast, levels, hLevels, hPerm⟩
        · exact Or.inl hVoid
        · refine Or.inr ⟨List.forall_mem_cons.mpr ⟨Or.inl hComment, hNames⟩, hLeast, levels, ?_, hPerm⟩
          rw [killLevelNodes_cons_of_ne (by simp [hComment])]
          exact hLevels
      · rw [hStep]
        simp only [Bool.not_true, Bool.false_or, decide_eq_true_eq]
        by_cases hFull : (killLevelsMap.insertIfNew level.1 level.2).size > killLevelItemsMaxCount
        · exact Or.inl (if_pos hFull)
        · have hInsert : (killLevelsMap.insertIfNew level.1 level.2).toList.Perm (level :: known) :=
            (ExtTreeMap.toList_insertIfNew_perm hNew).trans (hKnown.cons level)
          rw [if_neg hFull]
          rcases ih hInsert (Nat.not_lt.mp hFull) with hVoid | ⟨hNames, hLeast, levels, hLevels, hPerm⟩
          · exact Or.inl hVoid
          · refine Or.inr ⟨List.forall_mem_cons.mpr ⟨Or.inr hName, hNames⟩, hLeast, level :: levels, ?_,
              hPerm.trans List.perm_middle.symm⟩
            rw [killLevelNodes_cons_of_eq hName, List.map_cons, hLevel, hLevels]
            rfl

/-- The loop over the levels compares neighbours, which orders all of them. -/
theorem increasing_iff : increasing lastPriority levels = true ↔
    (∀ level ∈ levels, lastPriority < level.2) ∧
      levels.Pairwise fun lower higher => lower.2 < higher.2 := by
  induction levels generalizing lastPriority with
  | nil => simp [increasing]
  | cons level rest ih =>
      rw [increasing, List.forall_mem_cons, List.pairwise_cons]
      by_cases hLow : level.2 ≤ lastPriority
      · rw [if_pos hLow]
        constructor
        · exact nofun
        · rintro ⟨⟨hHigh, -⟩, -⟩
          exact absurd hHigh (Int.not_lt.mpr hLow)
      · rw [if_neg hLow, ih]
        have hHigh : lastPriority < level.2 := Int.not_le.mp hLow
        constructor
        · rintro ⟨hRest, hPairwise⟩
          exact ⟨⟨hHigh, fun other hMem => Int.lt_trans hHigh (hRest other hMem)⟩, hRest, hPairwise⟩
        · rintro ⟨-, hRest, hPairwise⟩
          exact ⟨hRest, hPairwise⟩

/-- The levels come out of the map by their thresholds. -/
theorem ascending_of_increasing (hIncreasing : increasing lastPriority killLevelsMap.toList = true) :
    killLevelsMap.toList.Pairwise fun lower higher => lower.1 < higher.1 ∧ lower.2 < higher.2 := by
  have hKeys : killLevelsMap.toList.Pairwise fun lower higher => lower.1 < higher.1 :=
    killLevelsMap.ordered_keys_toList.imp Nat.compare_eq_lt.mp
  exact hKeys.and (increasing_iff.mp hIncreasing).2

/-- The cleared map has no level. -/
theorem toList_empty : (∅ : KillLevelsMap).toList = [] := ExtTreeMap.toList_eq_nil_iff.mpr rfl

/-- A section that is not taken over at all. -/
theorem killLevelsRead_empty : KillLevelsRead nodes ∅ where
  represents := Or.inl rfl
  size := Nat.zero_le _
  ascending := by
    rw [toList_empty]
    exact List.Pairwise.nil
  atLeast := by simp [toList_empty]
  void := fun _ => rfl

/-- The levels of children that can all be used are those of the children that can. -/
theorem filterMap_of_map {level : XmlNode → Option (Nat × Int)}
    (hLevels : (killLevelNodes nodes).map level = levels.map some) :
    (killLevelNodes nodes).filterMap level = levels := by
  have hMap : ((killLevelNodes nodes).map level).filterMap id = levels := by
    rw [hLevels]
    simp
  rwa [List.filterMap_map] at hMap

/-- Children that can all be used add their levels. -/
theorem parseNodes_of_good (hKnown : killLevelsMap.toList.Perm known)
    (hGood : ∀ node ∈ nodes, node.name = "comment" ∨ node.name = "killLevel" ∧ storedLevel node ≠ none)
    (hDistinct : ((known ++ (killLevelNodes nodes).filterMap storedLevel).map Prod.fst).Nodup)
    (hSize : known.length + (killLevelNodes nodes).length ≤ killLevelItemsMaxCount) :
    (parseNodes nodes killLevelsMap).toList.Perm
      (known ++ (killLevelNodes nodes).filterMap storedLevel) := by
  induction nodes generalizing killLevelsMap known with
  | nil =>
      rw [killLevelNodes, List.filter_nil, List.filterMap_nil, List.append_nil]
      exact hKnown
  | cons node rest ih =>
      obtain ⟨hNode, hRest⟩ := List.forall_mem_cons.mp hGood
      have hLength : killLevelsMap.size = known.length := by
        rw [← hKnown.length_eq, ExtTreeMap.length_toList]
      rw [parseNodes]
      rcases hNode with hComment | ⟨hName, hLevel⟩
      · have hStep : parseKillLevelNode node (getModuleParam node.children ∅).2 killLevelsMap =
            (true, killLevelsMap) := if_pos hComment
        rw [killLevelNodes_cons_of_ne (by simp [hComment])] at hDistinct hSize ⊢
        have hRoom : ¬ killLevelsMap.size > killLevelItemsMaxCount := by omega
        simp only [hStep, Bool.not_true, Bool.false_or, decide_eq_true_eq, if_neg hRoom]
        exact ih hKnown hRest hDistinct hSize
      · obtain ⟨level, hOwn⟩ := Option.ne_none_iff_exists'.mp hLevel
        rw [killLevelNodes_cons_of_eq hName, List.filterMap_cons_some hOwn] at hDistinct ⊢
        rw [killLevelNodes_cons_of_eq hName, List.length_cons] at hSize
        have hNew : killLevelsMap[level.1]? = none := by
          rw [ExtTreeMap.getElem?_eq_none_iff, ← ExtTreeMap.mem_keys, ← ExtTreeMap.map_fst_toList_eq_keys,
            (hKnown.map Prod.fst).mem_iff]
          rw [List.map_append, List.map_cons, List.nodup_append] at hDistinct
          exact fun hMem => hDistinct.2.2 level.1 hMem level.1 List.mem_cons_self rfl
        have hMiddle := @List.perm_middle _ level known ((killLevelNodes rest).filterMap storedLevel)
        have hInsert : (killLevelsMap.insertIfNew level.1 level.2).toList.Perm (level :: known) :=
          (ExtTreeMap.toList_insertIfNew_perm hNew).trans (hKnown.cons level)
        have hRoom : ¬ (killLevelsMap.insertIfNew level.1 level.2).size > killLevelItemsMaxCount := by
          rw [← ExtTreeMap.length_toList, hInsert.length_eq, List.length_cons]
          omega
        have hStep := parseKillLevelNode_of_level hName hOwn hNew
        simp only [hStep, Bool.not_true, Bool.false_or, decide_eq_true_eq, if_neg hRoom]
        refine (ih hInsert hRest ?_ ?_).trans hMiddle.symm
        · exact ((hMiddle.map Prod.fst).nodup_iff).mp hDistinct
        · rw [List.length_cons]
          omega

/-- Children that are accepted are all stored. -/
theorem parseConfig_of_acceptable {root : XmlNode} (h : Acceptable storedLevel root) :
    (parseConfig root ∅).toList.Perm ((killLevelNodes root.children).filterMap storedLevel) := by
  have hUsable : ∀ node ∈ root.children,
      node.name = "comment" ∨ node.name = "killLevel" ∧ storedLevel node ≠ none := by
    intro node hMem
    by_contra hNot
    simp only [not_or, not_and, Decidable.not_not] at hNot
    exact h.usable ⟨node, hMem, hNot⟩
  have hPerm : (parseNodes root.children ∅).toList.Perm
      ((killLevelNodes root.children).filterMap storedLevel) := by
    refine @parseNodes_of_good root.children ∅ [] (by rw [toList_empty]) hUsable
      (Decidable.not_not.mp h.distinct) ?_
    rw [List.length_nil, Nat.zero_add]
    exact Nat.not_lt.mp h.few
  have hIncreasing : increasing (reclaimPriorityMin - 1) (parseNodes root.children ∅).toList = true := by
    refine increasing_iff.mpr ⟨fun level hMem => ?_, ?_⟩
    · exact Int.sub_one_lt_of_le (h.least level (hPerm.mem_iff.mp hMem))
    · have hKeys := (parseNodes root.children ∅).ordered_keys_toList
      refine hKeys.imp_of_mem fun hLower hHigher hKey => ?_
      exact h.rising _ (hPerm.mem_iff.mp hLower) _ (hPerm.mem_iff.mp hHigher) (Nat.compare_eq_lt.mp hKey)
  have hParsed : parseConfig root ∅ = parseNodes root.children ∅ := by
    rw [parseConfig, h.node, h.child, Bool.not_true, Bool.false_or, if_neg Bool.false_ne_true]
    dsimp only
    rw [if_pos hIncreasing, ite_self]
  rw [hParsed]
  exact hPerm

/-- What the loops have let through is acceptable. -/
theorem acceptable_of_increasing {root : XmlNode} (hNode : checkNode root = true)
    (hChild : hasChild root = true)
    (hNames : ∀ node ∈ root.children, node.name = "comment" ∨ node.name = "killLevel")
    (hSize : killLevelsMap.size ≤ killLevelItemsMaxCount)
    (hLevels : (killLevelNodes root.children).map storedLevel = levels.map some)
    (hPerm : killLevelsMap.toList.Perm levels)
    (hIncreasing : increasing (reclaimPriorityMin - 1) killLevelsMap.toList = true) :
    Acceptable storedLevel root := by
  have hOwn := filterMap_of_map hLevels
  have hAscending := ascending_of_increasing hIncreasing
  constructor
  · exact hNode
  · exact hChild
  · rintro ⟨node, hMem, hComment, hBad⟩
    have hName := (hNames node hMem).resolve_left hComment
    have hLevel : storedLevel node ∈ (killLevelNodes root.children).map storedLevel :=
      List.mem_map_of_mem (List.mem_filter.mpr ⟨hMem, decide_eq_true hName⟩)
    rw [hLevels, hBad hName] at hLevel
    simp at hLevel
  · rw [DuplicateChild, hOwn, not_not, ← (hPerm.map Prod.fst).nodup_iff,
      ExtTreeMap.map_fst_toList_eq_keys]
    exact killLevelsMap.nodup_keys
  · have hLength := congrArg List.length hLevels
    rw [List.length_map, List.length_map] at hLength
    rw [SurplusChild, hLength, ← hPerm.length_eq, ExtTreeMap.length_toList]
    exact Nat.not_lt.mpr hSize
  · intro lower hLower higher hHigher hKey
    rw [hOwn, ← hPerm.mem_iff] at hLower hHigher
    have hRises : killLevelsMap.toList.Pairwise fun lower higher =>
        lower.1 < higher.1 → lower.2 < higher.2 := hAscending.imp fun hBoth _ => hBoth.2
    have hFalls : killLevelsMap.toList.Pairwise fun higher lower =>
        lower.1 < higher.1 → lower.2 < higher.2 :=
      hAscending.imp fun hBoth hKey => absurd hKey (Nat.lt_asymm hBoth.1)
    -- Of two levels in the map, one comes before the other.
    exact hRises.forall_of_forall_of_flip (fun level _ hKey => absurd hKey (Nat.lt_irrefl _)) hFalls
      hLower hHigher hKey
  · intro level hMem
    rw [hOwn, ← hPerm.mem_iff] at hMem
    exact Int.le_of_sub_one_lt ((increasing_iff.mp hIncreasing).1 level hMem)

/-- Children that are not accepted leave no level at all. -/
theorem parseConfig_of_not_acceptable {root : XmlNode} (h : ¬ Acceptable storedLevel root) :
    parseConfig root ∅ = ∅ := by
  have hStart : (∅ : KillLevelsMap).size ≤ killLevelItemsMaxCount := Nat.zero_le _
  have hNone : (∅ : KillLevelsMap).toList.Perm [] := by rw [toList_empty]
  rw [parseConfig]
  split
  · rfl
  · rename_i hUsed
    simp only [Bool.or_eq_true, Bool.not_eq_true', not_or, Bool.not_eq_false] at hUsed
    rcases @parseNodes_cases root.children ∅ [] hNone hStart with
      hVoid | ⟨hNames, hSize, levels, hLevels, hPerm⟩
    · rw [hVoid]
      simp
    · dsimp only
      split
      · rename_i hEmpty
        exact ExtTreeMap.isEmpty_iff.mp hEmpty
      · apply if_neg
        exact fun hIncreasing => h (acceptable_of_increasing hUsed.1 hUsed.2 hNames hSize hLevels hPerm
          hIncreasing)

/-- Unless a child asks for too much, it is stored as the level it stands for. -/
theorem storedLevel_eq (h : ¬ Wraps nodes) : ∀ node ∈ killLevelNodes nodes,
    storedLevel node = levelOf node := by
  intro node hMem
  rw [storedLevel, levelOf]
  cases hAsked : askedLevel node with
  | none => rfl
  | some asked =>
      have hFits : ¬ uintMax < kbPerMb * asked.1 := fun hLarge => h ⟨node, hMem, asked, hAsked, hLarge⟩
      rw [Option.map_some, Option.bind_some, if_neg hFits, wrapUInt, Nat.mul_comm,
        Nat.mod_eq_of_lt (by rw [uintMax] at hFits; omega)]

/-- A child that asks for too much cannot be used. -/
theorem badChild_of_wraps (h : Wraps nodes) : BadChild levelOf nodes := by
  obtain ⟨node, hMem, asked, hAsked, hLarge⟩ := h
  obtain ⟨hNode, hName⟩ := List.mem_filter.mp hMem
  have hName : node.name = "killLevel" := of_decide_eq_true hName
  refine ⟨node, hNode, by rw [hName]; decide, fun _ => ?_⟩
  rw [levelOf, hAsked, Option.bind_some, if_pos hLarge]

/-- Whether a section is acceptable depends on the levels of its own children. -/
theorem Acceptable.congr {level other : XmlNode → Option (Nat × Int)} {root : XmlNode}
    (h : Acceptable level root) (hSame : ∀ node ∈ killLevelNodes root.children, level node = other node) :
    Acceptable other root := by
  have hLevels : (killLevelNodes root.children).filterMap level =
      (killLevelNodes root.children).filterMap other := List.filterMap_congr hSame
  constructor
  · exact h.node
  · exact h.child
  · rintro ⟨node, hMem, hComment, hBad⟩
    refine h.usable ⟨node, hMem, hComment, fun hName => ?_⟩
    rw [hSame node (List.mem_filter.mpr ⟨hMem, decide_eq_true hName⟩)]
    exact hBad hName
  · rw [DuplicateChild, ← hLevels]
    exact h.distinct
  · exact h.few
  · rw [← hLevels]
    exact h.rising
  · rw [← hLevels]
    exact h.least

/-- Every level of an acceptable section is one of its levels. -/
theorem Acceptable.map_eq {level : XmlNode → Option (Nat × Int)} {root : XmlNode}
    (h : Acceptable level root) : (killLevelNodes root.children).map level =
      ((killLevelNodes root.children).filterMap level).map some := by
  have hUsable : ∀ node ∈ killLevelNodes root.children, level node ≠ none := by
    intro node hMem hNone
    obtain ⟨hNode, hName⟩ := List.mem_filter.mp hMem
    have hName : node.name = "killLevel" := of_decide_eq_true hName
    exact h.usable ⟨node, hNode, by rw [hName]; decide, fun _ => hNone⟩
  generalize killLevelNodes root.children = nodes at hUsable
  induction nodes with
  | nil => rfl
  | cons node rest ih =>
      obtain ⟨hNode, hRest⟩ := List.forall_mem_cons.mp hUsable
      obtain ⟨own, hOwn⟩ := Option.ne_none_iff_exists'.mp hNode
      rw [List.map_cons, List.filterMap_cons_some hOwn, List.map_cons, ih hRest, hOwn]

/-- A map that holds the levels of an acceptable section represents it. -/
theorem Acceptable.killLevelsRead {root : XmlNode} (h : Acceptable levelOf root)
    (hPerm : killLevelsMap.toList.Perm ((killLevelNodes root.children).filterMap levelOf)) :
    KillLevelsRead root.children killLevelsMap where
  represents := Or.inr ⟨_, h.map_eq, hPerm⟩
  size := by
    have hLength := congrArg List.length h.map_eq
    rw [List.length_map, List.length_map] at hLength
    rw [← ExtTreeMap.length_toList, hPerm.length_eq, ← hLength]
    exact Nat.not_lt.mp h.few
  ascending := by
    refine killLevelsMap.ordered_keys_toList.imp_of_mem fun hLower hHigher hKey => ?_
    have hLess := Nat.compare_eq_lt.mp hKey
    exact ⟨hLess, h.rising _ (hPerm.mem_iff.mp hLower) _ (hPerm.mem_iff.mp hHigher) hLess⟩
  atLeast := fun level hMem => h.least level (hPerm.mem_iff.mp hMem)
  void := by
    rintro (hBad | hDuplicate | hSurplus)
    · exact absurd hBad h.usable
    · exact absurd hDuplicate h.distinct
    · exact absurd hSurplus h.few

/-- An element with a text. -/
def textElement (name : String) (content : List Char) : XmlNode :=
  ⟨.element, name, content, [⟨.text, "text", content, []⟩]⟩

def killLevelElement (memoryMB minPriority : List Char) : XmlNode :=
  ⟨.element, "killLevel", [], [textElement "memoryMB" memoryMB, textElement "minPriority" minPriority]⟩

/-- Two levels, the higher one first, around a comment. -/
def twoLevels : XmlNode :=
  ⟨.element, "killConfig", [], [killLevelElement ['5', '0', '0'] ['4', '0', '0'],
    ⟨.comment, "comment", [], []⟩, killLevelElement ['1', '0', '0'] ['0']]⟩

/-- A level from 4194305 megabytes on. -/
def wrappedLevel : XmlNode :=
  ⟨.element, "killConfig", [], [killLevelElement ['4', '1', '9', '4', '3', '0', '5'] ['0']]⟩

end KillConfig
end MemMgr
