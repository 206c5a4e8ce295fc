import Mathlib.Data.Tree.Basic
import Mathlib.Data.List.Pairwise
import Mathlib.Data.List.Perm.Basic
import Mathlib.Order.Defs.LinearOrder
import Mathlib.Order.Basic
import Mathlib.Order.Lattice

/-! Node-based ordered sets. A set is a binary tree searched with a comparator
that is evaluated at the time of the call, so nothing forces the stored order to
agree with it: elements may have been changed in place since they were stored.
Facts about the in-order traversal are stated twice, once for any tree, and once
for trees whose traversal is strictly ascending in the keys of the comparator. -/
namespace SearchTree

variable {α κ : Type*}

/-- The iteration order of the set. -/
def inorder : BinaryTree α → List α
  | .nil => []
  | .node value left right => inorder left ++ value :: inorder right

@[simp] theorem inorder_nil : inorder (.nil : BinaryTree α) = [] := rfl

@[simp] theorem inorder_node (value : α) (left right : BinaryTree α) :
    inorder (.node value left right) = inorder left ++ value :: inorder right := rfl

@[simp] theorem length_inorder (tree : BinaryTree α) : (inorder tree).length = tree.numNodes := by
  induction tree with
  | nil => rfl
  | node value left right ihLeft ihRight =>
      simp only [inorder_node, List.length_append, List.length_cons, ihLeft, ihRight,
        BinaryTree.numNodes]
      omega

/-- Rotations after an update may give the tree any shape, but they keep the
iteration order. Which shape is chosen is left open. -/
structure Rebalancing (α : Type*) where
  balance : BinaryTree α → BinaryTree α
  inorder_balance : ∀ tree, inorder (balance tree) = inorder tree

attribute [simp] Rebalancing.inorder_balance

/-- No rotation at all, which is also what a balanced tree does while it has at
most one node on each side of its root. -/
def Rebalancing.none : Rebalancing α := ⟨id, fun _ => rfl⟩

/-- Descend by the comparator and attach a new leaf. An equivalent element met on
the way keeps its place and nothing is inserted. -/
def insert (before : α → α → Bool) (x : α) : BinaryTree α → BinaryTree α
  | .nil => .node x .nil .nil
  | .node value left right =>
      if before x value then .node value (insert before x left) right
      else if before value x then .node value left (insert before x right)
      else .node value left right

/-- The position and the value of the last node on the search path that is not
before `x`, which is where a lookup by key ends. -/
def lowerBound (before : α → α → Bool) (x : α) : BinaryTree α → Option (Nat × α)
  | .nil => none
  | .node value left right =>
      if before value x then
        (lowerBound before x right).map fun found => (left.numNodes + 1 + found.1, found.2)
      else
        some ((lowerBound before x left).getD (left.numNodes, value))

/-- Detach the leftmost node of a nonempty tree. -/
def popMin (value : α) : BinaryTree α → BinaryTree α → α × BinaryTree α
  | .nil, right => (value, right)
  | .node leftValue leftLeft leftRight, right =>
      let popped := popMin leftValue leftLeft leftRight
      (popped.1, .node value popped.2 right)

/-- What remains of a node when its value is removed: an only child takes its
place, otherwise its successor does. -/
def join : BinaryTree α → BinaryTree α → BinaryTree α
  | .nil, right => right
  | left, .nil => left
  | left, .node value rightLeft rightRight =>
      let popped := popMin value rightLeft rightRight
      .node popped.1 left popped.2

/-- Erase through an iterator, given by its position in the iteration order. -/
def eraseIdx : Nat → BinaryTree α → BinaryTree α
  | _, .nil => .nil
  | i, .node value left right =>
      if i < left.numNodes then .node value (eraseIdx i left) right
      else if i = left.numNodes then join left right
      else .node value left (eraseIdx (i - (left.numNodes + 1)) right)

/-- Erase by key: the element that the search ends at goes, if it is equivalent. -/
def erase (before : α → α → Bool) (x : α) (tree : BinaryTree α) : BinaryTree α :=
  match lowerBound before x tree with
  | some (i, value) => if before x value then tree else eraseIdx i tree
  | none => tree

/-- Taking the least element out leaves the others in order. -/
theorem popMin_cons (value : α) (left right : BinaryTree α) :
    (popMin value left right).1 :: inorder (popMin value left right).2 =
      inorder left ++ value :: inorder right := by
  induction left generalizing value right with
  | nil => rfl
  | node leftValue leftLeft leftRight ih _ =>
      have hPopped := ih leftValue leftRight
      simp only [popMin, inorder_node, ← hPopped, List.cons_append]

/-- A join holds the elements of both trees, in order. -/
theorem inorder_join (left right : BinaryTree α) :
    inorder (join left right) = inorder left ++ inorder right := by
  cases left with
  | nil => simp [join]
  | node leftValue leftLeft leftRight =>
      cases right with
      | nil => simp [join]
      | node value rightLeft rightRight =>
          simp only [join, inorder_node, popMin_cons]

/-- Erasing at an index erases there in the order of the elements. -/
theorem inorder_eraseIdx (i : Nat) (tree : BinaryTree α) :
    inorder (eraseIdx i tree) = (inorder tree).eraseIdx i := by
  induction tree generalizing i with
  | nil => simp [eraseIdx]
  | node value left right ihLeft ihRight =>
      rw [eraseIdx]
      split_ifs with hLess hEq
      · rw [inorder_node, ihLeft, inorder_node, List.eraseIdx_append_of_lt_length (by simpa)]
      · rw [inorder_join, inorder_node, List.eraseIdx_append_of_length_le (by simp; omega)]
        simp [hEq]
      · rw [inorder_node, ihRight, inorder_node, List.eraseIdx_append_of_length_le (by simp; omega)]
        obtain ⟨k, hk⟩ : ∃ k, i - left.numNodes = k + 1 := ⟨i - left.numNodes - 1, by omega⟩
        have hShift : i - (left.numNodes + 1) = k := by omega
        simp [hk, hShift]

/-! Membership facts that hold whatever order the tree is in. -/

/-- An insertion keeps what is there. -/
theorem mem_insert_of_mem {before : α → α → Bool} {x y : α} {tree : BinaryTree α}
    (h : y ∈ inorder tree) : y ∈ inorder (insert before x tree) := by
  induction tree with
  | nil => simp at h
  | node value left right ihLeft ihRight =>
      rw [insert]
      simp only [inorder_node, List.mem_append, List.mem_cons] at h
      split_ifs <;> simp only [inorder_node, List.mem_append, List.mem_cons] <;> tauto

/-- An insertion adds nothing but its element. -/
theorem mem_of_mem_insert {before : α → α → Bool} {x y : α} {tree : BinaryTree α}
    (h : y ∈ inorder (insert before x tree)) : y = x ∨ y ∈ inorder tree := by
  induction tree with
  | nil => simpa [insert] using h
  | node value left right ihLeft ihRight =>
      rw [insert] at h
      split_ifs at h <;> simp only [inorder_node, List.mem_append, List.mem_cons] at h ⊢ <;> tauto

/-- An element that the comparator orders against every stored one is inserted, even if
it claims to order equivalent elements too. -/
theorem insert_perm_of_ordered {before : α → α → Bool} {x : α} {tree : BinaryTree α}
    (hOrdered : ∀ y ∈ inorder tree, before x y = true ∨ before y x = true) :
    (inorder (insert before x tree)).Perm (x :: inorder tree) := by
  induction tree with
  | nil => exact List.Perm.refl _
  | node value left right ihLeft ihRight =>
      have hValue := hOrdered value (by simp)
      rw [insert]
      split_ifs with hLess hGreater
      · exact (ihLeft fun y hy => hOrdered y (by simp [hy])).append_right _
      · have hRight := ihRight fun y hy => hOrdered y (by simp [hy])
        have hFront : (value :: x :: inorder right).Perm (x :: value :: inorder right) :=
          List.Perm.swap x value (inorder right)
        exact (((hRight.cons value).trans hFront).append_left _).trans List.perm_middle
      · exact absurd hValue (by simp [hLess, hGreater])

/-- An order of the traversal survives an insertion if the comparator only ever goes by it. -/
theorem insert_pairwise {before : α → α → Bool} {x : α} {order : α → α → Prop}
    (hTrans : ∀ a b c, order a b → order b c → order a c) {tree : BinaryTree α}
    (hLess : ∀ y ∈ inorder tree, before x y = true → order x y)
    (hGreater : ∀ y ∈ inorder tree, before y x = true → order y x)
    (hPairwise : (inorder tree).Pairwise order) :
    (inorder (insert before x tree)).Pairwise order := by
  induction tree with
  | nil => simp [insert]
  | node value left right ihLeft ihRight =>
      obtain ⟨hLeft, hNode, hCross⟩ := List.pairwise_append.mp hPairwise
      obtain ⟨hAbove, hRight⟩ := List.pairwise_cons.mp hNode
      rw [insert]
      split_ifs with hGoLeft hGoRight
      · have hx := hLess value (by simp) hGoLeft
        have hInserted := ihLeft (fun y hy => hLess y (by simp [hy]))
          (fun y hy => hGreater y (by simp [hy])) hLeft
        refine List.pairwise_append.mpr ⟨hInserted, hNode, ?_⟩
        intro a ha b hb
        rcases mem_of_mem_insert ha with rfl | ha
        · rcases List.mem_cons.mp hb with rfl | hb
          · exact hx
          · exact hTrans _ _ _ hx (hAbove b hb)
        · exact hCross a ha b hb
      · have hx := hGreater value (by simp) hGoRight
        have hInserted := ihRight (fun y hy => hLess y (by simp [hy]))
          (fun y hy => hGreater y (by simp [hy])) hRight
        refine List.pairwise_append.mpr ⟨hLeft, List.pairwise_cons.mpr ⟨?_, hInserted⟩, ?_⟩
        · intro b hb
          rcases mem_of_mem_insert hb with rfl | hb
          · exact hx
          · exact hAbove b hb
        · intro a ha b hb
          have hValue := hCross a ha value (by simp)
          rcases List.mem_cons.mp hb with rfl | hb
          · exact hValue
          · rcases mem_of_mem_insert hb with rfl | hb
            · exact hTrans _ _ _ hValue hx
            · exact hCross a ha b (by simp [hb])
      · exact hPairwise

/-- An erasure adds nothing. -/
theorem mem_of_mem_erase {before : α → α → Bool} {x y : α} {tree : BinaryTree α}
    (h : y ∈ inorder (erase before x tree)) : y ∈ inorder tree := by
  rw [erase] at h
  split at h
  · split_ifs at h
    · exact h
    · rw [inorder_eraseIdx] at h
      exact List.mem_of_mem_eraseIdx h
  · exact h

/-- The search ends at an element that is stored. -/
theorem getElem?_of_lowerBound {before : α → α → Bool} {x value : α} {i : Nat} {tree : BinaryTree α}
    (h : lowerBound before x tree = some (i, value)) : (inorder tree)[i]? = some value := by
  induction tree generalizing i value with
  | nil => cases h
  | node root left right ihLeft ihRight =>
      rw [lowerBound] at h
      split_ifs at h
      · obtain ⟨⟨j, found⟩, hFound, hEq⟩ := Option.map_eq_some_iff.mp h
        obtain ⟨rfl, rfl⟩ := Prod.ext_iff.mp hEq
        have hShift : left.numNodes + 1 + j - left.numNodes = j + 1 := by omega
        rw [inorder_node, List.getElem?_append_right (by simp; omega), length_inorder, hShift]
        exact ihRight hFound
      · cases hLeft : lowerBound before x left with
        | none =>
            rw [hLeft] at h
            obtain ⟨rfl, rfl⟩ := Prod.ext_iff.mp (Option.some.inj h)
            simp
        | some found =>
            rw [hLeft] at h
            have hFound := ihLeft (hLeft.trans h)
            rw [inorder_node, List.getElem?_append_left (List.getElem?_eq_some_iff.mp hFound).1]
            exact hFound

/-- An element is gone after it was erased if it was stored once, where the search for
it ends, or not at all. -/
theorem not_mem_erase_iff [DecidableEq α] {before : α → α → Bool} {x : α} {tree : BinaryTree α}
    (hSelf : before x x = false) :
    x ∉ inorder (erase before x tree) ↔ x ∉ inorder tree ∨
      (inorder tree).count x = 1 ∧ (lowerBound before x tree).map Prod.snd = some x := by
  rw [erase]
  cases hFound : lowerBound before x tree with
  | none => simp
  | some found =>
      obtain ⟨i, value⟩ := found
      have hValue := getElem?_of_lowerBound hFound
      by_cases hLess : before x value = true
      · have hNe : value ≠ x := by
          rintro rfl
          rw [hSelf] at hLess
          cases hLess
        simp [hLess, hNe]
      · obtain ⟨hIdx, hIs⟩ := List.getElem?_eq_some_iff.mp hValue
        have hCount := (List.getElem_cons_eraseIdx_perm hIdx).count_eq x
        rw [hIs, List.count_cons] at hCount
        simp only [hLess, Bool.false_eq_true, ↓reduceIte, inorder_eraseIdx, ← List.count_eq_zero,
          Option.map_some, Option.some.injEq]
        by_cases hSame : value = x
        · simp only [hSame, beq_self_eq_true, ↓reduceIte] at hCount
          simp only [hSame, and_true]
          omega
        · simp only [beq_iff_eq, hSame, ↓reduceIte] at hCount
          simp only [hSame, and_false, or_false]
          omega

/-- Where at most one element is wanted, a scan finds it. -/
theorem find?_eq_some_of_exclusive {list : List α} {wanted : α → Bool} {x : α}
    (hExclusive : list.Pairwise fun a b => ¬ (wanted a = true ∧ wanted b = true)) (hMem : x ∈ list)
    (hWanted : wanted x = true) : list.find? wanted = some x := by
  induction list with
  | nil => cases hMem
  | cons head tail ih =>
      obtain ⟨hHead, hTail⟩ := List.pairwise_cons.mp hExclusive
      rcases List.mem_cons.mp hMem with rfl | hLater
      · exact List.find?_cons_of_pos hWanted
      · have hPassed : ¬ wanted head = true := fun hFirst => hHead x hLater ⟨hFirst, hWanted⟩
        rw [List.find?_cons_of_neg hPassed]
        exact ih hTail hLater

/-! The same operations on a tree whose traversal is ascending. -/

section Ascending

variable [LinearOrder κ] (key : α → κ)

/-- The traversal is strictly ascending, so no two elements share a key. -/
def Ascending (list : List α) : Prop := list.Pairwise fun a b => key a < key b

/-- The comparator compares `x` with each listed element by their keys. -/
def ComparesByKey (before : α → α → Bool) (x : α) (list : List α) : Prop :=
  ∀ y ∈ list, (before x y = true ↔ key x < key y) ∧ (before y x = true ↔ key y < key x)

variable {key} {before : α → α → Bool} {x : α}

/-- An order that holds among elements holds among fewer of them. -/
theorem ComparesByKey.mono {list rest : List α} (h : ComparesByKey key before x list)
    (hSub : rest ⊆ list) : ComparesByKey key before x rest :=
  fun y hy => h y (hSub hy)

/-- A tree ascends when both sides do, and its value lies between them. -/
theorem ascending_node {value : α} {left right : BinaryTree α} :
    Ascending key (inorder (.node value left right)) ↔
      Ascending key (inorder left) ∧ Ascending key (inorder right) ∧
      (∀ y ∈ inorder left, key y < key value) ∧ (∀ y ∈ inorder right, key value < key y) := by
  simp only [Ascending, inorder_node, List.pairwise_append, List.pairwise_cons, List.mem_cons]
  constructor
  · rintro ⟨hLeft, ⟨hValue, hRight⟩, hCross⟩
    exact ⟨hLeft, hRight, fun y hy => hCross y hy value (Or.inl rfl), hValue⟩
  · rintro ⟨hLeft, hRight, hBelow, hAbove⟩
    refine ⟨hLeft, ⟨hAbove, hRight⟩, ?_⟩
    rintro a ha b (rfl | hb)
    · exact hBelow a ha
    · exact (hBelow a ha).trans (hAbove b hb)

/-- A scan from the end stops at the greatest element it looks for. -/
theorem find?_reverse_eq_some {list : List α} (hAsc : Ascending key list) {wanted : α → Bool} :
    list.reverse.find? wanted = some x ↔
      x ∈ list ∧ wanted x = true ∧ ∀ y ∈ list, wanted y = true → y ≠ x → key y < key x := by
  have hFound : ∀ {z}, list.reverse.find? wanted = some z →
      ∀ y ∈ list, wanted y = true → y ≠ z → key y < key z := by
    intro z hFind y hy hWanted hNe
    obtain ⟨-, before, after, hScan, hBefore⟩ := List.find?_eq_some_iff_append.mp hFind
    have hDesc := List.pairwise_reverse.mpr hAsc
    rw [hScan, List.pairwise_append, List.pairwise_cons] at hDesc
    have hMem : y ∈ before ++ z :: after := by
      rw [← hScan, List.mem_reverse]
      exact hy
    simp only [List.mem_append, List.mem_cons, hNe, false_or] at hMem
    cases hMem with
    | inl hEarlier =>
        have hPassed := hBefore y hEarlier
        simp [hWanted] at hPassed
    | inr hLater => exact hDesc.2.1.1 y hLater
  constructor
  · intro hFind
    exact ⟨List.mem_reverse.mp (List.mem_of_find?_eq_some hFind), List.find?_some hFind, hFound hFind⟩
  · intro ⟨hMem, hWanted, hGreatest⟩
    cases hFind : list.reverse.find? wanted with
    | none => exact absurd hWanted (List.find?_eq_none.mp hFind x (List.mem_reverse.mpr hMem))
    | some z =>
        by_contra hOther
        have hNe : x ≠ z := fun hIs => hOther (congrArg some hIs.symm)
        have hLess := hFound hFind x hMem hWanted hNe
        have hMore := hGreatest z (List.mem_reverse.mp (List.mem_of_find?_eq_some hFind))
          (List.find?_some hFind) hNe.symm
        exact lt_asymm hLess hMore

/-- The order survives an insertion. -/
theorem insert_ascending {tree : BinaryTree α} (hAsc : Ascending key (inorder tree))
    (hCmp : ComparesByKey key before x (inorder tree)) :
    Ascending key (inorder (insert before x tree)) := by
  have hTrans : ∀ a b c, key a < key b → key b < key c → key a < key c := fun _ _ _ => lt_trans
  exact insert_pairwise hTrans (fun y hy => (hCmp y hy).1.mp) (fun y hy => (hCmp y hy).2.mp) hAsc

/-- A key that is not stored yet is inserted, and nothing else comes or goes with it. -/
theorem insert_perm {tree : BinaryTree α} (hCmp : ComparesByKey key before x (inorder tree))
    (hNew : ∀ y ∈ inorder tree, key y ≠ key x) :
    (inorder (insert before x tree)).Perm (x :: inorder tree) := by
  refine insert_perm_of_ordered fun y hy => ?_
  rcases lt_or_gt_of_ne (hNew y hy) with hBelow | hAbove
  · exact Or.inr ((hCmp y hy).2.mpr hBelow)
  · exact Or.inl ((hCmp y hy).1.mpr hAbove)

/-- An element of a new key is inserted. -/
theorem mem_insert_self {tree : BinaryTree α} (hCmp : ComparesByKey key before x (inorder tree))
    (hNew : ∀ y ∈ inorder tree, key y ≠ key x) : x ∈ inorder (insert before x tree) :=
  (insert_perm hCmp hNew).mem_iff.mpr List.mem_cons_self

/-- In an ascending tree the search ends at the first element not below `x`. -/
theorem lowerBound_ascending {tree : BinaryTree α} (hAsc : Ascending key (inorder tree))
    (hCmp : ComparesByKey key before x (inorder tree)) :
    match lowerBound before x tree with
    | some (i, value) => (inorder tree)[i]? = some value ∧ key x ≤ key value ∧
        ∀ y ∈ inorder tree, key y < key value → key y < key x
    | none => ∀ y ∈ inorder tree, key y < key x := by
  induction tree with
  | nil => simp [lowerBound]
  | node value left right ihLeft ihRight =>
      obtain ⟨hLeft, hRight, hBelow, hAbove⟩ := ascending_node.mp hAsc
      have hSubLeft : inorder left ⊆ inorder (.node value left right) := by simp
      have hSubRight : inorder right ⊆ inorder (.node value left right) := by
        intro y hy
        simp [hy]
      have hValue := hCmp value (by simp)
      rw [lowerBound]
      split_ifs with hLess
      · have hx := hValue.2.mp hLess
        have hi := ihRight hRight (hCmp.mono hSubRight)
        -- Only the right subtree has elements that are not below `x`.
        have hOthers : ∀ y ∈ inorder (.node value left right), key y < key x ∨ y ∈ inorder right := by
          intro y hy
          simp only [inorder_node, List.mem_append, List.mem_cons] at hy
          rcases hy with hy | rfl | hy
          · exact Or.inl ((hBelow y hy).trans hx)
          · exact Or.inl hx
          · exact Or.inr hy
        cases hFound : lowerBound before x right with
        | none =>
            simp only [hFound] at hi
            simp only [Option.map_none]
            exact fun y hy => (hOthers y hy).elim id (hi y)
        | some found =>
            obtain ⟨i, found⟩ := found
            simp only [hFound] at hi
            obtain ⟨hIdx, hLe, hFirst⟩ := hi
            simp only [Option.map_some]
            refine ⟨?_, hLe, ?_⟩
            · rw [inorder_node, List.getElem?_append_right (by simp; omega)]
              simpa [show left.numNodes + 1 + i - left.numNodes = i + 1 by omega] using hIdx
            · intro y hy hLt
              exact (hOthers y hy).elim id fun hy => hFirst y hy hLt
      · have hx : key x ≤ key value := not_lt.mp (fun h => hLess (hValue.2.mpr h))
        have hi := ihLeft hLeft (hCmp.mono hSubLeft)
        -- Only the left subtree has elements below the root.
        have hOthers : ∀ y ∈ inorder (.node value left right), key y < key value → y ∈ inorder left := by
          intro y hy hLt
          simp only [inorder_node, List.mem_append, List.mem_cons] at hy
          rcases hy with hy | rfl | hy
          · exact hy
          · exact absurd hLt (lt_irrefl _)
          · exact absurd (hLt.trans (hAbove y hy)) (lt_irrefl _)
        cases hFound : lowerBound before x left with
        | none =>
            simp only [hFound] at hi
            simp only [Option.getD_none]
            refine ⟨by simp, hx, ?_⟩
            intro y hy hLt
            exact hi y (hOthers y hy hLt)
        | some found =>
            obtain ⟨i, found⟩ := found
            simp only [hFound] at hi
            obtain ⟨hIdx, hLe, hFirst⟩ := hi
            simp only [Option.getD_some]
            have hi : i < (inorder left).length := (List.getElem?_eq_some_iff.mp hIdx).1
            have hFoundBelow := hBelow found (List.mem_of_getElem? hIdx)
            refine ⟨by rw [inorder_node, List.getElem?_append_left hi, hIdx], hLe, ?_⟩
            intro y hy hLt
            exact hFirst y (hOthers y hy (hLt.trans hFoundBelow)) hLt

/-- Erasing a position of an ascending list removes exactly the elements with that key. -/
theorem eraseIdx_eq_filter {list : List α} {i : Nat} {value : α} (hAsc : Ascending key list)
    (h : list[i]? = some value) :
    list.eraseIdx i = list.filter fun y => key y ≠ key value := by
  induction list generalizing i with
  | nil => simp at h
  | cons head tail ih =>
      obtain ⟨hHead, hTail⟩ := List.pairwise_cons.mp hAsc
      cases i with
      | zero =>
          obtain rfl : head = value := by simpa using h
          have hKeep : tail.filter (fun y => key y ≠ key head) = tail :=
            List.filter_eq_self.mpr fun y hy => by simpa using (hHead y hy).ne'
          rw [List.eraseIdx_cons_zero, List.filter_cons_of_neg (by simp), hKeep]
      | succ i =>
          have hMem : tail[i]? = some value := by simpa using h
          have hNe : key head ≠ key value := (hHead value (List.mem_of_getElem? hMem)).ne
          simp [hNe, ih hTail hMem]

/-- Erasing by key removes exactly the element with that key, if it is stored. -/
theorem inorder_erase_ascending {tree : BinaryTree α} (hAsc : Ascending key (inorder tree))
    (hCmp : ComparesByKey key before x (inorder tree)) :
    inorder (erase before x tree) = (inorder tree).filter fun y => key y ≠ key x := by
  have hBound := lowerBound_ascending hAsc hCmp
  rw [erase]
  cases hFound : lowerBound before x tree with
  | none =>
      simp only [hFound] at hBound
      exact (List.filter_eq_self.mpr fun y hy => by simpa using (hBound y hy).ne).symm
  | some found =>
      obtain ⟨i, value⟩ := found
      simp only [hFound] at hBound
      obtain ⟨hIdx, hLe, hFirst⟩ := hBound
      have hValue := hCmp value (List.mem_of_getElem? hIdx)
      simp only
      split_ifs with hLess
      · have hx := hValue.1.mp hLess
        refine (List.filter_eq_self.mpr fun y hy => ?_).symm
        have hNe : key y ≠ key x := by
          intro hEq
          exact absurd (hFirst y hy (hEq ▸ hx)) (by simp [hEq])
        simpa using hNe
      · have hEq : key value = key x := le_antisymm (not_lt.mp (fun h => hLess (hValue.1.mpr h))) hLe
        rw [inorder_eraseIdx, eraseIdx_eq_filter hAsc hIdx, hEq]

end Ascending

end SearchTree
