import Mathlib.Logic.Hydra
import Mathlib.Order.WellFoundedSet

/-! A queue search that remembers only the marked nodes it has seen. Unmarked
nodes are expanded each time they come up, so the search ends when no cycle runs
through unmarked nodes alone. -/
namespace QueueSearch

open Relation

variable {α κ : Type*} (key : α → κ) (marked : α → Bool) (succ : α → List α)

def Reach : α → α → Prop := ReflTransGen fun node next => next ∈ succ node

/-- An edge that the search may follow again and again. -/
def UnmarkedEdge (node next : α) : Prop := marked node = false ∧ next ∈ succ node

/-- No other reachable node has the key of a reachable marked one. -/
def Separate (start : α) : Prop :=
  ∀ node other, Reach succ start node → Reach succ start other → marked node = true →
    key other = key node → other = node

variable {key marked succ}
variable {visited : Finset κ} {queue found result : List α} {start node target : α}
variable {fuel length position : ℕ}

/-! What is found is marked and reachable, once for each key. -/

variable (key marked succ) in
structure Sound (start : α) (visited : Finset κ) (queue found : List α) : Prop where
  reach : ∀ node ∈ queue, Reach succ start node
  exact : ∀ node ∈ found, marked node = true ∧ Reach succ start node
  owner : ∀ k ∈ visited, ∃ node ∈ found, key node = k
  seen : ∀ node ∈ found, key node ∈ visited
  distinct : (found.map key).Nodup

/-- The search begins with a node that is reached. -/
theorem reach_start : ∀ node ∈ [start], Reach succ start node := by
  intro node hNode
  rw [List.mem_singleton.mp hNode]
  exact .refl

/-- Nothing is found or visited at the beginning. -/
theorem sound_start (start : α) : Sound key marked succ start ∅ [start] [] :=
  ⟨reach_start, by simp, by simp, by simp, List.nodup_nil⟩

/-- Dropping a node that was visited keeps the search sound. -/
theorem Sound.skip (h : Sound key marked succ start visited (node :: queue) found) :
    Sound key marked succ start visited queue found :=
  { h with reach := fun other hOther => h.reach other (List.mem_cons_of_mem _ hOther) }

/-- The key of an unmarked node is never remembered. -/
theorem Sound.notMem_of_unmarked (h : Sound key marked succ start visited queue found)
    (hSeparate : Separate key marked succ start) (hReach : Reach succ start node)
    (hMarked : marked node = false) : key node ∉ visited := by
  intro hSeen
  obtain ⟨owner, hOwner, hKey⟩ := h.owner _ hSeen
  obtain ⟨hOwnerMarked, hOwnerReach⟩ := h.exact owner hOwner
  obtain rfl := hSeparate owner node hOwnerReach hReach hOwnerMarked hKey.symm
  exact Bool.noConfusion (hMarked.symm.trans hOwnerMarked)

/-! A node that is still to be found hangs on a path of unseen nodes from the queue. -/

/-- A path of some length through nodes whose keys are not visited, its ends included. -/
inductive UnseenPath (key : α → κ) (succ : α → List α) (visited : Finset κ) : ℕ → α → α → Prop where
  | here {node : α} (hNew : key node ∉ visited) : UnseenPath key succ visited 0 node node
  | step {node next target : α} {length : ℕ} (hNew : key node ∉ visited) (hNext : next ∈ succ node)
      (rest : UnseenPath key succ visited length next target) :
      UnseenPath key succ visited (length + 1) node target

/-- The first node of such a path is unseen. -/
theorem UnseenPath.unseen (path : UnseenPath key succ visited length node target) :
    key node ∉ visited := by
  cases path with
  | here hNew => exact hNew
  | step hNew hNext rest => exact hNew

/-- Before anything is visited, every way to a node is unseen. -/
theorem UnseenPath.of_reach (h : Reach succ node target) :
    ∃ length, UnseenPath key succ ∅ length node target := by
  induction h using ReflTransGen.head_induction_on with
  | refl => exact ⟨0, .here (Finset.notMem_empty _)⟩
  | head hNext _ ih =>
      obtain ⟨length, path⟩ := ih
      exact ⟨length + 1, .step (Finset.notMem_empty _) hNext path⟩

variable (key succ) in
/-- The length of the path and the position of its start, which every iteration lowers. -/
def PendingAt (visited : Finset κ) (queue : List α) (target : α) (length position : ℕ) : Prop :=
  ∃ node, queue[position]? = some node ∧ UnseenPath key succ visited length node target

variable (key succ) in
def Pending (visited : Finset κ) (queue : List α) (target : α) : Prop :=
  ∃ length position, PendingAt key succ visited queue target length position

/-- Every node that is reached is pending at the beginning. -/
theorem pending_start (h : Reach succ start target) : Pending key succ ∅ [start] target := by
  obtain ⟨length, path⟩ := UnseenPath.of_reach h
  exact ⟨length, 0, start, rfl, path⟩

/-- With an empty queue nothing is pending. -/
theorem not_pending_nil : ¬ Pending key succ visited [] target := by
  rintro ⟨length, position, node, hAt, -⟩
  cases hAt

/-- A path does not begin at a visited node, so that it moves up when one is dropped. -/
theorem PendingAt.skip (h : PendingAt key succ visited (node :: queue) target length position)
    (hSeen : key node ∈ visited) :
    ∃ next < position, PendingAt key succ visited queue target length next := by
  obtain ⟨other, hAt, path⟩ := h
  cases position with
  | zero =>
      obtain rfl := Option.some.inj hAt
      exact absurd hSeen path.unseen
  | succ position => exact ⟨position, Nat.lt_succ_self _, other, hAt, path⟩

/-- What is pending stays so when a visited node is dropped. -/
theorem Pending.skip (h : Pending key succ visited (node :: queue) target) (hSeen : key node ∈ visited) :
    Pending key succ visited queue target := by
  obtain ⟨length, position, hAt⟩ := h
  obtain ⟨next, -, hNext⟩ := hAt.skip hSeen
  exact ⟨length, next, hNext⟩

variable [DecidableEq κ]

variable (key marked succ)

def remember (visited : Finset κ) (node : α) : Finset κ :=
  if marked node then insert (key node) visited else visited

def collect (found : List α) (node : α) : List α :=
  if marked node then found ++ [node] else found

/-- The successors that still go to the queue. -/
def fresh (visited : Finset κ) (node : α) : List α :=
  (succ node).filter fun next => key next ∉ visited

/-- The search, within a number of iterations. -/
def search : Nat → Finset κ → List α → List α → Option (List α)
  | _, _, [], found => some found
  | 0, _, _ :: _, _ => none
  | fuel + 1, visited, node :: queue, found =>
      if key node ∈ visited then search fuel visited queue found
      else
        let visited' := remember key marked visited node
        search fuel visited' (queue ++ fresh key succ visited' node) (collect marked found node)

variable {key marked succ}

/-- What every iteration keeps holds of the result, with an empty queue. -/
theorem search_invariant (inv : Finset κ → List α → List α → Prop)
    (hSkip : ∀ visited node queue found, inv visited (node :: queue) found → key node ∈ visited →
      inv visited queue found)
    (hExpand : ∀ visited node queue found, inv visited (node :: queue) found → key node ∉ visited →
      inv (remember key marked visited node)
        (queue ++ fresh key succ (remember key marked visited node) node) (collect marked found node))
    (hRun : search key marked succ fuel visited queue found = some result)
    (h : inv visited queue found) : ∃ visited', inv visited' [] result := by
  induction fuel generalizing visited queue found with
  | zero =>
      cases queue with
      | nil => exact ⟨visited, Option.some.inj hRun ▸ h⟩
      | cons node queue => cases hRun
  | succ fuel ih =>
      cases queue with
      | nil => exact ⟨visited, Option.some.inj hRun ▸ h⟩
      | cons node queue =>
          rw [search] at hRun
          split_ifs at hRun with hVisited
          · exact ih hRun (hSkip _ _ _ _ h hVisited)
          · exact ih hRun (hExpand _ _ _ _ h hVisited)

/-- The fresh nodes are the successors that were not visited. -/
theorem mem_fresh {next : α} :
    next ∈ fresh key succ visited node ↔ next ∈ succ node ∧ key next ∉ visited := by
  simp [fresh]

/-- A node is collected when it is marked. -/
theorem mem_collect {other : α} :
    other ∈ collect marked found node ↔ other ∈ found ∨ marked node = true ∧ other = node := by
  rw [collect]
  split_ifs with hMarked <;> simp [hMarked]

/-- Only a marked node is remembered as visited. -/
theorem mem_remember {k : κ} :
    k ∈ remember key marked visited node ↔ k ∈ visited ∨ marked node = true ∧ k = key node := by
  rw [remember]
  split_ifs with hMarked <;> simp [hMarked, or_comm]

/-- Expanding an unseen node keeps the search sound. -/
theorem Sound.expand (h : Sound key marked succ start visited (node :: queue) found)
    (hNew : key node ∉ visited) :
    Sound key marked succ start (remember key marked visited node)
      (queue ++ fresh key succ (remember key marked visited node) node) (collect marked found node) where
  reach := by
    intro other hOther
    rcases List.mem_append.mp hOther with hOld | hNext
    · exact h.reach other (List.mem_cons_of_mem _ hOld)
    · exact (h.reach node List.mem_cons_self).tail (mem_fresh.mp hNext).1
  exact := by
    intro other hOther
    rcases mem_collect.mp hOther with hOld | ⟨hMarked, rfl⟩
    · exact h.exact other hOld
    · exact ⟨hMarked, h.reach other List.mem_cons_self⟩
  owner := by
    intro k hKey
    rcases mem_remember.mp hKey with hOld | ⟨hMarked, rfl⟩
    · obtain ⟨other, hOther, hIs⟩ := h.owner k hOld
      exact ⟨other, mem_collect.mpr (Or.inl hOther), hIs⟩
    · exact ⟨node, mem_collect.mpr (Or.inr ⟨hMarked, rfl⟩), rfl⟩
  seen := by
    intro other hOther
    rcases mem_collect.mp hOther with hOld | ⟨hMarked, rfl⟩
    · exact mem_remember.mpr (Or.inl (h.seen other hOld))
    · exact mem_remember.mpr (Or.inr ⟨hMarked, rfl⟩)
  distinct := by
    rw [collect]
    split_ifs
    · rw [List.map_append, List.map_singleton, List.nodup_append_comm]
      refine List.nodup_cons.mpr ⟨fun hMem => ?_, h.distinct⟩
      obtain ⟨other, hOther, hIs⟩ := List.mem_map.mp hMem
      exact hNew (hIs ▸ h.seen other hOther)
    · exact h.distinct

/-- The result of a search that ends is sound. -/
theorem search_sound (hRun : search key marked succ fuel ∅ [start] [] = some result) :
    ∃ visited, Sound key marked succ start visited [] result :=
  search_invariant (Sound key marked succ start) (fun _ _ _ _ h _ => h.skip)
    (fun _ _ _ _ h hNew => h.expand hNew) hRun (sound_start start)

/-- Visiting one more key leaves a path alone, or cuts it at a node of that key. -/
theorem UnseenPath.remember (path : UnseenPath key succ visited length node target) (k : κ) :
    UnseenPath key succ (insert k visited) length node target ∨
      ∃ cut, key cut = k ∧ Reach succ node cut ∧
        (target = cut ∨ ∃ next ∈ succ cut, ∃ rest < length,
          UnseenPath key succ (insert k visited) rest next target) := by
  induction path with
  | @here node hNew =>
      by_cases hKey : key node = k
      · exact Or.inr ⟨node, hKey, .refl, Or.inl rfl⟩
      · exact Or.inl (.here (by simp [hKey, hNew]))
  | @step node next target length hNew hNext rest ih =>
      rcases ih with path | ⟨cut, hCut, hReach, hRest⟩
      · by_cases hKey : key node = k
        · exact Or.inr ⟨node, hKey, .refl, Or.inr ⟨next, hNext, length, Nat.lt_succ_self _, path⟩⟩
        · exact Or.inl (.step (by simp [hKey, hNew]) hNext path)
      · refine Or.inr ⟨cut, hCut, hReach.head hNext, hRest.imp_right ?_⟩
        rintro ⟨other, hOther, shorter, hShorter, path⟩
        exact ⟨other, hOther, shorter, Nat.lt_succ_of_lt hShorter, path⟩

/-- A successor that was not visited is in the queue. -/
theorem pendingAt_fresh {next : α} {rest : ℕ} (hNext : next ∈ succ node)
    (path : UnseenPath key succ visited rest next target) :
    ∃ position, PendingAt key succ visited (queue ++ fresh key succ visited node) target rest
      position := by
  have hMem : next ∈ queue ++ fresh key succ visited node :=
    List.mem_append_right _ (mem_fresh.mpr ⟨hNext, path.unseen⟩)
  obtain ⟨position, hAt⟩ := List.getElem?_of_mem hMem
  exact ⟨position, next, hAt, path⟩

/-- Expanding a node finds the target, or leaves it pending closer by. -/
theorem PendingAt.expand (hSeparate : Separate key marked succ start)
    (hQueue : ∀ other ∈ node :: queue, Reach succ start other)
    (h : PendingAt key succ visited (node :: queue) target length position) :
    target = node ∨ ∃ length' position',
      PendingAt key succ (QueueSearch.remember key marked visited node)
        (queue ++ fresh key succ (QueueSearch.remember key marked visited node) node) target length'
        position' ∧ (length' < length ∨ length' = length ∧ position' < position) := by
  obtain ⟨other, hAt, path⟩ := h
  have hOther : other ∈ node :: queue := List.mem_of_getElem? hAt
  have hStay : ∀ {visited more}, UnseenPath key succ visited length other target → position ≠ 0 →
      ∃ length' position', PendingAt key succ visited (queue ++ more) target length' position' ∧
        (length' < length ∨ length' = length ∧ position' < position) := by
    intro visited more path hPosition
    obtain ⟨before, rfl⟩ := Nat.exists_eq_succ_of_ne_zero hPosition
    refine ⟨length, before, ⟨other, ?_, path⟩, Or.inr ⟨rfl, Nat.lt_succ_self _⟩⟩
    rw [Nat.succ_eq_add_one, List.getElem?_cons_succ] at hAt
    rw [List.getElem?_append_left (List.getElem?_eq_some_iff.mp hAt).1]
    exact hAt
  have hFollow : ∀ {visited next rest}, next ∈ succ node → rest < length →
      UnseenPath key succ visited rest next target → ∃ length' position',
        PendingAt key succ visited (queue ++ fresh key succ visited node) target length' position' ∧
          (length' < length ∨ length' = length ∧ position' < position) := by
    intro visited next rest hNext hLess path
    obtain ⟨found, hFound⟩ := pendingAt_fresh hNext path
    exact ⟨rest, found, hFound, Or.inl hLess⟩
  rw [QueueSearch.remember]
  split_ifs with hMarked
  · rcases path.remember (key node) with path | ⟨cut, hCut, hReach, hRest⟩
    · refine Or.inr (hStay path ?_)
      rintro rfl
      obtain rfl := Option.some.inj hAt
      exact path.unseen (Finset.mem_insert_self _ _)
    · obtain rfl := hSeparate node cut (hQueue node List.mem_cons_self)
        ((hQueue other hOther).trans hReach) hMarked hCut
      exact hRest.imp_right fun ⟨_, hNext, _, hLess, path⟩ => hFollow hNext hLess path
  · by_cases hPosition : position = 0
    · subst hPosition
      obtain rfl := Option.some.inj hAt
      cases path with
      | here hNew => exact Or.inl rfl
      | step hNew hNext rest => exact Or.inr (hFollow hNext (Nat.lt_succ_self _) rest)
    · exact Or.inr (hStay path hPosition)

/-- What is pending is the expanded node itself, or pending still. -/
theorem Pending.expand (hSeparate : Separate key marked succ start)
    (hQueue : ∀ other ∈ node :: queue, Reach succ start other)
    (h : Pending key succ visited (node :: queue) target) :
    target = node ∨ Pending key succ (QueueSearch.remember key marked visited node)
      (queue ++ fresh key succ (QueueSearch.remember key marked visited node) node) target := by
  obtain ⟨length, position, hAt⟩ := h
  exact (hAt.expand hSeparate hQueue).imp_right fun ⟨length', position', hNext, _⟩ =>
    ⟨length', position', hNext⟩

/-- Every marked node that can be reached is found. -/
theorem search_complete (hSeparate : Separate key marked succ start)
    (hRun : search key marked succ fuel ∅ [start] [] = some result) (hReach : Reach succ start target)
    (hMarked : marked target = true) : target ∈ result := by
  obtain ⟨_, -, hFound⟩ := search_invariant
    (fun visited queue found => Sound key marked succ start visited queue found ∧
      (target ∈ found ∨ Pending key succ visited queue target))
    (fun _ _ _ _ h hSeen => ⟨h.1.skip, h.2.imp_right fun hPending => hPending.skip hSeen⟩)
    (fun visited node queue found h hNew => by
      refine ⟨h.1.expand hNew, ?_⟩
      rcases h.2 with hFound | hPending
      · exact Or.inl (mem_collect.mpr (Or.inl hFound))
      · rcases hPending.expand hSeparate h.1.reach with rfl | hPending
        · exact Or.inl (mem_collect.mpr (Or.inr ⟨hMarked, rfl⟩))
        · exact Or.inr hPending)
    hRun ⟨sound_start start, Or.inr (pending_start hReach)⟩
  exact hFound.resolve_right not_pending_nil

/-- What is found are the marked nodes that can be reached, once each. -/
theorem search_exact (hSeparate : Separate key marked succ start)
    (hRun : search key marked succ fuel ∅ [start] [] = some result) :
    (∀ node, node ∈ result ↔ marked node = true ∧ Reach succ start node) ∧
      (result.map key).Nodup := by
  obtain ⟨_, hSound⟩ := search_sound hRun
  refine ⟨fun node => ⟨hSound.exact node, fun ⟨hMarked, hReach⟩ => ?_⟩, hSound.distinct⟩
  exact search_complete hSeparate hRun hReach hMarked

/-- A cycle of unmarked nodes goes on through the successor of each of its nodes. -/
theorem exists_next_of_cycle (hCycle : TransGen (UnmarkedEdge marked succ) node node) :
    ∃ next, marked node = false ∧ next ∈ succ node ∧
      TransGen (UnmarkedEdge marked succ) next next := by
  obtain ⟨next, hEdge, hBack⟩ := TransGen.head'_iff.mp hCycle
  exact ⟨next, hEdge.1, hEdge.2, TransGen.tail' hBack hEdge⟩

/-- A search that ends has no cycle of unmarked nodes to follow. -/
theorem not_transGen_of_search (hSeparate : Separate key marked succ start)
    (hRun : search key marked succ fuel ∅ [start] [] = some result) (hReach : Reach succ start node) :
    ¬ TransGen (UnmarkedEdge marked succ) node node := by
  intro hCycle
  obtain ⟨_, -, target, -, hPending⟩ := search_invariant
    (fun visited queue found => Sound key marked succ start visited queue found ∧
      ∃ target, TransGen (UnmarkedEdge marked succ) target target ∧
        Pending key succ visited queue target)
    (fun _ _ _ _ ⟨hSound, target, hCycle, hPending⟩ hSeen =>
      ⟨hSound.skip, target, hCycle, hPending.skip hSeen⟩)
    (fun visited node queue found ⟨hSound, target, hCycle, hPending⟩ hNew => by
      refine ⟨hSound.expand hNew, ?_⟩
      rcases hPending.expand hSeparate hSound.reach with rfl | hPending
      · -- The node lies on the cycle itself, and its successor there takes over.
        obtain ⟨next, hUnmarked, hNext, hNextCycle⟩ := exists_next_of_cycle hCycle
        obtain ⟨_, hNextUnmarked, -, -⟩ := exists_next_of_cycle hNextCycle
        have hUnseen : key next ∉ visited := hSound.skip.notMem_of_unmarked hSeparate
          ((hSound.reach target List.mem_cons_self).tail hNext) hNextUnmarked
        have hRemember : QueueSearch.remember key marked visited target = visited := by
          simp [QueueSearch.remember, hUnmarked]
        rw [hRemember]
        exact ⟨next, hNextCycle, 0, pendingAt_fresh hNext (.here hUnseen)⟩
      · exact ⟨target, hCycle, hPending⟩)
    hRun ⟨sound_start start, node, hCycle, pending_start hReach⟩
  exact not_pending_nil hPending

/-! Termination: remembering uses up the keys of the reachable nodes, and without
remembering the queue trades a node for nodes further down the unmarked edges. -/

/-- The order in which a queue shrinks when a node gives way to lower ones. -/
theorem cutExpand_append {lower : α → α → Prop} {more : List α} (h : ∀ next ∈ more, lower next node) :
    CutExpand lower (queue ++ more : List α) (node :: queue : List α) := by
  refine ⟨more, node, h, ?_⟩
  rw [add_comm, Multiset.singleton_add, Multiset.cons_coe, Multiset.coe_add, List.cons_append]

section termination

variable (hFinite : {node | Reach succ start node}.Finite)
  (hAcyclic : ∀ node, Reach succ start node → ¬ TransGen (UnmarkedEdge marked succ) node node)

include hFinite hAcyclic

/-- Without a cycle of unmarked nodes, the edges from them are well founded. -/
theorem wellFounded_unmarkedEdge :
    WellFounded fun next node : α => Reach succ start node ∧ UnmarkedEdge marked succ node next := by
  let deeper (next node : {node | Reach succ start node}) : Prop :=
    TransGen (UnmarkedEdge marked succ) node.1 next.1
  have hNodes : WellFounded deeper := by
    have := hFinite.to_subtype
    have hTrans : IsTrans _ deeper := ⟨fun _ _ _ hLeft hRight => hRight.trans hLeft⟩
    have hIrrefl : Std.Irrefl deeper := ⟨fun node => hAcyclic node.1 node.2⟩
    exact Finite.wellFounded_of_trans_of_irrefl _
  refine Subrelation.wf ?_ (Set.wellFoundedOn_iff.mp
    (show {node | Reach succ start node}.WellFoundedOn
      fun next node => TransGen (UnmarkedEdge marked succ) node next from hNodes))
  intro next node ⟨hReach, hEdge⟩
  exact ⟨.single hEdge, hReach.tail hEdge.2, hReach⟩

/-- The search ends from any point: the induction is on the number of keys that are left, and within
it on the unmarked nodes. -/
theorem search_ends_of_card (n : ℕ) :
    ∀ visited : Finset κ, (hFinite.toFinset.image key \ visited).card = n →
      ∀ queue : List α, (∀ node ∈ queue, Reach succ start node) →
        ∀ found, ∃ fuel result, search key marked succ fuel visited queue found = some result := by
  induction n using Nat.strong_induction_on with
  | _ n ihCard =>
      intro visited hCard queue
      generalize hBag : (queue : Multiset α) = bag
      induction bag using (wellFounded_unmarkedEdge hFinite hAcyclic).cutExpand.induction
        generalizing queue with
      | _ bag ihQueue =>
          subst hBag
          intro hReach found
          cases queue with
          | nil => exact ⟨0, found, rfl⟩
          | cons node queue =>
              have hTail : ∀ other ∈ queue, Reach succ start other := fun other hOther =>
                hReach other (List.mem_cons_of_mem _ hOther)
              have hNode : Reach succ start node := hReach node List.mem_cons_self
              have hSkip : CutExpand (fun next node => Reach succ start node ∧
                  UnmarkedEdge marked succ node next) (queue : Multiset α)
                  (node :: queue : List α) := by
                have hNone := @cutExpand_append _ queue node (fun next node => Reach succ start node ∧
                  UnmarkedEdge marked succ node next) [] fun next hNext => absurd hNext List.not_mem_nil
                rwa [List.append_nil] at hNone
              by_cases hVisited : key node ∈ visited
              · obtain ⟨fuel, result, hRun⟩ := ihQueue queue hSkip queue rfl hTail found
                exact ⟨fuel + 1, result, by rw [search, if_pos hVisited, hRun]⟩
              · have hNext : ∀ other ∈ queue ++ fresh key succ (remember key marked visited node) node,
                    Reach succ start other := by
                  intro other hOther
                  rcases List.mem_append.mp hOther with hOther | hOther
                  · exact hTail other hOther
                  · exact hNode.tail (mem_fresh.mp hOther).1
                have hRest : ∃ fuel result, search key marked succ fuel (remember key marked visited node)
                    (queue ++ fresh key succ (remember key marked visited node) node)
                    (collect marked found node) = some result := by
                  cases hMarked : marked node with
                  | true =>
                      have hKey : key node ∈ hFinite.toFinset.image key \ visited := by
                        simpa [hVisited] using ⟨node, hNode, rfl⟩
                      have hLess : (hFinite.toFinset.image key \
                          remember key marked visited node).card < n := by
                        rw [← hCard, remember, if_pos hMarked, Finset.sdiff_insert]
                        exact Finset.card_erase_lt_of_mem hKey
                      exact ihCard _ hLess _ rfl _ hNext _
                  | false =>
                      have hRemember : remember key marked visited node = visited := by
                        simp [remember, hMarked]
                      rw [hRemember] at hNext ⊢
                      refine ihQueue _ (cutExpand_append ?_) _ rfl hNext _
                      intro next hOther
                      exact ⟨hNode, hMarked, (mem_fresh.mp hOther).1⟩
                obtain ⟨fuel, result, hRun⟩ := hRest
                exact ⟨fuel + 1, result, by rw [search, if_neg hVisited, hRun]⟩

/-- The search ends when the reachable nodes are finitely many and have no unmarked cycle. -/
theorem search_ends : ∃ fuel result, search key marked succ fuel ∅ [start] [] = some result :=
  search_ends_of_card hFinite hAcyclic _ ∅ rfl [start] reach_start []

end termination

end QueueSearch
