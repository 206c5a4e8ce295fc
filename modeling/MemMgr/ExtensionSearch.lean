import MemMgr.Library.QueueSearch
import MemMgr.Runs
import MemMgr.Scenario

/-! The search for connected extensions is the queue search of the binding graph:
processes are the nodes, pids the keys, and extensions are marked. -/
namespace MemMgr

open Execution Relation QueueSearch ProcessPriorityInfo

namespace ReclaimPriorityManager

variable (s : ReclaimPriorityManager)

/-- The record at the other end of a binding. -/
def boundProc (binding : Int × Int) : Option ProcessPriorityInfo :=
  (s.findBundle binding.2 (getOsAccountIdByUid binding.2)).bind fun bundle =>
    (s.bundles bundle).procs[binding.1]?

def boundProcs (proc : ProcessPriorityInfo) : List ProcessPriorityInfo :=
  proc.procsBindFromMe.toList.filterMap s.boundProc

/-- The other end is looked up although its bundle does not hold it. -/
def Dangling (binding : Int × Int) : Prop :=
  binding.1 = ignorePid ∧ ∃ bundle,
    s.findBundle binding.2 (getOsAccountIdByUid binding.2) = some bundle ∧
      (s.bundles bundle).procs[binding.1]? = none

/-- Processes along bindings. -/
abbrev Reaches : ProcessPriorityInfo → ProcessPriorityInfo → Prop := Reach s.boundProcs

/-- The search from a process returns the extensions it reaches, each once. -/
def FindsExtensions (proc : ProcessPriorityInfo) : Prop :=
  ∃ fuel procVec, s.getConnectedExtensionProc fuel proc = .ok procVec ∧
    (∀ other, other ∈ procVec ↔ other.isExtension = true ∧ s.Reaches proc other) ∧ procVec.Nodup

/-- No cycle runs through reached processes that are no extensions. -/
def Acyclic (proc : ProcessPriorityInfo) : Prop :=
  ∀ node, s.Reaches proc node → ¬ TransGen (UnmarkedEdge isExtension s.boundProcs) node node

/-- No binding of a reached process dangles. -/
def FromMeResolved (proc : ProcessPriorityInfo) : Prop :=
  ∀ node, s.Reaches proc node → ∀ binding ∈ node.procsBindFromMe.toList, ¬ s.Dangling binding

/-- What the search relies on, of the processes it meets. -/
structure Traversable (proc : ProcessPriorityInfo) : Prop where
  separate : Separate pid isExtension s.boundProcs proc
  acyclic : s.Acyclic proc
  resolved : s.FromMeResolved proc

/-- Pids tell the processes the search meets apart, and `ignorePid` is none of them. -/
structure IdentifiedByPid (proc : ProcessPriorityInfo) : Prop where
  separate : Separate pid isExtension s.boundProcs proc
  notIgnored : ∀ node, s.Reaches proc node → node.isExtension = true → node.pid ≠ ignorePid

variable {s}

/-- Looking a binding up throws exactly for a dangling one, and otherwise answers the process that
the binding leads to, where there is one. -/
theorem lookupProc_binding (pid uid : Int) :
    s.Dangling (pid, uid) ∧ s.lookupProc pid uid (getOsAccountIdByUid uid) = .error .outOfRange ∨
      ¬ s.Dangling (pid, uid) ∧ ∃ found,
        s.lookupProc pid uid (getOsAccountIdByUid uid) = .ok found ∧
          s.boundProc (pid, uid) = found.map Prod.snd := by
  rw [lookupProc_eq, boundProc, Dangling]
  dsimp only
  cases s.findBundle uid (getOsAccountIdByUid uid) with
  | none => exact Or.inr ⟨by simp, none, rfl, rfl⟩
  | some bundle =>
      simp only [Option.some.injEq, exists_eq_left', Option.bind_some]
      cases (s.bundles bundle).procs[pid]? with
      | some proc => exact Or.inr ⟨by simp, some (bundle, proc), rfl, rfl⟩
      | none =>
          by_cases hIgnore : pid = ignorePid
          · exact Or.inl ⟨⟨hIgnore, rfl⟩, if_pos hIgnore⟩
          · exact Or.inr ⟨fun hDangling => hIgnore hDangling.1, none, if_neg hIgnore, rfl⟩

/-- A dangling binding is looked up with `at` and throws. -/
theorem lookupProc_of_dangling {pid uid : Int} (h : s.Dangling (pid, uid)) :
    s.lookupProc pid uid (getOsAccountIdByUid uid) = .error .outOfRange := by
  rcases lookupProc_binding pid uid with hFault | hFound
  · exact hFault.2
  · exact absurd h hFound.1

/-- Where no `at` fails, the look-up answers what the binding leads to. -/
theorem lookupProc_of_not_dangling {pid uid : Int} (h : ¬ s.Dangling (pid, uid)) :
    ∃ found, s.lookupProc pid uid (getOsAccountIdByUid uid) = .ok found ∧
      s.boundProc (pid, uid) = found.map Prod.snd := by
  rcases lookupProc_binding pid uid with hFault | hFound
  · exact absurd hFault.1 h
  · exact hFound.2

/-- One dangling binding to a pid not visited yet is enough for the loop over the
bindings to throw. -/
theorem procsBehind_of_dangling {visited : Finset Int} {bindings : List (Int × Int)}
    {binding : Int × Int} (hMem : binding ∈ bindings) (hNew : binding.1 ∉ visited)
    (hDangling : s.Dangling binding) : s.procsBehind visited bindings = .error .outOfRange := by
  induction bindings with
  | nil => cases hMem
  | cons first bindings ih =>
      rw [procsBehind]
      rcases List.mem_cons.mp hMem with rfl | hMem
      · rw [if_neg hNew, lookupProc_of_dangling hDangling]
        rfl
      · split_ifs with hVisited
        · exact ih hMem
        · rcases lookupProc_binding first.1 first.2 with ⟨-, hFault⟩ | ⟨-, found, hFound, -⟩
          · rw [hFault]
            rfl
          · rw [hFound, ih hMem]
            cases found <;> rfl

/-- Without a dangling binding, the successors that were not visited. -/
theorem procsBehind_of_not_dangling {visited : Finset Int} {bindings : List (Int × Int)}
    (hResolved : ∀ binding ∈ bindings, binding.1 ∉ visited → ¬ s.Dangling binding) :
    s.procsBehind visited bindings =
      .ok ((bindings.filter fun binding => binding.1 ∉ visited).filterMap s.boundProc) := by
  induction bindings with
  | nil => rfl
  | cons first bindings ih =>
      have hRest := ih fun binding hMem => hResolved binding (List.mem_cons_of_mem _ hMem)
      rw [procsBehind]
      split_ifs with hVisited
      · rw [hRest, List.filter_cons_of_neg (by simpa using hVisited)]
      · obtain ⟨found, hFound, hBound⟩ :=
          lookupProc_of_not_dangling (hResolved first List.mem_cons_self hVisited)
        rw [hFound, hRest, List.filter_cons_of_pos (by simpa using hVisited), List.filterMap_cons,
          hBound]
        cases found <;> rfl

/-- One iteration of the loop, in the words of the search. -/
theorem connectedExtensionLoop_succ (fuel : Nat) (visited : Finset Int) (proc : ProcessPriorityInfo)
    (queue procVec : List ProcessPriorityInfo) :
    s.connectedExtensionLoop (fuel + 1) visited (proc :: queue) procVec =
      (if proc.pid ∈ visited then s.connectedExtensionLoop fuel visited queue procVec
      else do
        let procsBindFromMe ← s.procsBehind (remember pid isExtension visited proc)
          proc.procsBindFromMe.toList
        s.connectedExtensionLoop fuel (remember pid isExtension visited proc)
          (queue ++ procsBindFromMe) (collect isExtension procVec proc)) := rfl

/-- The loop over the bindings throws for no other reason than a dangling one. -/
theorem procsBehind_eq_error {visited : Finset Int} {bindings : List (Int × Int)} {fault : Fault}
    (hRun : s.procsBehind visited bindings = .error fault) :
    fault = .outOfRange ∧ ∃ binding ∈ bindings, binding.1 ∉ visited ∧ s.Dangling binding := by
  by_cases hDangling : ∃ binding ∈ bindings, binding.1 ∉ visited ∧ s.Dangling binding
  · obtain ⟨binding, hMem, hNew, hIs⟩ := hDangling
    rw [procsBehind_of_dangling hMem hNew hIs] at hRun
    exact ⟨(Except.error.inj hRun).symm, binding, hMem, hNew, hIs⟩
  · rw [procsBehind_of_not_dangling fun binding hMem hNew hIs =>
      hDangling ⟨binding, hMem, hNew, hIs⟩] at hRun
    cases hRun

/-- More iterations do not change how the loop ends. -/
theorem connectedExtensionLoop_mono {fuel : Nat} {visited : Finset Int}
    {queue procVec : List ProcessPriorityInfo} {outcome : Except Fault (List ProcessPriorityInfo)}
    (hRun : s.connectedExtensionLoop fuel visited queue procVec = outcome)
    (hEnds : outcome ≠ .error .outOfFuel) (more : Nat) :
    s.connectedExtensionLoop (fuel + more) visited queue procVec = outcome := by
  induction fuel generalizing visited queue procVec with
  | zero =>
      cases queue with
      | nil =>
          rw [← hRun]
          cases more <;> rfl
      | cons proc queue => exact absurd hRun.symm hEnds
  | succ fuel ih =>
      cases queue with
      | nil =>
          rw [← hRun, Nat.succ_add]
          rfl
      | cons proc queue =>
          rw [Nat.succ_add]
          rw [connectedExtensionLoop_succ] at hRun ⊢
          split_ifs at hRun ⊢ with hVisited
          · exact ih hRun
          · cases hProcs : s.procsBehind (remember pid
                isExtension visited proc) proc.procsBindFromMe.toList with
            | error fault =>
                rw [hProcs] at hRun
                exact hRun
            | ok procs =>
                rw [hProcs] at hRun
                exact ih hRun

/-- The processes bound from a process are those that its records lead to. -/
theorem mem_boundProcs {proc other : ProcessPriorityInfo} :
    other ∈ s.boundProcs proc ↔ ∃ pid uid : Int, proc.procsBindFromMe[pid]? = some uid ∧
      s.boundProc (pid, uid) = some other := by
  simp only [boundProcs, List.mem_filterMap, Prod.exists,
    Std.ExtTreeMap.mem_toList_iff_getElem?_eq_some]

/-- A binding leads to a process when the bundle of its uid is known and holds its pid. -/
theorem boundProc_eq_some {pid uid : Int} {proc : ProcessPriorityInfo} :
    s.boundProc (pid, uid) = some proc ↔ ∃ bundle,
      s.findBundle uid (getOsAccountIdByUid uid) = some bundle ∧
        (s.bundles bundle).procs[pid]? = some proc := Option.bind_eq_some_iff

/-- Only recorded processes are reached. -/
theorem finite_reaches (start : ProcessPriorityInfo) : {proc | s.Reaches start proc}.Finite := by
  let recorded := s.trackedBundles.flatMap fun bundle => (s.bundles bundle).procs.toList.map Prod.snd
  refine (List.finite_toSet (start :: recorded)).subset ?_
  intro proc hReach
  rcases ReflTransGen.cases_tail hReach with rfl | ⟨prior, -, hNext⟩
  · exact List.mem_cons_self
  · obtain ⟨pid, uid, -, hBound⟩ := mem_boundProcs.mp hNext
    obtain ⟨bundle, hFind, hProc⟩ := boundProc_eq_some.mp hBound
    refine List.mem_cons_of_mem _ (List.mem_flatMap.mpr ⟨bundle, ?_, ?_⟩)
    · exact mem_trackedBundles.mpr ⟨_, _, hFind⟩
    · exact List.mem_map.mpr ⟨(pid, proc), Std.ExtTreeMap.mem_toList_iff_getElem?_eq_some.mpr hProc, rfl⟩

end ReclaimPriorityManager

open ReclaimPriorityManager

namespace WellFormed

variable {s : ReclaimPriorityManager} (h : WellFormed s)

include h

/-- The process that a binding leads to has the pid the binding names. -/
theorem boundProc_pid {binding : Int × Int} {proc : ProcessPriorityInfo}
    (hBound : s.boundProc binding = some proc) : proc.pid = binding.1 := by
  obtain ⟨bundle, -, hProc⟩ := boundProc_eq_some.mp hBound
  exact ((h.covered bundle).record _ _ hProc).pid

/-- What the loop puts in the queue. -/
theorem fresh_boundProcs (visited : Finset Int) (proc : ProcessPriorityInfo) :
    fresh pid s.boundProcs visited proc =
      (proc.procsBindFromMe.toList.filter fun binding => binding.1 ∉ visited).filterMap
        s.boundProc := by
  rw [fresh, boundProcs, List.filter_filterMap, List.filterMap_filter]
  refine List.filterMap_congr fun binding _ => ?_
  cases hBound : s.boundProc binding with
  | none => simp
  | some other =>
      rw [Option.filter_some, h.boundProc_pid hBound]

/-- Without a throw, the loop over the bindings collects the bound processes not visited yet, in the
order of the pids. -/
theorem procsBehind_eq_ok {visited : Finset Int} {proc : ProcessPriorityInfo}
    {procs : List ProcessPriorityInfo} :
    s.procsBehind visited proc.procsBindFromMe.toList = .ok procs ↔
      procs = fresh pid s.boundProcs visited proc ∧
        ∀ binding ∈ proc.procsBindFromMe.toList, binding.1 ∉ visited → ¬ s.Dangling binding := by
  rw [h.fresh_boundProcs]
  constructor
  · intro hProcs
    have hResolved : ∀ binding ∈ proc.procsBindFromMe.toList, binding.1 ∉ visited →
        ¬ s.Dangling binding := by
      intro binding hMem hNew hDangling
      rw [procsBehind_of_dangling hMem hNew hDangling] at hProcs
      cases hProcs
    rw [procsBehind_of_not_dangling hResolved] at hProcs
    exact ⟨(Except.ok.inj hProcs).symm, hResolved⟩
  · rintro ⟨rfl, hResolved⟩
    exact procsBehind_of_not_dangling hResolved

/-- The loop that returns is the search. -/
theorem search_of_loop {fuel : Nat} {visited : Finset Int}
    {queue procVec result : List ProcessPriorityInfo}
    (hRun : s.connectedExtensionLoop fuel visited queue procVec = .ok result) :
    search pid isExtension s.boundProcs fuel
      visited queue procVec = some result := by
  induction fuel generalizing visited queue procVec with
  | zero =>
      cases queue with
      | nil => exact congrArg some (Except.ok.inj hRun)
      | cons proc queue => cases hRun
  | succ fuel ih =>
      cases queue with
      | nil => exact congrArg some (Except.ok.inj hRun)
      | cons proc queue =>
          rw [connectedExtensionLoop_succ] at hRun
          rw [search]
          split_ifs at hRun ⊢ with hVisited
          · exact ih hRun
          · obtain ⟨procs, hProcs, hRun⟩ := bind_eq_ok.mp hRun
            obtain ⟨rfl, -⟩ := h.procsBehind_eq_ok.mp hProcs
            exact ih hRun

/-- The search is the loop where no binding of a process it meets dangles. -/
theorem loop_of_search {start : ProcessPriorityInfo} {fuel : Nat} {visited : Finset Int}
    {queue procVec result : List ProcessPriorityInfo}
    (hResolved : s.FromMeResolved start)
    (hQueue : ∀ proc ∈ queue, s.Reaches start proc)
    (hSearch : search pid isExtension s.boundProcs
      fuel visited queue procVec = some result) :
    s.connectedExtensionLoop fuel visited queue procVec = .ok result := by
  induction fuel generalizing visited queue procVec with
  | zero =>
      cases queue with
      | nil => exact congrArg Except.ok (Option.some.inj hSearch)
      | cons proc queue => cases hSearch
  | succ fuel ih =>
      cases queue with
      | nil => exact congrArg Except.ok (Option.some.inj hSearch)
      | cons proc queue =>
          have hProc : s.Reaches start proc := hQueue proc List.mem_cons_self
          have hRest : ∀ other ∈ queue, s.Reaches start other := fun other hOther =>
            hQueue other (List.mem_cons_of_mem _ hOther)
          rw [connectedExtensionLoop_succ]
          rw [search] at hSearch
          split_ifs at hSearch ⊢ with hVisited
          · exact ih hRest hSearch
          · rw [h.procsBehind_eq_ok.mpr ⟨rfl, fun binding hMem _ => hResolved proc hProc binding hMem⟩]
            refine ih ?_ hSearch
            intro other hOther
            rcases List.mem_append.mp hOther with hOther | hOther
            · exact hRest other hOther
            · exact hProc.tail (mem_fresh.mp hOther).1

/-- The search from a process whose extensions can be traversed ends, and finds them. -/
theorem findsExtensions {proc : ProcessPriorityInfo} (hTraversable : s.Traversable proc) :
    s.FindsExtensions proc := by
  obtain ⟨fuel, procVec, hSearch⟩ :=
    @search_ends _ _ pid _ _ _ _ (finite_reaches proc) hTraversable.acyclic
  obtain ⟨hExact, hDistinct⟩ := search_exact hTraversable.separate hSearch
  refine ⟨fuel, procVec, ?_, hExact, hDistinct.of_map _⟩
  exact h.loop_of_search hTraversable.resolved reach_start hSearch

/-- A pending process is expanded sooner or later, and a binding of it that dangles
ends the loop. The rank of the pending process falls with every iteration. -/
theorem loop_throws {start target : ProcessPriorityInfo} {length position : ℕ} {visited : Finset Int}
    {queue procVec : List ProcessPriorityInfo} {binding : Int × Int}
    (hIdentified : s.IdentifiedByPid start) (hMem : binding ∈ target.procsBindFromMe.toList)
    (hDangling : s.Dangling binding)
    (hSound : Sound pid isExtension s.boundProcs
      start visited queue procVec)
    (hPending : PendingAt pid s.boundProcs visited queue target length
      position) :
    ∃ fuel, s.connectedExtensionLoop fuel visited queue procVec = .error .outOfRange := by
  induction length using Nat.strong_induction_on generalizing position visited queue procVec with
  | _ length ihLength =>
  induction position using Nat.strong_induction_on generalizing visited queue procVec with
  | _ position ihPosition =>
  cases queue with
  | nil =>
      obtain ⟨node, hAt, -⟩ := hPending
      cases hAt
  | cons proc queue =>
      by_cases hVisited : proc.pid ∈ visited
      · obtain ⟨next, hLess, hNext⟩ := hPending.skip hVisited
        obtain ⟨fuel, hRun⟩ := ihPosition next hLess hSound.skip hNext
        exact ⟨fuel + 1, by rw [connectedExtensionLoop_succ, if_pos hVisited, hRun]⟩
      · have hExpanded := hSound.expand hVisited
        cases hProcs : s.procsBehind (remember pid
            isExtension visited proc) proc.procsBindFromMe.toList with
        | error fault =>
            refine ⟨1, ?_⟩
            rw [connectedExtensionLoop_succ, if_neg hVisited, hProcs, (procsBehind_eq_error hProcs).1]
            rfl
        | ok procs =>
            obtain ⟨rfl, hResolved⟩ := h.procsBehind_eq_ok.mp hProcs
            have hRest : ∃ fuel, s.connectedExtensionLoop fuel (remember
                pid isExtension visited proc)
                (queue ++ fresh pid s.boundProcs (remember
                  pid isExtension visited proc) proc)
                (collect isExtension procVec proc) =
                  .error .outOfRange := by
              rcases hPending.expand hIdentified.separate hSound.reach with
                rfl | ⟨_, _, hNext, hLess | ⟨rfl, hLess⟩⟩
              · -- A visited `ignorePid` would be the pid of an extension.
                refine absurd hDangling (hResolved binding hMem fun hSeen => ?_)
                obtain ⟨owner, hOwner, hPid⟩ := hExpanded.owner _ hSeen
                obtain ⟨hExtension, hReach⟩ := hExpanded.exact owner hOwner
                exact hIdentified.notIgnored owner hReach hExtension (hPid.trans hDangling.1)
              · exact ihLength _ hLess hExpanded hNext
              · exact ihPosition _ hLess hExpanded hNext
            obtain ⟨fuel, hRun⟩ := hRest
            refine ⟨fuel + 1, ?_⟩
            rw [connectedExtensionLoop_succ, if_neg hVisited, hProcs]
            exact hRun

/-- A dangling binding anywhere behind a process makes the search from it throw. -/
theorem getConnectedExtensionProc_throws {proc node : ProcessPriorityInfo} {binding : Int × Int}
    (hIdentified : s.IdentifiedByPid proc) (hReach : s.Reaches proc node)
    (hMem : binding ∈ node.procsBindFromMe.toList) (hDangling : s.Dangling binding) :
    ∃ fuel, s.getConnectedExtensionProc fuel proc = .error .outOfRange := by
  obtain ⟨length, position, hPending⟩ := pending_start hReach
  exact h.loop_throws hIdentified hMem hDangling (sound_start proc) hPending

/-- A search that finds its extensions met no dangling binding. -/
theorem traversable {proc : ProcessPriorityInfo} (hIdentified : s.IdentifiedByPid proc)
    (hFinds : s.FindsExtensions proc) : s.Traversable proc := by
  obtain ⟨fuel, procVec, hRun, -⟩ := hFinds
  refine ⟨hIdentified.separate, fun node hReach => ?_, fun node hReach binding hMem hDangling => ?_⟩
  · exact not_transGen_of_search hIdentified.separate (h.search_of_loop hRun) hReach
  · obtain ⟨fuel', hThrows⟩ := h.getConnectedExtensionProc_throws hIdentified hReach hMem hDangling
    have hSame := (connectedExtensionLoop_mono hRun (by simp) fuel').symm.trans
      (Nat.add_comm fuel fuel' ▸ connectedExtensionLoop_mono hThrows (by simp) fuel)
    cases hSame

end WellFormed

namespace ReclaimPriorityManager

variable {s : ReclaimPriorityManager} {proc other : ProcessPriorityInfo}

/-- A list that holds a process and is closed under bindings holds all that the process reaches. -/
theorem Reaches.mem_of_closed {closed : List ProcessPriorityInfo} (hStart : proc ∈ closed)
    (hClosed : ∀ node ∈ closed, ∀ next ∈ s.boundProcs node, next ∈ closed)
    (hReach : s.Reaches proc other) : other ∈ closed := by
  induction hReach with
  | refl => exact hStart
  | tail _ hNext ih => exact hClosed _ ih _ hNext

/-- Where every binding leads to an extension, the search can be traversed. -/
theorem Traversable.of_closed {closed : List ProcessPriorityInfo} (hStart : proc ∈ closed)
    (hClosed : ∀ node ∈ closed, ∀ next ∈ s.boundProcs node, next ∈ closed ∧ next.isExtension = true)
    (hPids : ∀ node ∈ closed, ∀ other ∈ closed, other.pid = node.pid → other = node)
    (hBindings : ∀ node ∈ closed, ∀ binding ∈ node.procsBindFromMe.toList, binding.1 ≠ ignorePid) :
    s.Traversable proc := by
  have hMem : ∀ {node}, s.Reaches proc node → node ∈ closed := fun hReach =>
    hReach.mem_of_closed hStart fun node hNode next hNext => (hClosed node hNode next hNext).1
  refine ⟨fun node other hNode hOther _ => hPids node (hMem hNode) other (hMem hOther), ?_, ?_⟩
  · intro node hReach hCycle
    obtain ⟨next, -, hNext, hNextCycle⟩ := exists_next_of_cycle hCycle
    obtain ⟨-, hUnmarked, -, -⟩ := exists_next_of_cycle hNextCycle
    exact Bool.noConfusion (hUnmarked.symm.trans (hClosed node (hMem hReach) next hNext).2)
  · intro node hReach binding hBinding hDangling
    exact hBindings node (hMem hReach) binding hBinding hDangling.1

/-- A process that is no extension and bound to itself keeps coming back. -/
theorem loop_of_self_binding (hExtension : proc.isExtension = false)
    (hSelf : s.procsBehind ∅ proc.procsBindFromMe.toList = .ok [proc]) (fuel : Nat) :
    s.connectedExtensionLoop fuel ∅ [proc] [] = .error .outOfFuel := by
  induction fuel with
  | zero => rfl
  | succ fuel ih =>
      rw [connectedExtensionLoop_succ, if_neg (Finset.notMem_empty _)]
      simp only [remember, collect, hExtension, Bool.false_eq_true, ↓reduceIte,
        hSelf]
      exact ih

end ReclaimPriorityManager

namespace Service

variable {platform : Platform} {sys : Service}

/-- The search finds the extensions where it can be traversed, and, while pids
identify processes, only there. -/
theorem Run.findsExtensions_iff (run : Run platform anyOp sys) (proc : ProcessPriorityInfo) :
    (sys.manager.Traversable proc → sys.manager.FindsExtensions proc) ∧
      (sys.manager.IdentifiedByPid proc →
        (sys.manager.FindsExtensions proc ↔ sys.manager.Traversable proc)) := by
  have hWf := run.wellFormed
  exact ⟨hWf.findsExtensions, fun hIdentified =>
    ⟨hWf.traversable hIdentified, hWf.findsExtensions⟩⟩

open Scenario

/-- An extension that is bound to an extension. -/
def chainOfBindings : Service := (reached [event .createProcess 1 20000001,
  event .createProcess 2 20000002, event .createProcess 3 20000003, bind 1 20000001 2 20000002,
  bind 2 20000002 3 20000003]).get (by decide)

/-- The search goes through a chain of bindings. -/
theorem findsExtensions_chainOfBindings : chainOfBindings.manager.FindsExtensions
    ((chainOfBindings.manager.boundProc (1, 20000001)).get (by decide)) := by
  refine (Run.findsExtensions_iff (run_reached (fun _ _ _ => trivial) (by decide)) _).1 ?_
  have hStart : (chainOfBindings.manager.boundProc (1, 20000001)).get (by decide) ∈
      [(1, 20000001), (2, 20000002), (3, 20000003)].filterMap chainOfBindings.manager.boundProc := by
    decide
  exact .of_closed hStart (by decide) (by decide) (by decide)

/-- A process bound to an app that the bundle manager keeps alive and that is bound
to itself: the app is left out of the extensions. -/
def bindingOfKeptApp : Service := (reached [event .createProcess 1 20000001,
  .updateReclaimPriorityInner ⟨⟨0, 0, "", ""⟩, ⟨2, 20000002, "", "20000002"⟩, .createProcess⟩ 0
    ⟨some fun _ _ => some true, 0, true, true⟩,
  bind 1 20000001 2 20000002, bind 2 20000002 2 20000002]).get (by decide)

/-- The search from the first process comes to the second and never leaves it. -/
theorem bindingOfKeptApp_not_findsExtensions : Run Scenario.platform anyOp bindingOfKeptApp ∧
    bindingOfKeptApp.manager.TracksProc 0 1
      ((bindingOfKeptApp.manager.boundProc (1, 20000001)).get (by decide)) ∧
    ¬ bindingOfKeptApp.manager.FindsExtensions
      ((bindingOfKeptApp.manager.boundProc (1, 20000001)).get (by decide)) := by
  refine ⟨run_reached (fun _ _ _ => trivial) (by decide), ⟨by decide, by decide⟩, ?_⟩
  rintro ⟨fuel, procVec, hRun, -⟩
  have hKept := @loop_of_self_binding bindingOfKeptApp.manager
    ((bindingOfKeptApp.manager.boundProc (2, 20000002)).get (by decide)) (by decide) (by decide)
  cases fuel with
  | zero => cases hRun
  | succ fuel =>
      have hFirst : bindingOfKeptApp.manager.getConnectedExtensionProc (fuel + 1)
          ((bindingOfKeptApp.manager.boundProc (1, 20000001)).get (by decide)) =
          bindingOfKeptApp.manager.connectedExtensionLoop fuel ∅
            [(bindingOfKeptApp.manager.boundProc (2, 20000002)).get (by decide)] [] := by
        rfl
      rw [hFirst, hKept] at hRun
      cases hRun

end Service
end MemMgr
