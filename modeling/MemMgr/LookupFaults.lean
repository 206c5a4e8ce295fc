import MemMgr.Prepare
import MemMgr.ExtensionPass

/-! When a request throws. `procs_.at` is only reached past `isProcExist`, so it can
only fail for `ignorePid`, in a bundle that does not hold it. -/
namespace MemMgr

open Execution Relation QueueSearch ProcessPriorityInfo ReclaimPriorityManager

variable {platform : Platform} {services : Services} {s s' : ReclaimPriorityManager}

/-! The passes over the connectors of the extensions. -/

/-- One dangling connector makes the minimum over the connectors throw. -/
theorem minConnectorPriority_of_dangling {view : Int → Int} {connectors : List (Int × Int)} {start : Int}
    {binding : Int × Int} (hMem : binding ∈ connectors) (hDangling : s.Dangling binding) :
    s.minConnectorPriority view connectors start = .error .outOfRange := by
  induction connectors generalizing start with
  | nil => cases hMem
  | cons first connectors ih =>
      rw [minConnectorPriority]
      rcases lookupProc_binding first.1 first.2 with ⟨-, hFault⟩ | ⟨hResolved, found, hFound, -⟩
      · rw [hFault]
        rfl
      · rcases List.mem_cons.mp hMem with rfl | hMem
        · exact absurd hDangling hResolved
        · rw [hFound]
          cases found with
          | none => exact ih hMem
          | some found => exact ih hMem

/-- Without a dangling connector there is a minimum. -/
theorem minConnectorPriority_of_not_dangling {view : Int → Int} {connectors : List (Int × Int)}
    {start : Int} (hResolved : ∀ binding ∈ connectors, ¬ s.Dangling binding) :
    ∃ result, s.minConnectorPriority view connectors start = .ok result := by
  induction connectors generalizing start with
  | nil => exact ⟨start, rfl⟩
  | cons first connectors ih =>
      have hRest : ∀ binding ∈ connectors, ¬ s.Dangling binding := fun binding hMem =>
        hResolved binding (List.mem_cons_of_mem _ hMem)
      obtain ⟨found, hFound, -⟩ := lookupProc_of_not_dangling (hResolved first List.mem_cons_self)
      rw [minConnectorPriority, hFound]
      cases found with
      | none => exact ih hRest
      | some found => exact ih hRest

/-- A dangling connector of any of the extensions makes their sorting throw. -/
theorem calculateExtensionProcPrio_of_dangling {procVec : List ProcessPriorityInfo}
    {procSet : BinaryTree ProcessPriorityInfo} {extensionProc : ProcessPriorityInfo}
    {binding : Int × Int} (hMem : extensionProc ∈ procVec)
    (hBinding : binding ∈ extensionProc.procsBindToMe.toList) (hDangling : s.Dangling binding) :
    s.calculateExtensionProcPrio procVec procSet = .error .outOfRange := by
  induction procVec generalizing procSet with
  | nil => cases hMem
  | cons first procVec ih =>
      rw [calculateExtensionProcPrio]
      by_cases hFirst : ∃ binding ∈ first.procsBindToMe.toList, s.Dangling binding
      · obtain ⟨other, hOther, hIs⟩ := hFirst
        rw [minConnectorPriority_of_dangling hOther hIs]
        rfl
      · rcases List.mem_cons.mp hMem with rfl | hMem
        · exact absurd ⟨binding, hBinding, hDangling⟩ hFirst
        · obtain ⟨_, hMin⟩ := minConnectorPriority_of_not_dangling
            fun other hOther hIs => hFirst ⟨other, hOther, hIs⟩
          rw [hMin]
          exact ih hMem

/-- Without a dangling connector the extensions are sorted. -/
theorem calculateExtensionProcPrio_of_not_dangling {procVec : List ProcessPriorityInfo}
    {procSet : BinaryTree ProcessPriorityInfo}
    (hResolved : ∀ extensionProc ∈ procVec, ∀ binding ∈ extensionProc.procsBindToMe.toList,
      ¬ s.Dangling binding) :
    ∃ sorted, s.calculateExtensionProcPrio procVec procSet = .ok sorted := by
  induction procVec generalizing procSet with
  | nil => exact ⟨procSet, rfl⟩
  | cons first procVec ih =>
      obtain ⟨_, hMin⟩ := minConnectorPriority_of_not_dangling (hResolved first List.mem_cons_self)
      rw [calculateExtensionProcPrio, hMin]
      exact ih fun extensionProc hMem => hResolved extensionProc (List.mem_cons_of_mem _ hMem)

/-- The pass over the extensions does not throw where all their connectors, and they themselves,
are found. -/
theorem setConnectExtensionProcPrio_of_not_dangling (hWf : WellFormed s)
    {procSet : List ProcessPriorityInfo}
    (hResolved : ∀ extensionProc ∈ procSet, ∀ binding ∈ extensionProc.procsBindToMe.toList,
      ¬ s.Dangling binding)
    (hFound : ∀ extensionProc ∈ procSet, ¬ s.Dangling (extensionProc.pid, extensionProc.uid)) :
    ∃ s', setConnectExtensionProcPrio platform procSet s = .ok s' := by
  induction procSet generalizing s with
  | nil => exact ⟨s, rfl⟩
  | cons first procSet ih =>
      have hRest := fun extensionProc hMem => hResolved extensionProc (List.mem_cons_of_mem first hMem)
      have hRestFound := fun extensionProc hMem => hFound extensionProc (List.mem_cons_of_mem first hMem)
      obtain ⟨minExtensionPriority, hMin⟩ :=
        minConnectorPriority_of_not_dangling (hResolved first List.mem_cons_self)
      obtain ⟨found, hLookup, -⟩ := lookupProc_of_not_dangling (hFound first List.mem_cons_self)
      rw [setConnectExtensionProcPrio, hMin]
      simp only [bind, Except.bind, hLookup]
      cases found with
      | none => exact ih hWf hRest hRestFound
      | some found =>
          obtain ⟨bundle, proc⟩ := found
          obtain ⟨hFind, hProc⟩ := lookupProc_eq_some.mp hLookup
          have hTracks : s.TracksProc bundle first.pid proc := ⟨⟨_, _, hFind⟩, hProc⟩
          have hNonneg : 0 ≤ minExtensionPriority :=
            le_minConnectorPriority hMin (by decide) le_rfl connectorView_nonneg
          have hRepricing : Repricing (fun _ => True) s (relink platform s bundle
              (proc.setPriority (proc.extensionPriority minExtensionPriority))) :=
            repricing_relink hWf hTracks trivial
          simp only [extensionPriorityUpdate_eq]
          change ∃ s', setConnectExtensionProcPrio platform procSet (relink platform s bundle
            (proc.setPriority (proc.extensionPriority minExtensionPriority))) = .ok s'
          refine ih (hWf.relink hTracks hNonneg) ?_ ?_
          · intro extensionProc hMem binding hBinding
            rw [hRepricing.dangling_iff]
            exact hRest extensionProc hMem binding hBinding
          · intro extensionProc hMem
            rw [hRepricing.dangling_iff]
            exact hRestFound extensionProc hMem

/-- The search fails at a dangling binding, or only for want of iterations. -/
theorem loop_eq_error (hWf : WellFormed s) {start : ProcessPriorityInfo} {fuel : Nat}
    {visited : Finset Int} {queue procVec : List ProcessPriorityInfo} {fault : Fault}
    (hQueue : ∀ proc ∈ queue, s.Reaches start proc)
    (hRun : s.connectedExtensionLoop fuel visited queue procVec = .error fault) :
    fault = .outOfFuel ∨ ∃ node, s.Reaches start node ∧
      ∃ binding ∈ node.procsBindFromMe.toList, s.Dangling binding := by
  induction fuel generalizing visited queue procVec with
  | zero =>
      cases queue with
      | nil => cases hRun
      | cons proc queue => exact Or.inl (Except.error.inj hRun).symm
  | succ fuel ih =>
      cases queue with
      | nil => cases hRun
      | cons proc queue =>
          have hProc : s.Reaches start proc := hQueue proc List.mem_cons_self
          have hRest : ∀ other ∈ queue, s.Reaches start other := fun other hOther =>
            hQueue other (List.mem_cons_of_mem _ hOther)
          rw [connectedExtensionLoop_succ] at hRun
          split_ifs at hRun with hVisited
          · exact ih hRest hRun
          · rcases bind_eq_error.mp hRun with hFault | ⟨procs, hProcs, hRun⟩
            · obtain ⟨-, binding, hMem, -, hDangling⟩ := procsBehind_eq_error hFault
              exact Or.inr ⟨proc, hProc, binding, hMem, hDangling⟩
            · obtain ⟨rfl, -⟩ := hWf.procsBehind_eq_ok.mp hProcs
              refine ih ?_ hRun
              intro other hOther
              rcases List.mem_append.mp hOther with hOther | hOther
              · exact hRest other hOther
              · exact hProc.tail (mem_fresh.mp hOther).1

namespace ReclaimPriorityManager

/-- No connector of a reached extension dangles. -/
def ToMeResolved (s : ReclaimPriorityManager) (proc : ProcessPriorityInfo) : Prop :=
  ∀ node, s.Reaches proc node → node.isExtension = true →
    ∀ binding ∈ node.procsBindToMe.toList, ¬ s.Dangling binding

end ReclaimPriorityManager

/-- After a search that returned, carrying a change on returns where the connectors resolve. -/
theorem updatePriorityByProcForExtension_of_search (hWf : WellFormed s) {bundle : BundleRef}
    {pid : Int} {proc : ProcessPriorityInfo} {fuel : Nat} {procVec : List ProcessPriorityInfo}
    (hTracks : s.TracksProc bundle pid proc) (hToMe : s.ToMeResolved proc)
    (hVec : s.getConnectedExtensionProc fuel proc = .ok procVec) :
    ∃ s', s.updatePriorityByProcForExtension platform fuel proc = .ok s' := by
  have hReached : ∀ extensionProc ∈ procVec, extensionProc.isExtension = true ∧
      s.Reaches proc extensionProc := fun _ hMem => mem_of_getConnectedExtensionProc hWf hVec hMem
  obtain ⟨sorted, hSorted⟩ := @calculateExtensionProcPrio_of_not_dangling s procVec .nil
    fun extensionProc hMem => hToMe extensionProc (hReached _ hMem).2 (hReached _ hMem).1
  have hRecorded : ∀ extensionProcess ∈ SearchTree.inorder sorted, ∃ extensionProc priority,
      extensionProc ∈ procVec ∧ extensionProcess = extensionProc.setPriority priority := by
    intro extensionProcess hMem
    rcases mem_of_calculateExtensionProcPrio hSorted hMem with hNone | ⟨other, hOther, priority, -, hIs⟩
    · cases hNone
    · exact ⟨other, priority, hOther, hIs⟩
  have hSet : ∃ s', setConnectExtensionProcPrio platform (SearchTree.inorder sorted) s = .ok s' := by
    refine setConnectExtensionProcPrio_of_not_dangling hWf ?_ ?_
    · intro extensionProcess hMem binding hBinding
      obtain ⟨other, _, hOther, rfl⟩ := hRecorded _ hMem
      exact hToMe other (hReached _ hOther).2 (hReached _ hOther).1 binding hBinding
    · intro extensionProcess hMem hDangling
      obtain ⟨other, _, hOther, rfl⟩ := hRecorded _ hMem
      obtain ⟨_, _, hTracked⟩ := hTracks.of_reaches (hReached _ hOther).2
      have hLookup := (hWf.lookupProc_self hTracked).symm.trans (lookupProc_of_dangling hDangling)
      cases hLookup
  obtain ⟨s', hSet⟩ := hSet
  by_cases hNone : procVec.length = 0
  · refine ⟨s, bind_eq_ok.mpr ⟨procVec, hVec, ?_⟩⟩
    rw [if_pos hNone]
    rfl
  · refine ⟨s', bind_eq_ok.mpr ⟨procVec, hVec, ?_⟩⟩
    rw [if_neg hNone]
    exact bind_eq_ok.mpr ⟨sorted, hSorted, hSet⟩

/-- Where everything resolves, carrying a change on only runs out of iterations. -/
theorem updatePriorityByProcForExtension_ne_outOfRange (hWf : WellFormed s) {bundle : BundleRef}
    {pid : Int} {proc : ProcessPriorityInfo} (hTracks : s.TracksProc bundle pid proc)
    (hFromMe : s.FromMeResolved proc) (hToMe : s.ToMeResolved proc) (fuel : Nat) :
    s.updatePriorityByProcForExtension platform fuel proc ≠ .error .outOfRange := by
  intro hRun
  rcases bind_eq_error.mp hRun with hSearch | ⟨procVec, hVec, -⟩
  · rcases loop_eq_error hWf reach_start hSearch with
      hFuel | ⟨node, hReach, binding, hMem, hDangling⟩
    · cases hFuel
    · exact hFromMe node hReach binding hMem hDangling
  · obtain ⟨s', hReturns⟩ := updatePriorityByProcForExtension_of_search hWf hTracks hToMe hVec
    cases hReturns.symm.trans hRun

/-- While pids identify processes, carrying a change on throws at the first thing that
does not resolve; the connectors are only looked up when the search ends. -/
theorem updatePriorityByProcForExtension_ne_outOfRange_iff (hWf : WellFormed s) {bundle : BundleRef}
    {pid : Int} {proc : ProcessPriorityInfo} (hTracks : s.TracksProc bundle pid proc)
    (hIdentified : s.IdentifiedByPid proc) :
    (∀ fuel, s.updatePriorityByProcForExtension platform fuel proc ≠ .error .outOfRange) ↔
      s.FromMeResolved proc ∧ (s.Acyclic proc → s.ToMeResolved proc) := by
  constructor
  · intro hNever
    have hFromMe : s.FromMeResolved proc := by
      intro node hReach binding hMem hDangling
      obtain ⟨fuel, hThrows⟩ :=
        hWf.getConnectedExtensionProc_throws hIdentified hReach hMem hDangling
      exact hNever fuel (bind_eq_error.mpr (Or.inl hThrows))
    refine ⟨hFromMe, fun hAcyclic node hReach hExtension binding hMem hDangling => ?_⟩
    obtain ⟨fuel, procVec, hVec, hExact, -⟩ :=
      hWf.findsExtensions ⟨hIdentified.separate, hAcyclic, hFromMe⟩
    have hFound : node ∈ procVec := (hExact node).mpr ⟨hExtension, hReach⟩
    refine hNever fuel (bind_eq_error.mpr (Or.inr ⟨procVec, hVec, ?_⟩))
    rw [if_neg (List.length_pos_of_mem hFound).ne',
      calculateExtensionProcPrio_of_dangling hFound hMem hDangling]
    rfl
  · rintro ⟨hFromMe, hToMe⟩ fuel hRun
    by_cases hAcyclic : s.Acyclic proc
    · exact updatePriorityByProcForExtension_ne_outOfRange hWf hTracks hFromMe (hToMe hAcyclic) fuel hRun
    · -- A search that goes round a cycle never comes to the connectors.
      rcases bind_eq_error.mp hRun with hSearch | ⟨procVec, hVec, -⟩
      · rcases loop_eq_error hWf reach_start hSearch with hFuel | ⟨node, hReach, binding, hMem, hIs⟩
        · cases hFuel
        · exact hFromMe node hReach binding hMem hIs
      · exact hAcyclic fun node hReach =>
          not_transGen_of_search hIdentified.separate (hWf.search_of_loop hVec) hReach

/-! The lookups of a request's own processes. -/

/-- A look-up throws exactly for a dangling pair. -/
theorem lookupProc_eq_error {pid uid : Int} {fault : Fault} :
    s.lookupProc pid uid (getOsAccountIdByUid uid) = .error fault ↔
      fault = .outOfRange ∧ s.Dangling (pid, uid) := by
  rcases lookupProc_binding pid uid with ⟨hIs, hFault⟩ | ⟨hNot, found, hFound, -⟩
  · rw [hFault, Except.error.injEq, eq_comm]
    exact (and_iff_left hIs).symm
  · rw [hFound]
    constructor
    · intro hRun
      cases hRun
    · intro hRun
      exact absurd hRun.2 hNot

namespace ReclaimPriorityManager

/-- A request throws before anything is recomputed. Only a tracked reason looks its
process up past the bundle's own priority. -/
def OwnDangling (s : ReclaimPriorityManager) (request : UpdateRequest) : Prop :=
  match request.reason with
  | .bindExtension | .unbindExtension =>
      s.Dangling (request.caller.pid, request.caller.uid) ∨
        s.Dangling (request.target.pid, request.target.uid)
  | .abilityStart => s.Dangling (request.target.pid, request.target.uid)
  | .createProcess | .renderCreateProcess | .applicationSuspend => False
  | _ => s.Dangling (request.target.pid, request.target.uid) ∧
      ∀ bundle, s.findBundle request.target.uid (getOsAccountIdByUid request.target.uid) = some bundle →
        reclaimPriorityKillableSystem < (s.bundles bundle).priority

end ReclaimPriorityManager

variable {request : UpdateRequest} {eventTime : Int} {fault : Fault}

/-- The start of an ability throws exactly when its target dangles. -/
theorem handleAbilityStart_eq_error :
    s.handleAbilityStart platform request eventTime = .error fault ↔
      fault = .outOfRange ∧ s.Dangling (request.target.pid, request.target.uid) := by
  rw [handleAbilityStart, bind_eq_error, lookupProc_eq_error]
  apply or_iff_left
  rintro ⟨found, -, hRun⟩
  cases found with
  | none => cases hRun
  | some found =>
      dsimp only at hRun
      split_ifs at hRun <;> cases hRun

/-- Preparing the target throws exactly when the target dangles. -/
theorem prepareTarget_eq_error :
    s.prepareTarget services request eventTime = .error fault ↔
      fault = .outOfRange ∧ s.Dangling (request.target.pid, request.target.uid) := by
  rw [prepareTarget, bind_eq_error, lookupProc_eq_error]
  apply or_iff_left
  rintro ⟨found, -, hRun⟩
  cases found with
  | none => cases hRun
  | some found =>
      dsimp only at hRun
      split_ifs at hRun <;> cases hRun

/-- The status of the caller is updated unless the caller dangles. -/
theorem updateExtensionStatusForCaller_eq_error :
    s.updateExtensionStatusForCaller request = .error fault ↔
      fault = .outOfRange ∧ s.Dangling (request.caller.pid, request.caller.uid) := by
  rw [updateExtensionStatusForCaller, bind_eq_error, lookupProc_eq_error]
  apply or_iff_left
  rintro ⟨found, -, hRun⟩
  cases found with
  | none => cases hRun
  | some found =>
      dsimp only at hRun
      split at hRun <;> cases hRun

/-- Recording an edge of the caller loses no process. -/
theorem dangling_updateExtensionStatusForCaller (hWf : WellFormed s)
    {caller : ReclaimPriorityManager × Bool}
    (hRun : s.updateExtensionStatusForCaller request = .ok caller) (binding : Int × Int) :
    caller.1.Dangling binding ↔ s.Dangling binding := by
  have hSet : ∀ {bundle proc proc'}, (s.bundles bundle).procs[request.caller.pid]? = some proc →
      proc'.pid = proc.pid → ((s.setProc bundle proc').Dangling binding ↔ s.Dangling binding) := by
    intro bundle proc proc' hProc hPid
    have hMissing : ∀ other, ((s.setProc bundle proc').bundles other).procs[binding.1]? = none ↔
        (s.bundles other).procs[binding.1]? = none := by
      intro other
      rw [setProc, modifyBundle_bundles, Function.update_apply]
      split_ifs with hOther
      · rw [BundlePriorityInfo.setProc_procs, hPid, ((hWf.covered bundle).record _ _ hProc).pid, hOther]
        split_ifs with hKey
        · rw [← hKey, hProc]
          simp
        · rfl
      · rfl
    have hFind : (s.setProc bundle proc').findBundle = s.findBundle := findBundle_congr rfl
    simp only [Dangling, hFind, hMissing]
  obtain ⟨found, hFound, hRun⟩ := bind_eq_ok.mp hRun
  cases found with
  | none =>
      cases hRun
      rfl
  | some found =>
      obtain ⟨-, hProc⟩ := lookupProc_eq_some.mp hFound
      dsimp only at hRun
      split at hRun
      · cases hRun
        apply hSet hProc
        rfl
      · cases hRun
        apply hSet hProc
        rfl
      · cases hRun
        rfl

/-- A binding throws exactly when its caller or its target dangles. -/
theorem prepareBinding_eq_error (hWf : WellFormed s) :
    s.prepareBinding services request eventTime = .error fault ↔
      fault = .outOfRange ∧ (s.Dangling (request.caller.pid, request.caller.uid) ∨
        s.Dangling (request.target.pid, request.target.uid)) := by
  rw [prepareBinding, bind_eq_error, updateExtensionStatusForCaller_eq_error]
  constructor
  · rintro (⟨hFault, hCaller⟩ | ⟨caller, hCaller, hRun⟩)
    · exact ⟨hFault, Or.inl hCaller⟩
    · obtain ⟨hFault, hTarget⟩ := prepareTarget_eq_error.mp hRun
      exact ⟨hFault, Or.inr ((dangling_updateExtensionStatusForCaller hWf hCaller _).mp hTarget)⟩
  · rintro ⟨hFault, hDangling⟩
    cases hCaller : s.updateExtensionStatusForCaller request with
    | error other =>
        obtain ⟨-, hIs⟩ := updateExtensionStatusForCaller_eq_error.mp hCaller
        exact Or.inl ⟨hFault, hIs⟩
    | ok caller =>
        refine Or.inr ⟨caller, rfl, prepareTarget_eq_error.mpr ⟨hFault, ?_⟩⟩
        rw [dangling_updateExtensionStatusForCaller hWf hCaller]
        apply hDangling.resolve_left
        intro hIs
        rw [updateExtensionStatusForCaller_eq_error.mpr ⟨rfl, hIs⟩] at hCaller
        cases hCaller

/-- A process exists for the service if its bundle is found and holds its pid, or the pid is the
ignored one. -/
theorem isProcExist_iff {pid bundleUid accountId : Int} :
    s.isProcExist pid bundleUid accountId = true ↔ ∃ bundle,
      s.findBundle bundleUid accountId = some bundle ∧
        (pid = ignorePid ∨ (s.bundles bundle).procs[pid]? ≠ none) := by
  rw [isProcExist]
  cases s.findBundle bundleUid accountId with
  | none => simp
  | some bundle =>
      simp only [Option.some.injEq, exists_eq_left', Option.ne_none_iff_exists',
        ← BundlePriorityInfo.hasProc_iff]
      split_ifs with hIgnore
      · exact iff_of_true rfl (Or.inl hIgnore)
      · exact (or_iff_right hIgnore).symm

/-- A request on a tracked bundle throws exactly when it looks its target up and the
target dangles. -/
theorem prepareTracked_eq_error :
    s.prepareTracked platform request eventTime = .error fault ↔
      fault = .outOfRange ∧ request.reason ≠ .applicationSuspend ∧
        s.Dangling (request.target.pid, request.target.uid) ∧
        ∀ bundle, s.findBundle request.target.uid (getOsAccountIdByUid request.target.uid) =
          some bundle → reclaimPriorityKillableSystem < (s.bundles bundle).priority := by
  rw [prepareTracked]
  by_cases hExist : s.isProcExist request.target.pid request.target.uid
      (getOsAccountIdByUid request.target.uid) = true
  · obtain ⟨bundle, hFind, hHeld⟩ := isProcExist_iff.mp hExist
    have hDangling : s.Dangling (request.target.pid, request.target.uid) ↔
        (s.bundles bundle).procs[request.target.pid]? = none := by
      simp only [Dangling, hFind, Option.some.injEq, exists_eq_left']
      exact and_iff_right_of_imp fun hNone => hHeld.resolve_right fun hSome => hSome hNone
    rw [if_pos hExist, hDangling]
    simp only [hFind, Option.some.injEq, forall_eq']
    by_cases hPriority : (s.bundles bundle).priority ≤ reclaimPriorityKillableSystem
    · rw [if_pos hPriority]
      simp only [not_lt.mpr hPriority, and_false, reduceCtorEq]
    · rw [if_neg hPriority]
      by_cases hSuspend : request.reason = .applicationSuspend
      · simp [hSuspend]
      · have hLast : ∀ proc, (if request.reason = .processTerminated then
              (return .done (s.handleTerminateProcess platform proc bundle
                (getOsAccountIdByUid request.target.uid)).1 : Except Fault Prepared)
            else return s.prepareUpdate request.reason bundle proc eventTime) ≠ .error fault := by
          intro proc hRun
          split_ifs at hRun <;> cases hRun
        rw [if_neg hSuspend, bind_eq_error, BundlePriorityInfo.findProcByPid_eq_error,
          or_iff_left (fun hRun => hLast _ hRun.choose_spec.2), and_comm]
        simp only [hSuspend, ne_eq, not_false_eq_true, true_and, not_le.mp hPriority, and_true]
  · rw [if_neg hExist]
    constructor
    · intro hRun
      cases hRun
    · rintro ⟨-, -, ⟨hIgnore, bundle, hFind, -⟩, -⟩
      exact absurd (isProcExist_iff.mpr ⟨bundle, hFind, Or.inl hIgnore⟩) hExist

/-- A request throws before any priority is recomputed exactly when one of its own pairs dangles. -/
theorem prepareRequest_eq_error (hWf : WellFormed s) :
    s.prepareRequest platform services request eventTime = .error fault ↔
      fault = .outOfRange ∧ s.OwnDangling request := by
  rw [prepareRequest, OwnDangling]
  cases hReason : request.reason
  case bindExtension => exact prepareBinding_eq_error hWf
  case unbindExtension => exact prepareBinding_eq_error hWf
  case createProcess => simp
  case renderCreateProcess => simp
  case abilityStart =>
    rw [bind_eq_error, handleAbilityStart_eq_error]
    apply or_iff_left
    rintro ⟨started, -, hRun⟩
    cases hRun
  case applicationSuspend =>
    rw [prepareTracked_eq_error, hReason]
    simp
  all_goals
    rw [prepareTracked_eq_error, hReason]
    simp

/-- The rest of a request throws where carrying the change on does. -/
theorem finish_eq_error {bundle : BundleRef} {proc : ProcessPriorityInfo} {fuel : Nat}
    (h : s.Recomputable bundle proc) :
    (Prepared.recompute s bundle proc).finish platform fuel = .error fault ↔
      0 ≤ (s.bundles bundle).priority ∧
        (withFlagPriority platform s bundle proc).updatePriorityByProcForExtension platform fuel
          (proc.setPriority proc.statusPriority) = .error fault := by
  obtain ⟨hWf, pid, hTracks⟩ := h
  have hReturn : ¬ ∃ s', s.updatePriorityByProcStatus platform fuel bundle proc = .ok s' ∧
      (return s'.writeBundleOomScoreAdj bundle : Except Fault ReclaimPriorityManager) = .error fault := by
    rintro ⟨s', -, hRun⟩
    cases hRun
  rw [Prepared.finish, bind_eq_error, or_iff_left hReturn, updatePriorityByProcStatus_eq hWf hTracks]
  split_ifs with hLess
  · simp only [false_iff, not_and]
    exact fun hNonneg => absurd hNonneg (not_le.mpr hLess)
  · exact (and_iff_right (not_lt.mp hLess)).symm

/-! Looked up in the state before the priorities change, the same processes resolve. -/

section

variable {result : ProcessPriorityInfo → Prop} {proc : ProcessPriorityInfo} {bundle : BundleRef} {pid : Int}

/-- A new priority changes nothing of whether the extensions of a process are found. -/
theorem fromMeResolved_iff (h : Repricing result s s') (priority : Int) :
    s'.FromMeResolved (proc.setPriority priority) ↔ s.FromMeResolved proc := by
  constructor
  · intro hResolved node hReach binding hMem hDangling
    obtain ⟨other, hOther⟩ := h.reaches_after priority hReach
    exact hResolved _ hOther binding hMem ((h.dangling_iff binding).mpr hDangling)
  · intro hResolved node hReach binding hMem hDangling
    obtain ⟨before, hBefore, hSame⟩ := h.reaches_before hReach
    rw [hSame] at hMem
    exact hResolved before hBefore binding hMem ((h.dangling_iff binding).mp hDangling)

/-- A new priority changes nothing of whether the connectors of a process are found. -/
theorem toMeResolved_iff (h : Repricing result s s') (priority : Int) :
    s'.ToMeResolved (proc.setPriority priority) ↔ s.ToMeResolved proc := by
  constructor
  · intro hResolved node hReach hExtension binding hMem hDangling
    obtain ⟨other, hOther⟩ := h.reaches_after priority hReach
    exact hResolved _ hOther hExtension binding hMem ((h.dangling_iff binding).mpr hDangling)
  · intro hResolved node hReach hExtension binding hMem hDangling
    obtain ⟨before, hBefore, hSame⟩ := h.reaches_before hReach
    rw [hSame] at hMem hExtension
    exact hResolved before hBefore hExtension binding hMem ((h.dangling_iff binding).mp hDangling)

/-- The same edges between the records in the same places. -/
theorem transGen_repriced (h : Repricing result s s') {node next : ProcessPriorityInfo}
    (hPath : TransGen (UnmarkedEdge isExtension s.boundProcs) node next)
    {place : BundleRef} {key : Int} (hNode : s.TracksProc place key node) :
    ∃ place' key', s.TracksProc place' key' next ∧ ∀ node' next',
      s'.TracksProc place key node' → s'.TracksProc place' key' next' →
      TransGen (UnmarkedEdge isExtension s'.boundProcs) node' next' := by
  have hEdge : ∀ {node next : ProcessPriorityInfo} {place : BundleRef} {key : Int},
      UnmarkedEdge isExtension s.boundProcs node next → s.TracksProc place key node →
      ∃ place' key', s.TracksProc place' key' next ∧ ∀ node' next',
        s'.TracksProc place key node' → s'.TracksProc place' key' next' →
        UnmarkedEdge isExtension s'.boundProcs node' next' := by
    intro node next place key ⟨hUnmarked, hNext⟩ hNode
    obtain ⟨pid, uid, hBinding, hBound⟩ := mem_boundProcs.mp hNext
    obtain ⟨owner, hFind, hProc⟩ := boundProc_eq_some.mp hBound
    refine ⟨owner, pid, ⟨⟨_, _, hFind⟩, hProc⟩, fun node' next' hNode' hNext' => ?_⟩
    obtain ⟨priority, hRecord, -⟩ := h.record hNode.2
    obtain rfl := Option.some.inj (hNode'.2.symm.trans hRecord)
    rw [← findBundle_congr h.osAccountsInfoMap] at hFind
    exact ⟨hUnmarked, mem_boundProcs.mpr ⟨pid, uid, hBinding, boundProc_eq_some.mpr
      ⟨owner, hFind, hNext'.2⟩⟩⟩
  induction hPath with
  | single hStep =>
      obtain ⟨place', key', hNext, hSingle⟩ := hEdge hStep hNode
      exact ⟨place', key', hNext, fun node' next' hNode' hNext' => .single (hSingle _ _ hNode' hNext')⟩
  | tail _ hStep ih =>
      obtain ⟨middle, middleKey, hMiddle, hPrior⟩ := ih
      obtain ⟨place', key', hNext, hLast⟩ := hEdge hStep hMiddle
      obtain ⟨priority, hMiddle'⟩ := h.tracksProc hMiddle
      exact ⟨place', key', hNext, fun node' next' hNode' hNext' =>
        (hPrior _ _ hNode' hMiddle').tail (hLast _ _ hMiddle' hNext')⟩

/-- Where there is no cycle after the change of a priority, there was none before. -/
theorem acyclic_of_repriced (hWf : WellFormed s) (hWf' : WellFormed s') (h : Repricing result s s')
    {priority : Int} (hTracks : s.TracksProc bundle pid proc)
    (hTracks' : s'.TracksProc bundle pid (proc.setPriority priority))
    (hAcyclic : s'.Acyclic (proc.setPriority priority)) : s.Acyclic proc := by
  intro node hReach hCycle
  obtain ⟨place, key, hNode⟩ := hTracks.of_reaches hReach
  obtain ⟨other, hOther⟩ := h.reaches_after priority hReach
  obtain ⟨place', key', hOtherTracks⟩ := hTracks'.of_reaches hOther
  obtain ⟨again, hAgain⟩ := h.tracksProc hNode
  have hSame : node.setPriority other = node.setPriority again :=
    hWf'.record_unique hAgain hOtherTracks rfl rfl
  obtain ⟨_, _, hEnd, hImage⟩ := transGen_repriced h hCycle hNode
  obtain ⟨rfl, rfl⟩ := hWf.place_unique hNode hEnd
  rw [hSame] at hOther
  exact hAcyclic _ hOther (hImage _ _ hAgain hAgain)

/-- A change of priority neither closes nor opens a cycle. -/
theorem acyclic_iff (hWf : WellFormed s) (hWf' : WellFormed s') (h : Repricing result s s')
    {priority : Int} (hTracks : s.TracksProc bundle pid proc)
    (hTracks' : s'.TracksProc bundle pid (proc.setPriority priority)) :
    s'.Acyclic (proc.setPriority priority) ↔ s.Acyclic proc := by
  have hBack : (proc.setPriority priority).setPriority proc.priority = proc := by
    rw [setPriority_setPriority, setPriority_self]
  constructor
  · exact acyclic_of_repriced hWf hWf' h hTracks hTracks'
  · intro hAcyclic
    apply acyclic_of_repriced hWf' hWf h.symm hTracks' (hBack.symm ▸ hTracks)
    exact hBack.symm ▸ hAcyclic

/-- Processes stay identified by their pids when a priority changes. -/
theorem identifiedByPid_of_repriced (hWf' : WellFormed s') (h : Repricing result s s') {priority : Int}
    (hTracks' : s'.TracksProc bundle pid (proc.setPriority priority))
    (hIdentified : s.IdentifiedByPid proc) : s'.IdentifiedByPid (proc.setPriority priority) := by
  constructor
  · intro node other hNode hOther hExtension hPid
    obtain ⟨before, hBefore, hSame⟩ := h.reaches_before hNode
    obtain ⟨otherBefore, hOtherBefore, hOtherSame⟩ := h.reaches_before hOther
    rw [hSame] at hExtension
    rw [hSame, hOtherSame] at hPid
    have hBoth : otherBefore = before :=
      hIdentified.separate before otherBefore hBefore hOtherBefore hExtension hPid
    obtain ⟨_, _, hNodeTracks⟩ := hTracks'.of_reaches hNode
    obtain ⟨_, _, hOtherTracks⟩ := hTracks'.of_reaches hOther
    apply hWf'.record_unique hNodeTracks hOtherTracks
    · rw [hSame, hOtherSame, hBoth]
      rfl
    · rw [hSame, hOtherSame, hBoth]
      rfl
  · intro node hNode hExtension
    obtain ⟨before, hBefore, hSame⟩ := h.reaches_before hNode
    rw [hSame] at hExtension ⊢
    exact hIdentified.notIgnored before hBefore hExtension

end

namespace ReclaimPriorityManager

/-- Every lookup resolves that carrying a change of a process on comes to. -/
def SearchResolved (s : ReclaimPriorityManager) (proc : ProcessPriorityInfo) : Prop :=
  s.FromMeResolved proc ∧ (s.Acyclic proc → s.ToMeResolved proc)

end ReclaimPriorityManager

/-- No lookup of a request throws: neither of its own processes, nor of those it
carries the change on to. -/
theorem finish_ne_outOfRange {bundle : BundleRef} {proc : ProcessPriorityInfo}
    (h : s.Recomputable bundle proc)
    (hResolved : 0 ≤ (s.bundles bundle).priority → s.FromMeResolved proc ∧ s.ToMeResolved proc)
    (fuel : Nat) : (Prepared.recompute s bundle proc).finish platform fuel ≠ .error .outOfRange := by
  intro hRun
  obtain ⟨hNonneg, hThrows⟩ := (finish_eq_error h).mp hRun
  obtain ⟨hWf, pid, hTracks⟩ := h
  obtain ⟨hFromMe, hToMe⟩ := hResolved hNonneg
  have hRepricing : Repricing (fun _ => True) s (withFlagPriority platform s bundle proc) :=
    repricing_withFlagPriority hWf hTracks
  exact updatePriorityByProcForExtension_ne_outOfRange (hWf.withFlagPriority hTracks)
    (tracksProc_withFlagPriority hWf hTracks) ((fromMeResolved_iff hRepricing _).mpr hFromMe)
    ((toMeResolved_iff hRepricing _).mpr hToMe) fuel hThrows

/-- The recomputation does not throw exactly when the search from its process finds all it looks up,
or is not made. -/
theorem finish_ne_outOfRange_iff {bundle : BundleRef} {proc : ProcessPriorityInfo}
    (h : s.Recomputable bundle proc) (hIdentified : s.IdentifiedByPid proc) :
    (∀ fuel, (Prepared.recompute s bundle proc).finish platform fuel ≠ .error .outOfRange) ↔
      (0 ≤ (s.bundles bundle).priority → s.SearchResolved proc) := by
  have hFinish : ∀ fuel, ¬ (Prepared.recompute s bundle proc).finish platform fuel =
      .error .outOfRange ↔ _ := fun _ => not_congr (finish_eq_error h)
  obtain ⟨hWf, pid, hTracks⟩ := h
  have hRepricing : Repricing (fun _ => True) s (withFlagPriority platform s bundle proc) :=
    repricing_withFlagPriority hWf hTracks
  have hWf' : WellFormed (withFlagPriority platform s bundle proc) := hWf.withFlagPriority hTracks
  have hTracks' : (withFlagPriority platform s bundle proc).TracksProc bundle pid
      (proc.setPriority proc.statusPriority) := tracksProc_withFlagPriority hWf hTracks
  have hCarried := @updatePriorityByProcForExtension_ne_outOfRange_iff platform _ hWf' _ _ _ hTracks'
    (identifiedByPid_of_repriced hWf' hRepricing hTracks' hIdentified)
  rw [fromMeResolved_iff hRepricing, toMeResolved_iff hRepricing,
    acyclic_iff hWf hWf' hRepricing hTracks hTracks'] at hCarried
  simp only [hFinish, not_and]
  rw [SearchResolved, ← hCarried]
  exact forall_comm

namespace ReclaimPriorityManager

/-- However many iterations its loops get, the request does not throw. -/
def NeverThrows (platform : Platform) (services : Services) (s : ReclaimPriorityManager)
    (request : UpdateRequest) (eventTime : Int) : Prop :=
  ∀ fuel, s.updateReclaimPriorityInner platform services fuel request eventTime ≠ .error .outOfRange

/-- Once the flags and edges of a request are set, a condition holds of the process
whose change is carried on. -/
def CarriesOn (platform : Platform) (services : Services) (s : ReclaimPriorityManager)
    (request : UpdateRequest) (eventTime : Int)
    (condition : ReclaimPriorityManager → ProcessPriorityInfo → Prop) : Prop :=
  ∀ s' bundle proc, s.prepareRequest platform services request eventTime =
    .ok (.recompute s' bundle proc) → 0 ≤ (s'.bundles bundle).priority → condition s' proc

end ReclaimPriorityManager

/-- A request never throws exactly when none of its own pairs dangles and its recomputation does
not throw. -/
theorem neverThrows_iff (hWf : WellFormed s) :
    s.NeverThrows platform services request eventTime ↔ ¬ s.OwnDangling request ∧
      ∀ s' bundle proc, s.prepareRequest platform services request eventTime =
        .ok (.recompute s' bundle proc) →
      ∀ fuel, (Prepared.recompute s' bundle proc).finish platform fuel ≠ .error .outOfRange := by
  have hRequest : ∀ fuel, s.updateReclaimPriorityInner platform services fuel request eventTime =
      .error .outOfRange ↔ s.OwnDangling request ∨
        ∃ prepared, s.prepareRequest platform services request eventTime = .ok prepared ∧
          prepared.finish platform fuel = .error .outOfRange := by
    intro fuel
    have hOwn : s.prepareRequest platform services request eventTime = .error .outOfRange ↔
        s.OwnDangling request := by
      rw [prepareRequest_eq_error hWf]
      exact and_iff_right rfl
    rw [← hOwn, ← bind_eq_error, ← updateReclaimPriorityInner_eq]
    cases s.updateReclaimPriorityInner platform services fuel request eventTime <;>
      simp [Functor.map, Except.map]
  constructor
  · intro hNever
    refine ⟨fun hOwn => hNever 0 ((hRequest 0).mpr (Or.inl hOwn)), ?_⟩
    intro s' bundle proc hPrepare fuel hThrows
    exact hNever fuel ((hRequest fuel).mpr (Or.inr ⟨_, hPrepare, hThrows⟩))
  · rintro ⟨hOwn, hFinish⟩ fuel hThrows
    rcases (hRequest fuel).mp hThrows with hIs | ⟨prepared, hPrepare, hRun⟩
    · exact hOwn hIs
    · cases prepared with
      | done s' => cases hRun
      | recompute s' bundle proc => exact hFinish s' bundle proc hPrepare fuel hRun

/-- The synchronous path throws exactly for the start of an ability whose target dangles. -/
theorem updateRecalimPrioritySyncWithLock_eq_error {systemTimeMs : Int} :
    s.updateRecalimPrioritySyncWithLock platform request systemTimeMs = .error fault ↔
      fault = .outOfRange ∧ s.initialized = true ∧ request.reason = .abilityStart ∧
        s.Dangling (request.target.pid, request.target.uid) := by
  rw [updateRecalimPrioritySyncWithLock]
  cases s.initialized with
  | false => simp
  | true =>
      by_cases hStart : request.reason = .abilityStart
      · simp [hStart, handleAbilityStart_eq_error]
      · simp [hStart]

namespace Service

variable {sys : Service}

/-- A request throws for `ignorePid` only: its own, in a bundle it names that does not
hold it, or one recorded as an end of a binding that its change is carried along. -/
theorem Run.neverThrows (run : Run platform anyOp sys) (services : Services) (request : UpdateRequest)
    (eventTime : Int) :
    (¬ sys.manager.OwnDangling request ∧
        sys.manager.CarriesOn platform services request eventTime
          (fun s proc => s.FromMeResolved proc ∧ s.ToMeResolved proc) →
      sys.manager.NeverThrows platform services request eventTime) ∧
    (sys.manager.CarriesOn platform services request eventTime
        ReclaimPriorityManager.IdentifiedByPid →
      (sys.manager.NeverThrows platform services request eventTime ↔
        ¬ sys.manager.OwnDangling request ∧
          sys.manager.CarriesOn platform services request eventTime
            ReclaimPriorityManager.SearchResolved)) ∧
    (sys.manager.updateRecalimPrioritySyncWithLock platform request eventTime ≠ .error .outOfRange ↔
      ¬ (sys.manager.initialized = true ∧ request.reason = .abilityStart ∧
        sys.manager.Dangling (request.target.pid, request.target.uid))) := by
  have hWf : WellFormed sys.manager := run.wellFormed
  refine ⟨?_, ?_, ?_⟩
  · rintro ⟨hOwn, hResolved⟩
    rw [neverThrows_iff hWf]
    refine ⟨hOwn, fun s' bundle proc hPrepare => ?_⟩
    apply finish_ne_outOfRange (prepareRequest_recompute hWf hPrepare)
    exact hResolved s' bundle proc hPrepare
  · intro hIdentified
    rw [neverThrows_iff hWf]
    apply and_congr_right
    intro _
    apply forall₄_congr
    intro s' bundle proc hPrepare
    have hRecomputable := prepareRequest_recompute hWf hPrepare
    by_cases hNonneg : 0 ≤ (s'.bundles bundle).priority
    · exact finish_ne_outOfRange_iff hRecomputable (hIdentified s' bundle proc hPrepare hNonneg)
    · refine iff_of_true (fun fuel => ?_) fun hIs => absurd hIs hNonneg
      exact finish_ne_outOfRange hRecomputable (fun hIs => absurd hIs hNonneg) fuel
  · apply not_congr
    rw [updateRecalimPrioritySyncWithLock_eq_error]
    exact and_iff_right rfl

open Scenario

/-- The processes bound from one of `closed` are in `closed`, and no binding of one
names `ignorePid`. -/
theorem resolved_of_closed {closed : List ProcessPriorityInfo} {proc : ProcessPriorityInfo}
    (hStart : proc ∈ closed) (hClosed : ∀ node ∈ closed, ∀ next ∈ s.boundProcs node, next ∈ closed)
    (hBindings : ∀ node ∈ closed, ∀ binding ∈ node.procsBindFromMe.toList ++ node.procsBindToMe.toList,
      binding.1 ≠ ignorePid) : s.FromMeResolved proc ∧ s.ToMeResolved proc := by
  have hMem : ∀ {node}, s.Reaches proc node → node ∈ closed := fun hReach =>
    hReach.mem_of_closed hStart hClosed
  constructor
  · intro node hReach binding hBinding hDangling
    exact hBindings node (hMem hReach) binding (List.mem_append_left _ hBinding) hDangling.1
  · intro node hReach _ binding hBinding hDangling
    exact hBindings node (hMem hReach) binding (List.mem_append_right _ hBinding) hDangling.1

/-- The first of a chain of bound processes comes to the foreground. -/
def foregroundOfChain : UpdateRequest := ⟨⟨0, 0, "", ""⟩, ⟨1, 20000001, "", "20000001"⟩, .foreground⟩

def preparedForeground : ReclaimPriorityManager × ProcessPriorityInfo :=
  match chainOfBindings.manager.prepareRequest Scenario.platform Scenario.services foregroundOfChain 0 with
  | .ok (.recompute s _ proc) => (s, proc)
  | _ => (chainOfBindings.manager, .create 0 0 0 false)

/-- The theorem on a chain of bindings whose process comes to the foreground. -/
theorem neverThrows_foregroundOfChain :
    chainOfBindings.manager.NeverThrows Scenario.platform Scenario.services foregroundOfChain 0 := by
  refine (Run.neverThrows (run_reached (fun _ _ _ => trivial) (by decide)) _ _ _).1 ⟨?_, ?_⟩
  · rintro ⟨⟨hIgnore, -⟩, -⟩
    exact absurd hIgnore (by decide)
  · intro s bundle proc hPrepare _
    have hIs : preparedForeground = (s, proc) := by
      change chainOfBindings.manager.prepareRequest _ _ foregroundOfChain 0 = _ at hPrepare
      rw [preparedForeground, hPrepare]
    have hStart : preparedForeground.2 ∈ preparedForeground.2 ::
        [(2, 20000002), (3, 20000003)].filterMap preparedForeground.1.boundProc := List.mem_cons_self
    have hResolved : preparedForeground.1.FromMeResolved preparedForeground.2 ∧
        preparedForeground.1.ToMeResolved preparedForeground.2 :=
      resolved_of_closed hStart (by decide) (by decide)
    rw [hIs] at hResolved
    exact hResolved

/-- One process, and a notice about the devices of `ignorePid` in its bundle. -/
def oneProcess : Service := (reached [event .createProcess 1 20000001]).get (by decide)

/-- The ignored pid makes a request throw in a state that a run reaches. -/
theorem neverThrows_fails_for_ignorePid : Run Scenario.platform anyOp oneProcess ∧
    ¬ oneProcess.manager.NeverThrows Scenario.platform Scenario.services
      ⟨⟨0, 0, "", ""⟩, ⟨ignorePid, 20000001, "", "20000001"⟩, .distDeviceConnected⟩ 0 := by
  refine ⟨run_reached (fun _ _ _ => trivial) (by decide), fun hNever => hNever 0 ?_⟩
  rfl

end Service
end MemMgr
