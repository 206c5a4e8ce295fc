import MemMgr.ExtensionTurns
import MemMgr.StatusPriority

/-! What the priority of an extension should be once a change has been carried on: the
least of what its own flags say and what its connectors allow. The pass gives every
extension that priority where the connectors take their turns first. -/
namespace MemMgr

open Execution ReclaimPriorityManager ProcessPriorityInfo SearchTree

namespace ReclaimPriorityManager

variable (s : ReclaimPriorityManager)

/-- What a connector allows. One that is not tracked is a native client. -/
def connectorPriority (binding : Int × Int) : Int :=
  match s.boundProc binding with
  | some connector => max 0 connector.priority
  | none => 0

def leastConnectorPriority (proc : ProcessPriorityInfo) : Int :=
  proc.procsBindToMe.toList.foldl (fun least binding => min least (s.connectorPriority binding))
    reclaimPriorityBackground

/-- The right side of the equation for an extension. -/
def equationPriority (proc : ProcessPriorityInfo) : Int :=
  proc.capIfImportant (min proc.priorityByFlags (deltaPriority + s.leastConnectorPriority proc))

/-- One pass is enough: pids tell the processes apart, connectors that are extensions of the
pass take their turns first, and no bound of an important process stands in for better flags. -/
structure TakesTurns (start : ProcessPriorityInfo) : Prop where
  separate : QueueSearch.Separate pid isExtension s.boundProcs start
  ahead : ∀ proc, s.Reaches start proc → proc.isExtension = true →
    ∀ binding ∈ proc.procsBindToMe.toList, ∀ connector, s.boundProc binding = some connector →
      s.Reaches start connector → connector.isExtension = true →
      ∃ first ∈ s.turnOf connector, ∃ second ∈ s.turnOf proc, first < second
  unreplaced : ∀ proc, s.Reaches start proc → proc.isExtension = true → proc.isImportant = true →
    proc.priorityIfImportant ≤ proc.priority → proc.priorityIfImportant ≤ proc.priorityByFlags

end ReclaimPriorityManager

variable {platform : Platform} {s s₁ s' : ReclaimPriorityManager} {bundle : BundleRef} {pid : Int}
variable {proc start : ProcessPriorityInfo} {procVec procSet : List ProcessPriorityInfo}
variable {sorted : BinaryTree ProcessPriorityInfo} {fuel : Nat}

/-- The loop over the connectors computes the least of what they allow. -/
theorem minConnectorPriority_eq {bindings : List (Int × Int)} {least minExtensionPriority : Int}
    (hLeast : 0 ≤ least)
    (hRun : s.minConnectorPriority connectorView bindings least = .ok minExtensionPriority) :
    minExtensionPriority =
      bindings.foldl (fun least binding => min least (s.connectorPriority binding)) least := by
  induction bindings generalizing least with
  | nil => exact (Except.ok.inj hRun).symm
  | cons binding bindings ih =>
      obtain ⟨found, hFound, hRun⟩ := bind_eq_ok.mp hRun
      rcases lookupProc_binding (s := s) binding.1 binding.2 with ⟨-, hFault⟩ | ⟨-, again, hAgain, hBound⟩
      · rw [hFault] at hFound
        cases hFound
      · obtain rfl := Except.ok.inj (hFound.symm.trans hAgain)
        rw [List.foldl_cons, connectorPriority, hBound]
        cases found with
        | none =>
            rw [ih le_rfl hRun]
            simp [min_eq_right hLeast]
        | some found =>
            have hView : connectorView found.2.priority = max 0 found.2.priority := by
              rw [connectorView]
              split_ifs with hNeg
              · exact (max_eq_left hNeg.le).symm
              · exact (max_eq_right (not_lt.mp hNeg)).symm
            have hMin : (if least < connectorView found.2.priority then least
                else connectorView found.2.priority) = min least (max 0 found.2.priority) := by
              rw [hView]
              split_ifs with hLess
              · exact (min_eq_left hLess.le).symm
              · exact (min_eq_right (not_lt.mp hLess)).symm
            dsimp only at hRun
            rw [hMin] at hRun
            exact ih (le_min hLeast (le_max_left _ _)) hRun

/-- A process found for a binding is tracked under the pid of the binding. -/
theorem tracksProc_of_boundProc {binding : Int × Int} (hBound : s.boundProc binding = some proc) :
    ∃ bundle, s.TracksProc bundle binding.1 proc := by
  obtain ⟨bundle, hFind, hProc⟩ := boundProc_eq_some.mp hBound
  exact ⟨bundle, ⟨_, _, hFind⟩, hProc⟩

/-- What a binding leads to after new prices, it led to before, at another price. -/
theorem Repricing.bound_before {result : ProcessPriorityInfo → Prop} (h : Repricing result s s')
    {binding : Int × Int} {after : ProcessPriorityInfo} (hBound : s'.boundProc binding = some after) :
    ∃ before, s.boundProc binding = some before ∧ after = before.setPriority after.priority := by
  obtain ⟨bundle, hFind, hProc⟩ := boundProc_eq_some.mp hBound
  obtain ⟨before, hBefore, hSame, -⟩ := h.before hProc
  rw [findBundle_congr h.osAccountsInfoMap] at hFind
  exact ⟨before, boundProc_eq_some.mpr ⟨bundle, hFind, hBefore⟩, hSame⟩

/-- A connector that keeps its priority allows the same. -/
theorem Repricing.connectorPriority_eq {result : ProcessPriorityInfo → Prop} (h : Repricing result s s')
    {binding : Int × Int} (hKept : ∀ connector, s.boundProc binding = some connector →
      ∀ priority, ¬ result (connector.setPriority priority)) :
    s'.connectorPriority binding = s.connectorPriority binding := by
  have hBound : s'.boundProc binding = s.boundProc binding := by
    rw [boundProc, boundProc, findBundle_congr h.osAccountsInfoMap]
    cases hFind : s.findBundle binding.2 (getOsAccountIdByUid binding.2) with
    | none => rfl
    | some bundle =>
        rw [Option.bind_some, Option.bind_some]
        cases hProc : (s.bundles bundle).procs[binding.1]? with
        | none => exact h.missing hProc
        | some connector =>
            obtain ⟨priority, hRecord, rfl | hResult⟩ := h.record hProc
            · exact hRecord
            · have hIs : s.boundProc binding = some connector := by
                rw [boundProc, hFind]
                exact hProc
              exact absurd hResult (hKept connector hIs priority)
  rw [connectorPriority, connectorPriority, hBound]

/-- A turn computes the right side, unless a bound stands in for better flags. -/
theorem extensionPriority_eq (hUnreplaced : proc.isImportant = true →
      proc.priorityIfImportant ≤ proc.priority → proc.priorityIfImportant ≤ proc.priorityByFlags)
    (least : Int) :
    proc.extensionPriority least =
      proc.capIfImportant (min proc.priorityByFlags (deltaPriority + least)) := by
  rw [extensionPriority, getPriorityByProcStatus_eq, add_comm]
  split_ifs with hReplaced
  · have hFlags := hUnreplaced hReplaced.1 hReplaced.2
    simp only [capIfImportant, if_pos hReplaced.1]
    omega
  · rfl

/-- A listed process is one of the extensions the search found, with its place in the pass. -/
theorem listed_turn {listed : List ProcessPriorityInfo} (hWf : WellFormed s)
    (hTracks : s.TracksProc bundle pid start)
    (hVec : s.getConnectedExtensionProc fuel start = .ok procVec)
    (hSorted : s.calculateExtensionProcPrio procVec .nil = .ok sorted)
    (hSub : listed ⊆ inorder sorted) {owner : BundleRef} {key : Int} (hProc : s.TracksProc owner key proc)
    (hListed : Listed listed proc) :
    proc.isExtension = true ∧ s.Reaches start proc ∧
      ∃ extensionProcess ∈ listed, s.turnOf proc = some extensionProcess.turnKey := by
  obtain ⟨extensionProcess, hMem, hPid, hUid⟩ := hListed
  rcases mem_of_calculateExtensionProcPrio hSorted (hSub hMem) with hNone | ⟨other, hOther, least, hLeast, rfl⟩
  · cases hNone
  · obtain ⟨hExtension, hReach⟩ := mem_of_getConnectedExtensionProc hWf hVec hOther
    obtain ⟨_, _, hOtherTracks⟩ := hTracks.of_reaches hReach
    obtain rfl := hWf.record_unique hProc hOtherTracks hPid hUid
    exact ⟨hExtension, hReach, _, hMem, turnOf_eq_some hLeast⟩

/-- Every extension that is reached takes one turn, and the ones listed after it come later. -/
theorem exists_turn (hWf : WellFormed s) (hTracks : s.TracksProc bundle pid start)
    (hSeparate : QueueSearch.Separate ProcessPriorityInfo.pid isExtension s.boundProcs start)
    (hVec : s.getConnectedExtensionProc fuel start = .ok procVec)
    (hSorted : s.calculateExtensionProcPrio procVec .nil = .ok sorted)
    (hReach : s.Reaches start proc) (hExtension : proc.isExtension = true) :
    ∃ before after least, inorder sorted = before ++ proc.setPriority least :: after ∧
      s.turnOf proc = some (proc.setPriority least).turnKey ∧
      (∀ other ∈ after, (proc.setPriority least).turnKey < other.turnKey) ∧
      ¬ Listed before proc ∧ ¬ Listed after proc := by
  obtain ⟨hExact, hDistinct⟩ := QueueSearch.search_exact hSeparate (hWf.search_of_loop hVec)
  have hNew : ∀ other ∈ inorder (.nil : BinaryTree ProcessPriorityInfo), ∀ extensionProc ∈ procVec,
      other.pid ≠ extensionProc.pid := by simp
  have hEmpty : Ascending turnKey (inorder (.nil : BinaryTree ProcessPriorityInfo)) := List.Pairwise.nil
  obtain ⟨hAscending, -, hTurns⟩ :=
    ascending_calculateExtensionProcPrio hDistinct hNew hEmpty hSorted
  obtain ⟨least, hLeast, hMem⟩ := hTurns proc ((hExact proc).mpr ⟨hExtension, hReach⟩)
  have hTurn := turnOf_eq_some hLeast
  obtain ⟨before, after, hSplit⟩ := List.append_of_mem hMem
  rw [hSplit] at hAscending
  obtain ⟨-, hLater, hBefore⟩ := List.pairwise_append.mp hAscending
  have hAfter := (List.pairwise_cons.mp hLater).1
  have hSubBefore : before ⊆ inorder sorted := by
    rw [hSplit]
    exact List.subset_append_left _ _
  have hSubAfter : after ⊆ inorder sorted := by
    rw [hSplit]
    exact fun other hOther => List.mem_append_right _ (List.mem_cons_of_mem _ hOther)
  obtain ⟨owner, key, hProc⟩ := hTracks.of_reaches hReach
  refine ⟨before, after, least, hSplit, hTurn, hAfter, fun hListed => ?_, fun hListed => ?_⟩
  · obtain ⟨-, -, other, hOther, hAgain⟩ :=
      listed_turn hWf hTracks hVec hSorted hSubBefore hProc hListed
    exact absurd (Option.some.inj (hAgain.symm.trans hTurn)) (hBefore other hOther _ List.mem_cons_self).ne
  · obtain ⟨-, -, other, hOther, hAgain⟩ :=
      listed_turn hWf hTracks hVec hSorted hSubAfter hProc hListed
    exact absurd (Option.some.inj (hAgain.symm.trans hTurn)) (hAfter other hOther).ne'

/-- Carrying a change on computes every extension it reaches, in a turn of its own. -/
theorem updatePriorityByProcForExtension_turn (hWf : WellFormed s)
    (hTracks : s.TracksProc bundle pid start)
    (hSeparate : QueueSearch.Separate ProcessPriorityInfo.pid isExtension s.boundProcs start)
    (hRun : s.updatePriorityByProcForExtension platform fuel start = .ok s')
    (hReach : s.Reaches start proc) (hExtension : proc.isExtension = true) :
    ∃ procVec sorted before after least s₁ minExtensionPriority owner key,
      s.getConnectedExtensionProc fuel start = .ok procVec ∧
      s.calculateExtensionProcPrio procVec .nil = .ok sorted ∧
      inorder sorted = before ++ proc.setPriority least :: after ∧
      s.turnOf proc = some (proc.setPriority least).turnKey ∧
      (∀ other ∈ after, (proc.setPriority least).turnKey < other.turnKey) ∧
      PassTurn platform s s₁ s' owner key proc before (proc.setPriority least :: after)
        minExtensionPriority := by
  obtain ⟨procVec, hVec, hRun⟩ := bind_eq_ok.mp hRun
  obtain ⟨hExact, -⟩ := QueueSearch.search_exact hSeparate (hWf.search_of_loop hVec)
  have hFound : procVec.length ≠ 0 := by
    rw [Ne, List.length_eq_zero_iff]
    exact List.ne_nil_of_mem ((hExact proc).mpr ⟨hExtension, hReach⟩)
  rw [if_neg hFound] at hRun
  obtain ⟨sorted, hSorted, hRun⟩ := bind_eq_ok.mp hRun
  obtain ⟨before, after, least, hSplit, hTurn, hAfter, hNotBefore, hNotAfter⟩ :=
    exists_turn hWf hTracks hSeparate hVec hSorted hReach hExtension
  obtain ⟨owner, key, hProc⟩ := hTracks.of_reaches hReach
  rw [hSplit] at hRun
  obtain ⟨s₁, minExtensionPriority, hPass⟩ :=
    setConnectExtensionProcPrio_turn hWf hProc hNotBefore hNotAfter hRun
  exact ⟨procVec, sorted, before, after, least, s₁, minExtensionPriority, owner, key, hVec, hSorted,
    hSplit, hTurn, hAfter, hPass⟩

/-- Carrying a change on leaves every extension it reaches at the right side of its equation. -/
theorem updatePriorityByProcForExtension_equation (hWf : WellFormed s)
    (hTracks : s.TracksProc bundle pid start) (hTurns : s.TakesTurns start)
    (hRun : s.updatePriorityByProcForExtension platform fuel start = .ok s')
    (hReach : s.Reaches start proc) (hExtension : proc.isExtension = true) :
    ∃ owner key, s'.TracksProc owner key (proc.setPriority (s'.equationPriority proc)) := by
  obtain ⟨procVec, sorted, before, after, least, s₁, minExtensionPriority, owner, key, hVec, hSorted,
    hSplit, hTurn, hAfter, hPass⟩ :=
      updatePriorityByProcForExtension_turn hWf hTracks hTurns.separate hRun hReach hExtension
  have hRepricing := repricing_listed hPass.wellFormed hPass.rest
  -- The connectors have had their turns, so they stay as this turn read them.
  have hKept : ∀ binding ∈ proc.procsBindToMe.toList,
      s'.connectorPriority binding = s₁.connectorPriority binding := by
    intro binding hBinding
    apply hRepricing.connectorPriority_eq
    intro connector hConnector priority hListed
    obtain ⟨connector₀, hBound, hSame⟩ := (repricing_listed hWf hPass.first).bound_before hConnector
    have hSub : proc.setPriority least :: after ⊆ inorder sorted := by
      rw [hSplit]
      exact List.subset_append_right _ _
    obtain ⟨_, hOwner⟩ := tracksProc_of_boundProc hBound
    rw [hSame] at hListed
    obtain ⟨hIs, hReached, other, hOther, hLate⟩ :=
      listed_turn hWf hTracks hVec hSorted hSub hOwner hListed
    obtain ⟨first, hEarly, second, hSecond, hLess⟩ :=
      hTurns.ahead proc hReach hExtension binding hBinding connector₀ hBound hReached hIs
    obtain rfl := Option.some.inj (hEarly.symm.trans hLate)
    obtain rfl := Option.some.inj (hSecond.symm.trans hTurn)
    rcases List.mem_cons.mp hOther with rfl | hOther
    · exact lt_irrefl _ hLess
    · exact absurd (hAfter other hOther) hLess.asymm
  have hLeast : minExtensionPriority = s'.leastConnectorPriority proc := by
    rw [minConnectorPriority_eq (by decide) hPass.least, leastConnectorPriority]
    exact List.foldl_ext _ _ _ fun least binding hBinding => by rw [hKept binding hBinding]
  refine ⟨owner, key, ?_⟩
  rw [equationPriority, ← hLeast, ← extensionPriority_eq (hTurns.unreplaced proc hReach hExtension)]
  exact hPass.record

/-- The equation of a priority looks at the accounts and the heap alone. -/
theorem equationPriority_congr (hMap : s'.osAccountsInfoMap = s.osAccountsInfoMap)
    (hHeap : s'.bundles = s.bundles) : s'.equationPriority = s.equationPriority := by
  have hConnectors : s'.connectorPriority = s.connectorPriority := by
    funext binding
    rw [connectorPriority, connectorPriority, boundProc, boundProc, findBundle_congr hMap, hHeap]
  funext proc
  rw [equationPriority, equationPriority, leastConnectorPriority, leastConnectorPriority, hConnectors]

namespace Service

variable {sys sys' : Service} {op : Op}

/-- An event that computes a process again leaves every extension the process reaches at the
right side of its equation, where one pass is enough. -/
theorem Run.priority_eq_equation (run : Run platform anyOp sys)
    (hPrepare : sys.prepare platform op = .ok (.recompute s bundle proc))
    (hPriority : 0 ≤ (s.bundles bundle).priority)
    (hTurns : (withFlagPriority platform s bundle proc).TakesTurns
      (proc.setPriority proc.statusPriority))
    (hExec : sys.exec platform fuel op = .ok sys') :
    ∀ start, sys'.manager.TracksProc bundle proc.pid start →
      ∀ other, other.isExtension = true → sys'.manager.Reaches start other →
        other.priority = sys'.manager.equationPriority other := by
  intro start hStart other hExtension hReach
  obtain ⟨prepared, hAgain, hFinish⟩ := exec_eq_ok hExec
  obtain rfl := Except.ok.inj (hPrepare.symm.trans hAgain)
  obtain ⟨hWf, pid, hTracks⟩ := prepare_recompute run.wellFormed hPrepare
  have hPid := ((hWf.covered bundle).record _ _ hTracks.2).pid
  obtain ⟨s₂, hRun, hWrite⟩ := bind_eq_ok.mp hFinish
  have hAbove : ¬ (s.bundles bundle).priority < reclaimPriorityForeground := not_lt.mpr hPriority
  rw [updatePriorityByProcStatus_eq hWf hTracks, if_neg hAbove] at hRun
  have hWf₁ : WellFormed (withFlagPriority platform s bundle proc) := hWf.withFlagPriority hTracks
  have hTracks₁ := @tracksProc_withFlagPriority platform _ hWf _ _ _ hTracks
  have hMap : sys'.manager.osAccountsInfoMap = s₂.osAccountsInfoMap := by
    rw [← Except.ok.inj hWrite, writeBundleOomScoreAdj_osAccountsInfoMap]
  have hHeap : sys'.manager.bundles = s₂.bundles := by
    rw [← Except.ok.inj hWrite, writeBundleOomScoreAdj_bundles]
  have hPass : Repricing (fun _ => True) (withFlagPriority platform s bundle proc) s₂ :=
    updatePriorityByProcForExtension_repricing hWf₁ hTracks₁ (fun _ _ _ _ _ _ => trivial) hRun
  have hWhole : Repricing (fun _ => True) (withFlagPriority platform s bundle proc) sys'.manager :=
    hPass.trans (.of_congr hMap hHeap)
  obtain ⟨before, hBefore, hSame⟩ : ∃ before,
      (withFlagPriority platform s bundle proc).Reaches (proc.setPriority proc.statusPriority) before ∧
        other = before.setPriority other.priority := by
    obtain ⟨found, hFound, hStarts, -⟩ := hWhole.before hStart.2
    rw [hPid] at hFound
    obtain rfl := Option.some.inj (hTracks₁.2.symm.trans hFound)
    rw [hStarts] at hReach
    exact hWhole.reaches_before hReach
  rw [hSame] at hExtension
  obtain ⟨owner, key, hOwner⟩ :=
    updatePriorityByProcForExtension_equation hWf₁ hTracks₁ hTurns hRun hBefore hExtension
  have hWf₂ : WellFormed sys'.manager := (Step.effect run.wellFormed ⟨fuel, hExec⟩).wellFormed run.wellFormed
  obtain ⟨_, _, hOther⟩ := hStart.of_reaches hReach
  have hFinal : other = before.setPriority (s₂.equationPriority before) := by
    apply hWf₂.record_unique ((tracksProc_congr hMap hHeap).mpr hOwner) hOther
    · rw [hSame]
      rfl
    · rw [hSame]
      rfl
  rw [equationPriority_congr hMap hHeap, hFinal]
  rfl

/-- A status event of a process that is not starting comes to the recomputation. -/
theorem prepare_status {request : UpdateRequest} {eventTime : Int} {services : Services}
    (hReason : request.reason ∈ statusReasons)
    (hFind : sys.manager.findBundle request.target.uid (getOsAccountIdByUid request.target.uid) =
      some bundle)
    (hProc : (sys.manager.bundles bundle).procs[request.target.pid]? = some proc)
    (hPriority : 0 ≤ (sys.manager.bundles bundle).priority)
    (hStarting : (changeProc request.reason eventTime (proc, sys.manager.handler)).1.isAbilityStarting =
      false) :
    sys.prepare platform (.updateReclaimPriorityInner request eventTime services) =
      .ok (.recompute (sys.manager.flagged request.reason bundle proc eventTime) bundle
        (changeProc request.reason eventTime (proc, sys.manager.handler)).1) := by
  rw [prepare, prepareRequest_status hReason hFind hProc hPriority, prepareUpdate_eq, if_neg]
  rw [needSkipEventBeforeAbilityStart, hStarting]
  exact Bool.false_ne_true

/-- Where every reached process is listed, the conditions are checked on the list. -/
theorem takesTurns_of_closed {closed : List ProcessPriorityInfo} (hStart : start ∈ closed)
    (hClosed : ∀ node ∈ closed, ∀ next ∈ s.boundProcs node, next ∈ closed)
    (hPids : ∀ node ∈ closed, ∀ other ∈ closed, other.pid = node.pid → other = node)
    (hAhead : ∀ node ∈ closed, node.isExtension = true → ∀ binding ∈ node.procsBindToMe.toList,
      ∀ connector ∈ s.boundProc binding, connector.isExtension = true →
        ∃ first ∈ s.turnOf connector, ∃ second ∈ s.turnOf node, first < second)
    (hImportant : ∀ node ∈ closed, node.isImportant = false) : s.TakesTurns start := by
  have hMem : ∀ {node}, s.Reaches start node → node ∈ closed :=
    fun hReach => hReach.mem_of_closed hStart hClosed
  constructor
  · exact fun node other hNode hOther _ => hPids node (hMem hNode) other (hMem hOther)
  · intro node hReach hExtension binding hBinding connector hBound _ hConnector
    exact hAhead node (hMem hReach) hExtension binding hBinding connector hBound hConnector
  · intro node hReach _ hImportant₁
    rw [hImportant node (hMem hReach)] at hImportant₁
    cases hImportant₁

open Scenario

/-- The application at the start of the chain goes to the background. -/
def chainBehindBackground : Service :=
  (chainOfBindings.exec Scenario.platform 40 (event .background 1 20000001)).toOption.get (by decide)

/-- The application comes back. -/
def chainInForeground : Service :=
  (chainBehindBackground.exec Scenario.platform 40 (event .foreground 1 20000001)).toOption.get (by decide)

/-- The chain of bindings is reached from the start. -/
theorem run_chainBehindBackground : Run Scenario.platform anyOp chainBehindBackground := by
  have hChain : Run Scenario.platform anyOp chainOfBindings :=
    run_reached (fun _ _ _ => trivial) (by decide)
  exact hChain.succ trivial ⟨40, eq_ok_get _⟩

/-- The record of a process by its pid and uid. -/
def recordOf (sys : Service) (binding : Int × Int) (h : (sys.manager.boundProc binding).isSome = true) :
    ProcessPriorityInfo := (sys.manager.boundProc binding).get h

/-- The last extension takes its turn before the one that is bound to it has lost the foreground. -/
theorem priority_ne_equation_background :
    Run Scenario.platform anyOp chainOfBindings ∧
      chainOfBindings.exec Scenario.platform 40 (event .background 1 20000001) =
        .ok chainBehindBackground ∧
      (∃ s proc, chainOfBindings.prepare Scenario.platform (event .background 1 20000001) =
        .ok (.recompute s 0 proc) ∧ 0 ≤ (s.bundles 0).priority) ∧
      ∃ start other, chainBehindBackground.manager.TracksProc 0 1 start ∧ other.isExtension = true ∧
        chainBehindBackground.manager.Reaches start other ∧
        other.priority ≠ chainBehindBackground.manager.equationPriority other := by
  refine ⟨run_reached (fun _ _ _ => trivial) (by decide), eq_ok_get _, ?_, ?_⟩
  · exact ⟨_, _, prepare_status (by decide) (by decide) (Option.some_get (by decide)).symm
      (by decide) (by decide), by decide⟩
  · have hNext : recordOf chainBehindBackground (2, 20000002) (by decide) ∈
        chainBehindBackground.manager.boundProcs
          (recordOf chainBehindBackground (1, 20000001) (by decide)) := by decide
    have hLast : recordOf chainBehindBackground (3, 20000003) (by decide) ∈
        chainBehindBackground.manager.boundProcs
          (recordOf chainBehindBackground (2, 20000002) (by decide)) := by decide
    exact ⟨_, _, ⟨⟨100, 20000001, by decide⟩, by decide⟩, by decide,
      (Relation.ReflTransGen.single hNext).tail hLast, by decide⟩

/-- The state in which its extensions take their turns. -/
def chainAtPass : ReclaimPriorityManager :=
  withFlagPriority Scenario.platform
    (chainBehindBackground.manager.flagged .foreground 0
      (recordOf chainBehindBackground (1, 20000001) (by decide)) 0) 0
    (changeProc .foreground 0 (recordOf chainBehindBackground (1, 20000001) (by decide),
      chainBehindBackground.manager.handler)).1

/-- When the first process of a chain comes to the foreground, each extension along the chain
takes the priority of the equation. -/
theorem priority_eq_equation_foreground :
    chainBehindBackground.exec Scenario.platform 40 (event .foreground 1 20000001) =
        .ok chainInForeground ∧
      ∀ other, other.isExtension = true →
        chainInForeground.manager.Reaches (recordOf chainInForeground (1, 20000001) (by decide)) other →
        other.priority = chainInForeground.manager.equationPriority other := by
  have hStep : chainBehindBackground.exec Scenario.platform 40 (event .foreground 1 20000001) =
    .ok chainInForeground := eq_ok_get _
  have hTracks : chainInForeground.manager.TracksProc 0 1
      (recordOf chainInForeground (1, 20000001) (by decide)) := ⟨⟨100, 20000001, by decide⟩, by decide⟩
  have hPrepare := @prepare_status Scenario.platform 0
    (recordOf chainBehindBackground (1, 20000001) (by decide)) chainBehindBackground
    ⟨⟨0, 0, "", ""⟩, ⟨1, 20000001, "", toString 20000001⟩, .foreground⟩ 0 Scenario.services
    (by decide) (by decide) (by decide) (by decide) (by decide)
  refine ⟨hStep, ?_⟩
  apply run_chainBehindBackground.priority_eq_equation hPrepare (by decide) _ hStep _ hTracks
  have hStart : (changeProc .foreground 0 (recordOf chainBehindBackground (1, 20000001) (by decide),
      chainBehindBackground.manager.handler)).1.setPriority 0 ∈
        [(1, 20000001), (2, 20000002), (3, 20000003)].filterMap chainAtPass.boundProc := by
    decide +kernel
  exact takesTurns_of_closed hStart (by decide +kernel) (by decide +kernel) (by decide +kernel)
    (by decide +kernel)

end Service
end MemMgr
