import MemMgr.AbilityStart
import MemMgr.ExtensionEquation

/-! The priority of a process while it starts an ability. A start protects its process
from older events only; whatever else computes the priority again looks at the flags. -/
namespace MemMgr

open Execution ReclaimPriorityManager BundlePriorityInfo ProcessPriorityInfo

namespace ProcessPriorityInfo

/-- A process that is starting an ability is not behind the foreground. -/
def StartKept (proc : ProcessPriorityInfo) : Prop :=
  proc.isAbilityStarting = true → proc.priority ≤ reclaimPriorityForeground

/-- Its own flags keep the process at the foreground. -/
def HoldsForeground (proc : ProcessPriorityInfo) : Prop :=
  proc.isFreground = true ∨
    proc.isImportant = true ∧ proc.priorityIfImportant ≤ reclaimPriorityForeground

variable {proc : ProcessPriorityInfo}

/-- The priority of a status never exceeds the one it starts from. -/
theorem statusPriority_le_start : proc.statusPriority ≤ proc.statusStart := by
  have hCap : ∀ priority : Int, ∀ cap, capBy priority cap ≤ priority := by
    intro priority cap
    cases cap with
    | none => exact le_rfl
    | some bound => exact min_le_left _ _
  apply (proc.capIfImportant_le _).trans ((hCap _ _).trans _)
  split_ifs
  · exact min_le_left _ _
  · exact le_rfl

/-- An important process gets at most the priority that was configured for it. -/
theorem capIfImportant_important {priority : Int} (hImportant : proc.isImportant = true) :
    proc.capIfImportant priority ≤ proc.priorityIfImportant := by
  rw [capIfImportant, if_pos hImportant]
  exact min_le_right _ _

/-- What holds a process in the foreground gives it at most the priority of the foreground. -/
theorem HoldsForeground.statusPriority_le (h : proc.HoldsForeground) :
    proc.statusPriority ≤ reclaimPriorityForeground := by
  rcases h with hFreground | ⟨hImportant, hBound⟩
  · apply statusPriority_le_start.trans
    rw [statusStart, if_pos hFreground]
    exact min_le_right _ _
  · exact (capIfImportant_important hImportant).trans hBound

/-- An important process with a bound behind the foreground would be given that bound,
were it not at the foreground before. -/
theorem HoldsForeground.extensionPriority_le (h : proc.HoldsForeground)
    (hPriority : proc.priority ≤ reclaimPriorityForeground) (minExtensionPriority : Int) :
    proc.extensionPriority minExtensionPriority ≤ reclaimPriorityForeground := by
  by_cases hBound : proc.isImportant = true ∧ proc.priorityIfImportant ≤ reclaimPriorityForeground
  · exact (capIfImportant_important hBound.1).trans hBound.2
  have hFreground : proc.isFreground = true := h.resolve_right hBound
  have hAbove : ¬ (proc.isImportant = true ∧ proc.priorityIfImportant ≤ proc.priority) :=
    fun hBoth => hBound ⟨hBoth.1, hBoth.2.trans hPriority⟩
  apply (proc.capIfImportant_le _).trans ((min_le_left _ _).trans _)
  rw [getPriorityByProcStatus_eq, if_neg hAbove, priorityByFlags, if_pos hFreground]

/-- A bound of an important process that its flags do not beat is behind the foreground. -/
theorem bound_pos_of_not_holds (h : ¬ proc.HoldsForeground) (hImportant : proc.isImportant = true) :
    0 < proc.priorityIfImportant := by
  by_contra hBound
  exact h (Or.inr ⟨hImportant, not_lt.mp hBound⟩)

/-- Without such a hold, a process that is no extension is behind the foreground. -/
theorem statusPriority_pos (h : ¬ proc.HoldsForeground) (hExtension : proc.isExtension = false) :
    0 < proc.statusPriority := by
  have hFreground : proc.isFreground = false := Bool.eq_false_iff.mpr fun hIs => h (Or.inl hIs)
  have hStart : proc.statusStart = 400 := by
    simp [statusStart, hFreground, hExtension, reclaimPriorityBackground]
  apply Int.lt_of_add_one_le
  apply proc.le_capIfImportant _ fun hImportant => bound_pos_of_not_holds h hImportant
  apply le_capBy
  · rw [hStart, reclaimPriorityVisible]
    split_ifs <;> decide
  · intro value hValue
    have := proc.statusCap_pos hValue
    omega

/-- Without such a hold an extension is behind the foreground as well, whoever binds it. -/
theorem extensionPriority_pos (h : ¬ proc.HoldsForeground) {minExtensionPriority : Int}
    (hNonneg : 0 ≤ minExtensionPriority) : 0 < proc.extensionPriority minExtensionPriority := by
  have hFreground : proc.isFreground = false := Bool.eq_false_iff.mpr fun hIs => h (Or.inl hIs)
  have hFlags : 1 ≤ proc.priorityByFlags := by
    simp only [priorityByFlags, hFreground, reclaimPriorityVisible, reclaimPriorityBgSuspendDelay,
      reclaimPriorityBgPerceived, reclaimPriorityBgDistDevice, reclaimPriorityBackground,
      reclaimPriorityUnknown]
    split_ifs <;> simp_all
  apply Int.lt_of_add_one_le
  apply proc.le_capIfImportant _ fun hImportant => bound_pos_of_not_holds h hImportant
  apply le_min
  · rw [getPriorityByProcStatus_eq]
    split_ifs with hReplaced
    · exact bound_pos_of_not_holds h hReplaced.1
    · exact hFlags
  · simp only [deltaPriority]
    omega

end ProcessPriorityInfo

/-- Every process that is starting an ability is at the foreground or before it. -/
def ReclaimPriorityManager.StartsKept (s : ReclaimPriorityManager) : Prop :=
  ∀ bundle pid proc, s.TracksProc bundle pid proc → proc.StartKept

/-- The recomputation that is left finds no starting process that its flags would demote. -/
def Prepared.HoldsStarts : Prepared → Prop
  | .done _ => True
  | .recompute s bundle proc => 0 ≤ (s.bundles bundle).priority →
      ∀ other, s.Reaches proc other → other = proc ∨ other.isExtension = true →
        other.isAbilityStarting = true → other.HoldsForeground

/-- The bundle an operation suspends. -/
def Op.suspends (sys : Service) : Op → Option BundleRef
  | .updateReclaimPriorityInner request _ _ =>
      if request.reason = .applicationSuspend ∧ sys.manager.isProcExist request.target.pid
          request.target.uid (getOsAccountIdByUid request.target.uid) then
        (sys.manager.findBundle request.target.uid (getOsAccountIdByUid request.target.uid)).filter
          fun bundle => reclaimPriorityKillableSystem < (sys.manager.bundles bundle).priority
      else none
  | _ => none

/-- The operation leaves starting processes where they are: it suspends none of them, and the
processes it computes again are held at the foreground by their flags. -/
def Service.HoldsStarts (platform : Platform) (sys : Service) (op : Op) : Prop :=
  noAccountSwitch sys op ∧
    (∀ bundle, op.suspends sys = some bundle → ∀ (pid : Int) proc,
      (sys.manager.bundles bundle).procs[pid]? = some proc → proc.isAbilityStarting = false) ∧
    ∀ prepared, sys.prepare platform op = .ok prepared → prepared.HoldsStarts

variable {platform : Platform} {s s₁ s' : ReclaimPriorityManager} {bundle : BundleRef} {pid : Int}
variable {proc : ProcessPriorityInfo} {sys sys' : Service} {op : Op}

namespace ReclaimPriorityManager.StartsKept

/-- Starts are kept in the foreground by every change that brings up none. -/
theorem of_startsFrom (h : s.StartsKept) (hStarts : StartsFrom SameStart s s₁) : s₁.StartsKept := by
  intro bundle pid after hTracks hStarting
  obtain ⟨before, hBefore, hStart, -, hPriority⟩ := hStarts bundle pid after hTracks hStarting
  rw [hPriority]
  exact h bundle pid before hBefore hStart

/-- Each of the effects of a step on starts keeps the starting processes at the foreground. -/
theorem step (h : s.StartsKept) (hEffect : StartEffect s s₁) : s₁.StartsKept := by
  cases hEffect with
  | quiet hStarts hTimers => exact h.of_startsFrom hStarts
  | finished bundle pid hTracked hStarts hDone hHandler => exact h.of_startsFrom hStarts
  | begun bundle pid proc hTracked hStarts hRecord hHandler =>
      intro other key after hTracks
      by_cases hIs : other = bundle ∧ key = pid
      · obtain ⟨rfl, rfl⟩ := hIs
        intro _
        exact (hRecord after hTracks).2.le
      · exact h other key after (hStarts other key after hTracks hIs)

/-- Suspending a bundle that starts nothing. -/
theorem suspend (h : s.StartsKept) (hNone : ∀ (pid : Int) proc,
      (s.bundles bundle).procs[pid]? = some proc → proc.isAbilityStarting = false) :
    (s.handleApplicationSuspend platform bundle).1.StartsKept := by
  intro other key after hTracks hStarting
  have hAfter := hTracks.2
  rw [handleApplicationSuspend_bundles, Function.update_apply] at hAfter
  split_ifs at hAfter
  · rw [BundlePriorityInfo.updatePriority, suspendProcs, Std.ExtTreeMap.getElem?_map,
      Option.map_eq_some_iff] at hAfter
    obtain ⟨before, hBefore, rfl⟩ := hAfter
    exact Bool.noConfusion ((hNone key before hBefore).symm.trans hStarting)
  · exact h other key after
      ⟨(tracked_congr (handleApplicationSuspend_osAccountsInfoMap bundle)).mp hTracks.1, hAfter⟩ hStarting

/-- The recomputation, where the flags hold what is starting. -/
theorem recompute {fuel : Nat} (h : s.StartsKept) (hWf : WellFormed s)
    (hTracks : s.TracksProc bundle pid proc)
    (hHolds : (Prepared.recompute s bundle proc).HoldsStarts)
    (hRun : s.updatePriorityByProcStatus platform fuel bundle proc = .ok s') : s'.StartsKept := by
  apply updatePriorityByProcStatus_forall hWf hTracks h _ _ hRun
  · intro hNonneg hStarting
    exact (hHolds hNonneg proc .refl (Or.inl rfl) hStarting).statusPriority_le
  · intro hNonneg other hExtension hReach priority minExtensionPriority _ hBefore hStarting
    obtain ⟨before, hReached, hSame⟩ := (repricing_withFlagPriority hWf hTracks).reaches_before hReach
    have hHeld : before.HoldsForeground := by
      rw [hSame] at hExtension hStarting
      exact hHolds hNonneg before hReached (Or.inr hExtension) hStarting
    have hOther : (other.setPriority priority).HoldsForeground := by
      rw [hSame]
      exact hHeld
    exact hOther.extensionPriority_le (hBefore hStarting) minExtensionPriority

end ReclaimPriorityManager.StartsKept

/-- The recomputation puts a process that its flags do not hold behind the foreground, and any
extension like that which the process reaches. -/
theorem recompute_demotes {fuel : Nat} {other : ProcessPriorityInfo} (hWf : WellFormed s)
    (hTracks : s.TracksProc bundle pid proc) (hPriority : 0 ≤ (s.bundles bundle).priority)
    (hSeparate : QueueSearch.Separate ProcessPriorityInfo.pid isExtension s.boundProcs proc)
    (hReach : s.Reaches proc other) (hIs : other = proc ∨ other.isExtension = true)
    (hNot : ¬ other.HoldsForeground)
    (hRun : s.updatePriorityByProcStatus platform fuel bundle proc = .ok s') :
    ∃ owner key priority, 0 < priority ∧ s'.TracksProc owner key (other.setPriority priority) := by
  cases hExtension : other.isExtension with
  | false =>
      obtain rfl := hIs.resolve_right (by simp [hExtension])
      have hMap := updatePriorityByProcStatus_osAccountsInfoMap hRun
      exact ⟨bundle, pid, _, statusPriority_pos hNot hExtension, (tracked_congr hMap).mpr hTracks.1,
        recomputed_record hWf hTracks hPriority hExtension hRun⟩
  | true =>
      have hAbove : ¬ (s.bundles bundle).priority < reclaimPriorityForeground := not_lt.mpr hPriority
      rw [updatePriorityByProcStatus_eq hWf hTracks, if_neg hAbove] at hRun
      have hCounted := @repricing_withFlagPriority platform s hWf _ _ _ hTracks
      have hWf₁ : WellFormed (withFlagPriority platform s bundle proc) := hWf.withFlagPriority hTracks
      have hTracks₁ := @tracksProc_withFlagPriority platform s hWf _ _ _ hTracks
      obtain ⟨stale, hStale⟩ := hCounted.reaches_after proc.statusPriority hReach
      obtain ⟨_, _, _, _, _, _, minExtensionPriority, owner, key, -, -, -, -, -, hPass⟩ :=
        updatePriorityByProcForExtension_turn hWf₁ hTracks₁ (hCounted.separate hWf₁ hTracks₁ hSeparate)
          hRun hStale hExtension
      have hNotStale : ¬ (other.setPriority stale).HoldsForeground := hNot
      exact ⟨owner, key, _, extensionPriority_pos hNotStale hPass.nonneg, hPass.record⟩

namespace Service

/-- A request to suspend ends with the suspension of the bundle, or does nothing. -/
theorem prepare_suspend {request : UpdateRequest} {eventTime : Int} {services : Services}
    (hReason : request.reason = .applicationSuspend) :
    sys.prepare platform (.updateReclaimPriorityInner request eventTime services) =
      .ok (.done (match (Op.updateReclaimPriorityInner request eventTime services).suspends sys with
        | none => sys.manager
        | some bundle => (sys.manager.handleApplicationSuspend platform bundle).1)) := by
  rw [prepare, prepareRequest, hReason]
  dsimp only
  rw [prepareTracked, Op.suspends]
  by_cases hExists : sys.manager.isProcExist request.target.pid request.target.uid
      (getOsAccountIdByUid request.target.uid) = true
  · rw [if_pos hExists, if_pos (And.intro hReason hExists)]
    cases sys.manager.findBundle request.target.uid (getOsAccountIdByUid request.target.uid) with
    | none => rfl
    | some bundle =>
        dsimp only
        rw [Option.filter_some]
        by_cases hSystem : (sys.manager.bundles bundle).priority ≤ reclaimPriorityKillableSystem
        · rw [if_pos hSystem, if_neg fun hAbove => not_lt.mpr hSystem (of_decide_eq_true hAbove)]
        · rw [if_neg hSystem, if_pos hReason, if_pos (decide_eq_true (not_le.mp hSystem))]
  · rw [if_neg hExists, if_neg fun hBoth => hExists hBoth.2]

/-- Only a tracked bundle is suspended, and only by a request to suspend. -/
theorem suspends_eq_some {request : UpdateRequest} {eventTime : Int} {services : Services}
    (h : (Op.updateReclaimPriorityInner request eventTime services).suspends sys = some bundle) :
    request.reason = .applicationSuspend ∧ sys.manager.Tracked bundle := by
  rw [Op.suspends] at h
  split_ifs at h with hCarried
  obtain ⟨hFind, -⟩ := Option.filter_eq_some_iff.mp h
  exact ⟨hCarried.1, _, _, hFind⟩

/-- A step that respects the starts keeps every starting process at the foreground. -/
theorem Step.startsKept (hWf : WellFormed sys.manager) (h : sys.manager.StartsKept)
    (hHolds : HoldsStarts platform sys op) (hStep : Step platform sys op sys') :
    sys'.manager.StartsKept := by
  obtain ⟨prepared, fuel, hPrepare, hFinish⟩ := hStep.prepared
  obtain ⟨hSwitch, hSuspend, hRecompute⟩ := hHolds
  have hPrepared : prepared.state.StartsKept := by
    cases hMoves : op.movesPriorities with
    | false => exact h.step (prepare_startEffect hWf hMoves hPrepare)
    | true =>
        cases op with
        | updateReclaimPriorityInner request eventTime services =>
            obtain rfl := Except.ok.inj (hPrepare.symm.trans (prepare_suspend (of_decide_eq_true hMoves)))
            cases hBundle : (Op.updateReclaimPriorityInner request eventTime services).suspends sys with
            | none => exact h
            | some bundle => exact h.suspend (hSuspend bundle hBundle)
        | osAccountsChanged accountId switchMod answers => cases hSwitch
        | _ => cases hMoves
  cases prepared with
  | done s =>
      cases hFinish
      exact hPrepared
  | recompute s bundle proc =>
      obtain ⟨hWf₁, pid, hTracks⟩ := prepare_recompute hWf hPrepare
      obtain ⟨after, hUpdate, hWrite⟩ := bind_eq_ok.mp hFinish
      have hAfter : after.StartsKept := hPrepared.recompute hWf₁ hTracks (hRecompute _ hPrepare) hUpdate
      rw [← Except.ok.inj hWrite]
      exact hAfter.of_startsFrom
        (startsFrom_congr writeBundleOomScoreAdj_osAccountsInfoMap writeBundleOomScoreAdj_bundles)

/-- An operation that finds a starting process its flags do not hold demotes it, where pids tell
the processes of the recomputation apart. -/
theorem Step.holdsStarts (hWf : WellFormed sys.manager) (hSwitch : noAccountSwitch sys op)
    (hSeparate : ∀ s bundle proc, sys.prepare platform op = .ok (.recompute s bundle proc) →
      QueueSearch.Separate ProcessPriorityInfo.pid isExtension s.boundProcs proc)
    (hStep : Step platform sys op sys') (h : sys'.manager.StartsKept) :
    HoldsStarts platform sys op := by
  obtain ⟨prepared, fuel, hPrepare, hFinish⟩ := hStep.prepared
  refine ⟨hSwitch, fun bundle hSuspends pid proc hProc => ?_, fun again hAgain => ?_⟩
  · cases op with
    | updateReclaimPriorityInner request eventTime services =>
        obtain ⟨hReason, hTracked⟩ := suspends_eq_some hSuspends
        have hDone := Except.ok.inj (hPrepare.symm.trans (prepare_suspend hReason))
        rw [hSuspends] at hDone
        rw [hDone] at hFinish
        rw [← Except.ok.inj hFinish] at h
        have hSuspended : ReclaimPriorityManager.TracksProc
            (sys.manager.handleApplicationSuspend platform bundle).1 bundle pid
            (proc.setPriority reclaimPrioritySuspend) := by
          apply And.intro ((tracked_congr (handleApplicationSuspend_osAccountsInfoMap bundle)).mpr hTracked)
          rw [handleApplicationSuspend_bundles, Function.update_self, BundlePriorityInfo.updatePriority,
            suspendProcs, Std.ExtTreeMap.getElem?_map, hProc]
          rfl
        by_contra hStarting
        have hAbove : ¬ reclaimPrioritySuspend ≤ reclaimPriorityForeground := by decide
        exact hAbove (h bundle pid _ hSuspended (Bool.eq_true_of_not_eq_false hStarting))
    | _ => cases hSuspends
  · obtain rfl := Except.ok.inj (hPrepare.symm.trans hAgain)
    cases prepared with
    | done s => trivial
    | recompute s bundle proc =>
        intro hNonneg other hReach hIs hStarting
        by_contra hNot
        obtain ⟨hWf₁, pid, hTracks⟩ := prepare_recompute hWf hPrepare
        obtain ⟨after, hUpdate, hWrite⟩ := bind_eq_ok.mp hFinish
        obtain ⟨owner, key, priority, hPositive, hDemoted⟩ := recompute_demotes hWf₁ hTracks hNonneg
          (hSeparate s bundle proc hPrepare) hReach hIs hNot hUpdate
        rw [← Except.ok.inj hWrite] at h
        have hFinal : (after.writeBundleOomScoreAdj bundle).TracksProc owner key
            (other.setPriority priority) :=
          (tracksProc_congr writeBundleOomScoreAdj_osAccountsInfoMap
            writeBundleOomScoreAdj_bundles).mpr hDemoted
        exact absurd (h owner key _ hFinal hStarting) (not_le.mpr hPositive)

/-- While every operation finds the starting processes held, none of them is demoted. -/
theorem Run.starting_at_foreground (run : Run platform (HoldsStarts platform) sys) :
    sys.manager.StartsKept := by
  apply run.keeps StartsKept
  · intro bundle pid proc hTracks
    exact absurd hTracks.1 (not_tracked_init platform bundle)
  · intro sys op sys' hWf h hHolds hStep
    exact hStep.startsKept hWf h hHolds

/-- An operation that suspends nothing, and computes again one process at most, one that
binds nothing and is not starting. -/
def alone (sys : Service) (op : Op) : Bool :=
  !op.movesPriorities &&
    match sys.prepare Scenario.platform op with
    | .ok (.recompute _ _ proc) => proc.procsBindFromMe.isEmpty && !proc.isAbilityStarting
    | _ => true

/-- Where the process that starts is the only one, no operation can move another start. -/
theorem alone_holdsStarts (h : alone sys op = true) : HoldsStarts Scenario.platform sys op := by
  rw [alone, Bool.and_eq_true, Bool.not_eq_true'] at h
  obtain ⟨hMoves, hAlone⟩ := h
  refine ⟨?_, fun bundle hBundle => ?_, fun prepared hPrepare => ?_⟩
  · cases op <;> trivial
  · cases op with
    | updateReclaimPriorityInner request eventTime services =>
        rw [Op.suspends, if_neg fun hBoth => of_decide_eq_false hMoves hBoth.1] at hBundle
        cases hBundle
    | _ => cases hBundle
  · rw [hPrepare] at hAlone
    cases prepared with
    | done s => trivial
    | recompute s bundle proc =>
        dsimp only at hAlone
        rw [Bool.and_eq_true, Bool.not_eq_true'] at hAlone
        intro _ other hReach _ hStarting
        rcases Relation.ReflTransGen.cases_head hReach with rfl | ⟨next, hNext, -⟩
        · exact Bool.noConfusion (hAlone.2.symm.trans hStarting)
        · obtain ⟨pid, uid, hBinding, -⟩ := mem_boundProcs.mp hNext
          simp [Std.ExtTreeMap.isEmpty_iff.mp hAlone.1] at hBinding

/-- A process that starts an ability from the background. -/
def startedInBackground : Service :=
  (Scenario.reached [Scenario.event .createProcess 1 20000001, Scenario.event .background 1 20000001,
    Scenario.event .abilityStart 1 20000001]).get (by decide)

theorem starting_at_foreground_fromBackground :
    (((startedInBackground.manager.bundles 0).procs[(1 : Int)]?).any (·.isAbilityStarting)) = true ∧
      startedInBackground.manager.StartsKept := by
  have hRun : Run Scenario.platform (fun sys op => alone sys op = true) startedInBackground :=
    Scenario.run_checked (by decide) (by decide)
  exact ⟨by decide, Run.starting_at_foreground (hRun.mono fun _ _ => alone_holdsStarts)⟩

/-- The check of its creation, fifteen seconds after that, puts it back to the background. -/
theorem starting_behind_foreground_createCheck :
    ∃ sys, Run Scenario.platform noAccountSwitch sys ∧ ¬ sys.manager.StartsKept := by
  refine ⟨(Scenario.reached [Scenario.event .createProcess 1 20000001,
    Scenario.event .background 1 20000001, Scenario.event .abilityStart 1 20000001,
    .checkCreateProcPriorityDelay 1 20000001]).get (by decide), ?_, ?_⟩
  · apply Scenario.run_reached _ (by decide)
    simp [noAccountSwitch, Scenario.event]
  · intro hKept
    have hRecord := hKept 0 1 _ ⟨⟨100, 20000001, by decide⟩, (Option.some_get (by decide)).symm⟩
    exact absurd (hRecord (by decide)) (by decide)

end Service
end MemMgr
