import MemMgr.ImportantBounds

/-! The range of the priorities that the kernel is given. Nothing goes below it. Above it lies
the bound that stands for a missing one, and what a hot switch makes of a process that is behind
the first one of its bundle. -/
namespace MemMgr

open Execution ReclaimPriorityManager ProcessPriorityInfo

namespace ProcessPriorityInfo

/-- The process is not behind everything the kernel accepts. -/
def AtMostMax (proc : ProcessPriorityInfo) : Prop := proc.priority ≤ reclaimPriorityMax

instance : DecidablePred AtMostMax := fun proc =>
  inferInstanceAs (Decidable (proc.priority ≤ reclaimPriorityMax))

variable {proc : ProcessPriorityInfo}

theorem priorityByFlags_le_max (proc : ProcessPriorityInfo) : proc.priorityByFlags ≤ reclaimPriorityMax := by
  rw [priorityByFlags]
  split_ifs <;> decide

theorem statusPriority_le_max (h : proc.AtMostMax) : proc.statusPriority ≤ reclaimPriorityMax := by
  apply statusPriority_le_start.trans
  rw [statusStart]
  split_ifs
  · exact (min_le_right _ _).trans (by decide)
  · exact h
  · decide

/-- A bound that replaces the flags is not behind the priority it is compared with. -/
theorem extensionPriority_le_max (h : proc.AtMostMax) (minExtensionPriority : Int) :
    proc.extensionPriority minExtensionPriority ≤ reclaimPriorityMax := by
  apply (proc.capIfImportant_le _).trans ((min_le_left _ _).trans _)
  rw [getPriorityByProcStatus_eq]
  split_ifs with hReplaced
  · exact hReplaced.2.trans h
  · exact proc.priorityByFlags_le_max

/-- Nothing that is computed exceeds the greatest priority. -/
theorem restored_atMostMax : Restored AtMostMax where
  same := by
    intro before after hBefore hSame
    rw [AtMostMax, hSame.priority]
    exact hBefore
  started := by
    intro proc _ _
    exact (by decide : reclaimPriorityForeground ≤ reclaimPriorityMax)
  counted := statusPriority_le_max
  linked := by
    intro proc minExtensionPriority _ h
    exact extensionPriority_le_max h minExtensionPriority

end ProcessPriorityInfo

/-- The priority a process starts with. -/
theorem createdProc_priority (platform : Platform) (target : ReqProc) (killable : Bool) :
    (createdProc platform target killable).priority =
      if killable then min (isImportantProc platform target.processName).2 reclaimPriorityKillableSystem
      else (isImportantProc platform target.processName).2 := by
  rw [createdProc]
  obtain ⟨isImportant, start⟩ := isImportantProc platform target.processName
  cases killable with
  | false => rfl
  | true =>
      by_cases hBehind : start > reclaimPriorityKillableSystem
      · have hLowered : (true && decide (start > reclaimPriorityKillableSystem)) = true :=
          decide_eq_true hBehind
        dsimp only [ProcessPriorityInfo.create]
        rw [if_pos hLowered]
        exact (min_eq_right hBehind.le).symm
      · have hKept : ¬ (true && decide (start > reclaimPriorityKillableSystem)) = true :=
          fun hLowered => hBehind (of_decide_eq_true hLowered)
        dsimp only [ProcessPriorityInfo.create]
        rw [if_neg hKept]
        exact (min_eq_left (not_lt.mp hBehind)).symm

/-- A new process is out of range with the bound that stands for a missing one, unless its app
is killable. -/
theorem createdProc_atMostMax_iff {platform : Platform} {target : ReqProc} {killable : Bool} :
    AtMostMax (createdProc platform target killable) ↔
      (platform.config.importantBgApps[target.processName]? = some (reclaimPriorityMax + 1) →
        killable = true) := by
  rw [AtMostMax, createdProc_priority, isImportantProc]
  cases killable with
  | true =>
      have hLowered : ∀ start : Int, min start reclaimPriorityKillableSystem ≤ reclaimPriorityMax :=
        fun start => (min_le_right _ _).trans (by decide)
      exact iff_of_true (hLowered _) fun _ => rfl
  | false =>
      cases hBound : platform.config.importantBgApps[target.processName]? with
      | none => simp [reclaimPriorityForeground, reclaimPriorityMax]
      | some bound =>
          have hAccepted := (platform.config.importantBgApps_range _ _ hBound).2
          simp only [Bool.false_eq_true, ↓reduceIte, Option.some.injEq, imp_false]
          omega

namespace Service

variable {platform : Platform} {sys sys' : Service} {op : Op}

/-- The operation enters no process with the bound that stands for a missing one, but for those
of killable apps, and moves none further than there is room up to the maximum. -/
structure KeepsRange (platform : Platform) (sys : Service) (op : Op) : Prop where
  entered : ∀ target killable, op.admits sys = some (target, killable) →
    platform.config.importantBgApps[target.processName]? = some (reclaimPriorityMax + 1) → killable = true
  shifted : ∀ used updatedAccountIds, op.switches sys = some (used, updatedAccountIds) →
    ∀ bundle pid proc, sys.manager.TracksProc bundle pid proc →
      used.moved sys.manager updatedAccountIds bundle ≤ reclaimPriorityMax - proc.priority

/-- An operation spares the range exactly when what it moves stays within it. -/
theorem spares_atMostMax_iff : Spares platform AtMostMax sys op ↔ KeepsRange platform sys op := by
  constructor
  · intro h
    constructor
    · intro target killable hAdmits
      exact createdProc_atMostMax_iff.mp (h.entered target killable hAdmits)
    · intro used updatedAccountIds hSwitches bundle pid proc hTracks
      exact le_sub_iff_add_le'.mpr (h.shifted used updatedAccountIds hSwitches bundle pid proc hTracks)
  · intro h
    constructor
    · intro target killable hAdmits
      exact createdProc_atMostMax_iff.mpr (h.entered target killable hAdmits)
    · intro bundle _ pid proc _
      exact (by decide : reclaimPrioritySuspend ≤ reclaimPriorityMax)
    · intro used updatedAccountIds hSwitches bundle pid proc hTracks
      exact le_sub_iff_add_le'.mp (h.shifted used updatedAccountIds hSwitches bundle pid proc hTracks)

/-- A step keeps every process in front of the maximum exactly when it meets the condition. -/
theorem Step.atMostMax_iff (hWf : WellFormed sys.manager) (hRange : sys.manager.Records AtMostMax)
    (hStep : Step platform sys op sys') : sys'.manager.Records AtMostMax ↔ KeepsRange platform sys op := by
  rw [hStep.records_iff restored_atMostMax hWf hRange, spares_atMostMax_iff]

/-- While no step goes past the maximum, the kernel accepts the priority of every process. -/
theorem Run.priority_in_range (run : Run platform (KeepsRange platform) sys) :
    ∀ bundle pid proc, sys.manager.TracksProc bundle pid proc →
      reclaimPriorityMin ≤ proc.priority ∧ proc.priority ≤ reclaimPriorityMax := by
  have hMax : sys.manager.Records AtMostMax :=
    Run.records restored_atMostMax (run.mono fun _ _ hKeeps => spares_atMostMax_iff.mpr hKeeps)
  intro bundle pid proc hTracks
  exact ⟨((run.wellFormed.covered bundle).record pid proc hTracks.2).least, hMax bundle pid proc hTracks⟩

/-- With another bound for every name, the operations that compute priorities keep the range. -/
theorem keepsRange_of_computed (hComputed : op.movesPriorities = false)
    (hBounds : ∀ procName : String,
      platform.config.importantBgApps[procName]? ≠ some (reclaimPriorityMax + 1)) :
    KeepsRange platform sys op := by
  constructor
  · intro target killable _ hBound
    exact absurd hBound (hBounds target.processName)
  · simp [switches_of_computed hComputed]

end Service

namespace Scenario

theorem importantPlatform_bounds (procName : String) :
    importantPlatform.config.importantBgApps[procName]? ≠ some (reclaimPriorityMax + 1) := by
  intro hBound
  have hEntry : importantPlatform.config.importantBgApps =
      (∅ : Std.ExtTreeMap String Int).insertIfNew "default" 400 := rfl
  rw [hEntry, Std.ExtTreeMap.getElem?_insertIfNew] at hBound
  split_ifs at hBound
  · cases hBound
  · simp at hBound

theorem priority_in_range_importantUsed :
    ((importantUsed.manager.bundles 0).procs[(1 : Int)]?).any (·.isImportant) = true ∧
      ∀ bundle pid proc, importantUsed.manager.TracksProc bundle pid proc →
        reclaimPriorityMin ≤ proc.priority ∧ proc.priority ≤ reclaimPriorityMax := by
  refine ⟨by decide, ?_⟩
  apply @Service.Run.priority_in_range importantPlatform
  apply run_reachedOn
  intro sys op hOp
  apply Service.keepsRange_of_computed _ importantPlatform_bounds
  revert op
  decide

/-- The configuration with a name that has no bound, which the parser turns into this one. -/
def unboundedPlatform : Platform :=
  ⟨.none, ReclaimPriorityConfig.empty.addImportantBgApp "default" (reclaimPriorityMax + 1)⟩

def unboundedCreated : Service :=
  (reachedOn unboundedPlatform [importantEvent .createProcess]).get (by decide)

/-- The least bound that is accepted. -/
def leastPlatform : Platform :=
  ⟨.none, ReclaimPriorityConfig.empty.addImportantBgApp "default" reclaimPriorityMin⟩

/-- A process in the background is joined by one with the least bound, and the account is left. -/
def leastSwitched : Service :=
  (reachedOn leastPlatform ([event .createProcess 2 20000001, event .background 2 20000001,
    importantEvent .createProcess] ++ switchTo101)).get (by decide)

/-- The kernel accepts neither the priority that stands for a missing one nor that of the process
that is moved as far as its bundle. -/
theorem priority_out_of_range :
    (Service.Run unboundedPlatform Service.anyOp unboundedCreated ∧
      (((unboundedCreated.manager.bundles 0).procs[(1 : Int)]?).map (·.priority)) = some 1001 ∧
      unboundedCreated.manager.Tracked 0) ∧
    Service.Run leastPlatform Service.anyOp leastSwitched ∧
      (((leastSwitched.manager.bundles 0).procs[(2 : Int)]?).map (·.priority)) = some 1400 ∧
      leastSwitched.manager.Tracked 0 :=
  ⟨⟨run_reachedOn (fun _ _ _ => trivial) (by decide), by decide, by decide⟩,
    run_reachedOn (fun _ _ _ => trivial) (by decide), by decide, by decide⟩

end Scenario
end MemMgr
