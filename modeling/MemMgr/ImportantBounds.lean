import MemMgr.RecordProperties

/-! The bound of an important process. Every priority that is computed ends at the bound or
before it. A suspension and a hot switch write priorities without looking at the bound. -/
namespace MemMgr

open Execution ReclaimPriorityManager ProcessPriorityInfo

namespace ProcessPriorityInfo

/-- An important process is not behind its bound. -/
def Capped (proc : ProcessPriorityInfo) : Prop :=
  proc.isImportant = true → proc.priority ≤ proc.priorityIfImportant

instance : DecidablePred Capped := fun proc =>
  inferInstanceAs (Decidable (proc.isImportant = true → proc.priority ≤ proc.priorityIfImportant))

/-- The bound of an important process is configured for some name. -/
def Configured (platform : Platform) (proc : ProcessPriorityInfo) : Prop :=
  proc.isImportant = true →
    ∃ procName : String, platform.config.importantBgApps[procName]? = some proc.priorityIfImportant

/-- The bound of an important process is kept by a start, and every priority that is
computed meets it. -/
theorem restored_capped : Restored Capped where
  same := by
    intro before after hBefore hSame hImportant
    rw [hSame.priority, hSame.priorityIfImportant]
    exact hBefore (hSame.isImportant.symm.trans hImportant)
  started := by
    intro proc hForeground hCapped hImportant
    exact hForeground.trans (hCapped hImportant)
  counted := by
    intro proc _ hImportant
    exact capIfImportant_important hImportant
  linked := by
    intro proc minExtensionPriority _ _ hImportant
    exact capIfImportant_important hImportant

/-- A start and the computed priorities keep what the configuration says of a process. -/
theorem restored_configured (platform : Platform) : Restored (Configured platform) where
  same := by
    intro before after hBefore hSame hImportant
    rw [hSame.priorityIfImportant]
    exact hBefore (hSame.isImportant.symm.trans hImportant)
  started := fun _ hConfigured => hConfigured
  counted := fun hConfigured => hConfigured
  linked := fun _ hConfigured => hConfigured

end ProcessPriorityInfo

/-- A new process starts at its bound, or before it as a killable system app. -/
theorem createdProc_capped (platform : Platform) (target : ReqProc) (killable : Bool) :
    Capped (createdProc platform target killable) := by
  rw [createdProc]
  dsimp only
  split_ifs with hKillable
  · intro _
    have hBehind := hKillable
    rw [Bool.and_eq_true, decide_eq_true_eq] at hBehind
    exact hBehind.2.le
  · intro _
    exact le_rfl

/-- A new process has the priority its configuration gives. -/
theorem createdProc_configured (platform : Platform) (target : ReqProc) (killable : Bool) :
    Configured platform (createdProc platform target killable) := by
  intro hImportant
  refine ⟨target.processName, ?_⟩
  rw [createdProc, isImportantProc] at hImportant ⊢
  cases hBound : platform.config.importantBgApps[target.processName]? with
  | none =>
      rw [hBound] at hImportant
      dsimp only at hImportant
      split_ifs at hImportant <;> cases hImportant
  | some bound =>
      dsimp only
      split_ifs <;> rfl

namespace Service

variable {platform : Platform} {sys sys' : Service} {op : Op} {proc : ProcessPriorityInfo}

/-- The operation suspends no important process with a bound before a suspended one, and moves
none further than there is room up to its bound. -/
structure SparesImportant (sys : Service) (op : Op) : Prop where
  suspended : ∀ bundle, op.suspends sys = some bundle → ∀ pid proc, sys.manager.TracksProc bundle pid proc →
    proc.isImportant = true → reclaimPrioritySuspend ≤ proc.priorityIfImportant
  shifted : ∀ used updatedAccountIds, op.switches sys = some (used, updatedAccountIds) →
    ∀ bundle pid proc, sys.manager.TracksProc bundle pid proc → proc.isImportant = true →
      used.moved sys.manager updatedAccountIds bundle ≤ proc.priorityIfImportant - proc.priority

/-- An operation spares the bound exactly when it spares the important processes. -/
theorem spares_capped_iff : Spares platform Capped sys op ↔ SparesImportant sys op := by
  constructor
  · intro h
    refine ⟨h.suspended, fun used updatedAccountIds hSwitches bundle pid proc hTracks hImportant => ?_⟩
    have hAfter := h.shifted used updatedAccountIds hSwitches bundle pid proc hTracks hImportant
    rw [setPriority_priority] at hAfter
    exact le_sub_iff_add_le'.mpr hAfter
  · intro h
    refine ⟨fun target killable _ => createdProc_capped platform target killable, h.suspended, ?_⟩
    · intro used updatedAccountIds hSwitches bundle pid proc hTracks hImportant
      have hRoom := h.shifted used updatedAccountIds hSwitches bundle pid proc hTracks hImportant
      exact le_sub_iff_add_le'.mp hRoom

/-- A step keeps important processes before their bounds exactly when it spares them. -/
theorem Step.capped_iff (hWf : WellFormed sys.manager) (hCapped : sys.manager.Records Capped)
    (hStep : Step platform sys op sys') : sys'.manager.Records Capped ↔ SparesImportant sys op := by
  rw [hStep.records_iff restored_capped hWf hCapped, spares_capped_iff]

/-- While no step suspends or shifts an important process past its bound, none is behind it. -/
theorem Run.important_capped (run : Run platform SparesImportant sys) : sys.manager.Records Capped :=
  Run.records restored_capped (run.mono fun _ _ hSpares => spares_capped_iff.mpr hSpares)

/-- In every run, the bounds are those of the configuration. -/
theorem Run.bounds_configured (run : Run platform anyOp sys) :
    sys.manager.Records (Configured platform) := by
  apply run.keeps fun s => s.Records (Configured platform)
  · intro bundle pid proc hTracks
    exact absurd hTracks.1 (not_tracked_init platform bundle)
  · intro sys op sys' hWf hConfigured _ hStep
    apply (hStep.records_iff (restored_configured platform) hWf hConfigured).mpr
    constructor
    · intro target killable _
      exact createdProc_configured platform target killable
    · intro bundle _ pid proc hTracks
      exact hConfigured bundle pid proc hTracks
    · intro used updatedAccountIds _ bundle pid proc hTracks
      exact hConfigured bundle pid proc hTracks

/-- An operation that only computes priorities spares the important processes. -/
theorem sparesImportant_of_computed (h : op.movesPriorities = false) : SparesImportant sys op := by
  constructor
  · simp [suspends_of_computed h]
  · simp [switches_of_computed h]

end Service

namespace Scenario

/-- The configuration as it is shipped names one important process, bounded by the background. -/
def importantPlatform : Platform := ⟨.none, ReclaimPriorityConfig.empty.addImportantBgApp "default" 400⟩

/-- An event of the important process. -/
def importantEvent (reason : AppStateUpdateReason) : Op :=
  .updateReclaimPriorityInner ⟨⟨0, 0, "", ""⟩, ⟨1, 20000001, "default", "20000001"⟩, reason⟩ 0 services

/-- The process is shown and hidden, and starts an ability. -/
def importantUsed : Service :=
  (reachedOn importantPlatform [importantEvent .createProcess, importantEvent .foreground,
    importantEvent .background, importantEvent .abilityStart]).get (by decide)

/-- The bound holds in a state that has an important process. -/
theorem important_capped_importantUsed :
    ((importantUsed.manager.bundles 0).procs[(1 : Int)]?).any (·.isImportant) = true ∧
      importantUsed.manager.Records Capped := by
  refine ⟨by decide, ?_⟩
  apply @Service.Run.important_capped importantPlatform
  apply run_reachedOn
  intro sys op hOp
  apply Service.sparesImportant_of_computed
  revert op
  decide

def importantSuspended : Service :=
  (reachedOn importantPlatform [importantEvent .createProcess, importantEvent .applicationSuspend]).get
    (by decide)

def importantSwitched : Service :=
  (reachedOn importantPlatform (importantEvent .createProcess :: switchTo101)).get (by decide)

/-- A suspension puts the process behind its bound, and so does a switch to another account. -/
theorem important_behind_bound :
    (Service.Run importantPlatform Service.anyOp importantSuspended ∧
      ¬ importantSuspended.manager.Records Capped) ∧
    Service.Run importantPlatform Service.anyOp importantSwitched ∧
      ¬ importantSwitched.manager.Records Capped :=
  ⟨⟨run_reachedOn (fun _ _ _ => trivial) (by decide), by decide⟩,
    run_reachedOn (fun _ _ _ => trivial) (by decide), by decide⟩

end Scenario
end MemMgr
