import MemMgr.KillRounds
import MemMgr.WaitingBundles

/-! Whether the killer finds what it may kill. The scan hands over the first bundle it can copy, and
the round is over when that one turns out to be too young. -/
namespace MemMgr

open ReclaimPriorityManager BundlePriorityInfo LowMemoryKiller

namespace ReclaimPriorityManager

variable (s : ReclaimPriorityManager) (copySucceeds : Nat → Bool) (minPrio : Int)

/-- The bundle that `killableFrom` copies. -/
def copiedBundle : List BundleRef → Nat → Option BundleRef
  | [], _ => none
  | bundle :: bundles, position =>
      if (s.bundles bundle).priority < minPrio then none
      else if (s.bundles bundle).state = .stateWaitingForKill then copiedBundle bundles (position + 1)
      else if copySucceeds position then some bundle
      else copiedBundle bundles (position + 1)

/-- The scan goes past these bundles: they wait, or cannot be copied where it meets them. -/
def Passes (before : List BundleRef) (position : Nat) : Prop :=
  ∀ entry ∈ before.zipIdx position, minPrio ≤ (s.bundles entry.1).priority ∧
    ((s.bundles entry.1).state = .stateWaitingForKill ∨ copySucceeds entry.2 = false)

/-- The scan gets as far as the bundle. -/
def ScanReaches (bundle : BundleRef) : Prop :=
  ∃ before after, s.prioList.reverse = before ++ bundle :: after ∧ s.Passes copySucceeds minPrio before 0

end ReclaimPriorityManager

/-- The bundle may be killed at this priority and time. -/
structure Eligible (s : ReclaimPriorityManager) (minPrio systemCurTime : Int) (bundle : BundleRef) :
    Prop where
  tracked : s.Tracked bundle
  above : minPrio ≤ (s.bundles bundle).priority
  ready : (s.bundles bundle).state ≠ .stateWaitingForKill
  holds : (s.bundles bundle).getProcsCount ≠ 0
  old : notToKillDuring ≤ systemCurTime - (s.bundles bundle).createTime

namespace LowMemoryKiller

variable (event : PressureEvent) (round : Nat) (minPrio : Int) (s : ReclaimPriorityManager)

/-- The bundles of which a round kills the processes: those that could not be copied, and the one
that is taken, if it is old enough. -/
def killedBundles : List BundleRef :=
  s.failedCopies (event.copyBundle round) minPrio s.prioList.reverse 0 ++
    (s.copiedBundle (event.copyBundle round) minPrio s.prioList.reverse 0).toList.filter fun bundle =>
      notToKillDuring ≤ event.getSystemCurTime round - (s.bundles bundle).createTime

/-- Some bundle that may be killed is killed, if there is one. -/
def Progresses : Prop :=
  (∃ bundle, Eligible s minPrio (event.getSystemCurTime round) bundle) →
    ∃ bundle ∈ killedBundles event round minPrio s,
      Eligible s minPrio (event.getSystemCurTime round) bundle

end LowMemoryKiller

variable {platform : Platform} {s : ReclaimPriorityManager} {bundle : BundleRef}
variable {copySucceeds : Nat → Bool} {minPrio : Int}

/-- A split of a list begins with its first element, or after it. -/
theorem exists_split_cons {α : Type*} {x y : α} {xs : List α} {wanted : List α → Prop} :
    (∃ before after, y :: xs = before ++ x :: after ∧ wanted before) ↔
      y = x ∧ wanted [] ∨ ∃ before after, xs = before ++ x :: after ∧ wanted (y :: before) := by
  constructor
  · rintro ⟨before, after, hSplit, hWanted⟩
    cases before with
    | nil => exact Or.inl ⟨(List.cons.inj hSplit).1, hWanted⟩
    | cons z before =>
        obtain ⟨rfl, hRest⟩ := List.cons.inj hSplit
        exact Or.inr ⟨before, after, hRest, hWanted⟩
  · rintro (⟨rfl, hWanted⟩ | ⟨before, after, rfl, hWanted⟩)
    · exact ⟨[], xs, rfl, hWanted⟩
    · exact ⟨y :: before, after, rfl, hWanted⟩

namespace ReclaimPriorityManager

/-- There is nothing to pass. -/
theorem passes_nil (position : Nat) : s.Passes copySucceeds minPrio [] position :=
  fun _ hEntry => absurd hEntry List.not_mem_nil

/-- A bundle is passed that has the priority, and waits for its kill or cannot be copied. -/
theorem passes_cons {first : BundleRef} {before : List BundleRef} {position : Nat} :
    s.Passes copySucceeds minPrio (first :: before) position ↔
      (minPrio ≤ (s.bundles first).priority ∧ ((s.bundles first).state = .stateWaitingForKill ∨
        copySucceeds position = false)) ∧ s.Passes copySucceeds minPrio before (position + 1) := by
  rw [Passes, List.zipIdx_cons, List.forall_mem_cons]
  rfl

/-- The scan answers the copy of the first bundle it does not pass. -/
theorem killableFrom_copied (bundles : List BundleRef) (position : Nat) :
    (s.killableFrom copySucceeds minPrio bundles position).1 =
      (s.copiedBundle copySucceeds minPrio bundles position).map fun bundle =>
        (s.bundles bundle).copy := by
  induction bundles generalizing position with
  | nil => rfl
  | cons first bundles ih =>
      rw [killableFrom, copiedBundle]
      dsimp only
      split_ifs
      · rfl
      · exact ih (position + 1)
      · rfl
      · exact ih (position + 1)

/-- What is copied is of the priority and does not wait. -/
theorem copiedBundle_spec {bundles : List BundleRef} {position : Nat}
    (hCopied : s.copiedBundle copySucceeds minPrio bundles position = some bundle) :
    minPrio ≤ (s.bundles bundle).priority ∧ (s.bundles bundle).state ≠ .stateWaitingForKill := by
  induction bundles generalizing position with
  | nil => cases hCopied
  | cons first bundles ih =>
      rw [copiedBundle] at hCopied
      split_ifs at hCopied with hBelow hWaits hCopies
      · exact ih hCopied
      · cases hCopied
        exact ⟨not_lt.mp hBelow, hWaits⟩
      · exact ih hCopied

/-- The scan kills or hands over just what it gets to. -/
theorem mem_scanned_iff (hAbove : minPrio ≤ (s.bundles bundle).priority)
    (hReady : (s.bundles bundle).state ≠ .stateWaitingForKill) (bundles : List BundleRef)
    (position : Nat) :
    (bundle ∈ s.failedCopies copySucceeds minPrio bundles position ∨
        s.copiedBundle copySucceeds minPrio bundles position = some bundle) ↔
      ∃ before after, bundles = before ++ bundle :: after ∧
        s.Passes copySucceeds minPrio before position := by
  induction bundles generalizing position with
  | nil => simp [failedCopies, copiedBundle]
  | cons first bundles ih =>
      rw [exists_split_cons, failedCopies, copiedBundle]
      simp only [passes_cons]
      split_ifs with hBelow hWaits hCopies
      · have hOther : first ≠ bundle := by
          rintro rfl
          exact not_le.mpr hBelow hAbove
        simp [hOther, not_le.mpr hBelow]
      · have hOther : first ≠ bundle := by
          rintro rfl
          exact hReady hWaits
        rw [ih (position + 1)]
        simp [hOther, hWaits, not_lt.mp hBelow]
      · simp [hCopies, hWaits, passes_nil]
      · rw [List.mem_cons, or_assoc, ih (position + 1)]
        simp [hCopies, not_lt.mp hBelow, passes_nil, eq_comm]

end ReclaimPriorityManager

/-- The records of an intact bundle name the pids they are stored under. -/
theorem BundlePriorityInfo.Intact.pids {info : BundlePriorityInfo} (h : info.Intact) :
    (info.procs.toList.map fun entry => entry.2.pid) = info.procs.keys := by
  rw [← Std.ExtTreeMap.map_fst_toList_eq_keys]
  apply List.map_congr_left
  intro entry hEntry
  exact h.keyed entry.1 entry.2 (Std.ExtTreeMap.mem_toList_iff_getElem?_eq_some.mp hEntry)

namespace LowMemoryKiller

variable (event : PressureEvent) (round : Nat) {killer : KillerState}

/-- The processes of these bundles, and no others, are passed to `KillOneProcessByPid`. -/
theorem killOneBundleByPrio_killed (hIntact : ∀ bundle, (killer.manager.bundles bundle).Intact) :
    (killOneBundleByPrio event round minPrio killer).1.killed =
      ((killedBundles event round minPrio killer.manager).flatMap fun bundle =>
        (killer.manager.bundles bundle).procs.keys).reverse ++ killer.killed := by
  have hQuick : (killer.manager.getOneKillableBundle (event.copyBundle round) minPrio).2 =
      (killer.manager.failedCopies (event.copyBundle round) minPrio killer.manager.prioList.reverse
        0).flatMap fun bundle => (killer.manager.bundles bundle).procs.keys := by
    rw [getOneKillableBundle, killableFrom_killed]
    simp only [(hIntact _).pids]
  have hFound : (killer.manager.getOneKillableBundle (event.copyBundle round) minPrio).1 =
      (killer.manager.copiedBundle (event.copyBundle round) minPrio killer.manager.prioList.reverse
        0).map killer.manager.bundles := by
    rw [getOneKillableBundle, killableFrom_copied]
    simp only [(hIntact _).copy_eq]
  rw [killOneBundleByPrio, killedBundles, List.flatMap_append, List.reverse_append, ← hQuick]
  generalize killer.manager.getOneKillableBundle (event.copyBundle round) minPrio = outcome
    at hFound ⊢
  obtain ⟨found, quick⟩ := outcome
  dsimp only at hFound ⊢
  rw [killAll_eq]
  cases hCopied : killer.manager.copiedBundle (event.copyBundle round) minPrio
      killer.manager.prioList.reverse 0 with
  | none =>
      rw [hCopied, Option.map_none] at hFound
      rw [hFound]
      rfl
  | some bundle =>
      obtain ⟨hAbove, hReady⟩ := copiedBundle_spec hCopied
      rw [hCopied, Option.map_some] at hFound
      rw [hFound]
      dsimp only
      rw [if_neg (not_lt.mpr hAbove)]
      by_cases hOld : notToKillDuring ≤
          event.getSystemCurTime round - (killer.manager.bundles bundle).createTime
      · rw [if_neg (not_lt.mpr hOld), if_neg hReady, killAll_eq]
        simp [hOld]
      · rw [if_pos (not_le.mp hOld)]
        simp [hOld]

/-- A bundle that may be killed is killed exactly when the scan reaches it. -/
theorem mem_killedBundles_iff (hEligible : Eligible s minPrio (event.getSystemCurTime round) bundle) :
    bundle ∈ killedBundles event round minPrio s ↔
      s.ScanReaches (event.copyBundle round) minPrio bundle := by
  rw [ScanReaches, ← mem_scanned_iff hEligible.above hEligible.ready, killedBundles, List.mem_append,
    List.mem_filter, Option.mem_toList]
  simp [hEligible.old]

/-- A round makes progress just when the scan gets as far as a bundle that may be killed, or there
is none. -/
theorem progresses_iff {sys : Service} (run : Service.Run platform Service.anyOp sys)
    (event : PressureEvent) (round : Nat) (minPrio : Int) (killLevel : Nat) (killed : List Int) :
    (Progresses event round minPrio sys.manager ↔
      ((∃ bundle, Eligible sys.manager minPrio (event.getSystemCurTime round) bundle) →
        ∃ bundle, Eligible sys.manager minPrio (event.getSystemCurTime round) bundle ∧
          sys.manager.ScanReaches (event.copyBundle round) minPrio bundle)) ∧
    (killOneBundleByPrio event round minPrio ⟨sys.manager, killLevel, killed⟩).1.killed =
      ((killedBundles event round minPrio sys.manager).flatMap fun bundle =>
        (sys.manager.bundles bundle).procs.keys).reverse ++ killed := by
  constructor
  · rw [Progresses]
    refine imp_congr_right fun _ => exists_congr fun bundle => ?_
    rw [and_comm]
    exact and_congr_right fun hEligible => mem_killedBundles_iff event round hEligible
  · exact @killOneBundleByPrio_killed minPrio event round ⟨sys.manager, killLevel, killed⟩
      fun bundle => (run.wellFormed.covered bundle).toShaped.intact

end LowMemoryKiller

namespace Scenario

/-- An event at some time. -/
def eventAt (systemCurTime : Int) (reason : AppStateUpdateReason) (pid uid : Int) : Op :=
  .updateReclaimPriorityInner
    ⟨⟨0, 0, "", ""⟩, ⟨pid, uid, "", toString uid⟩, reason⟩ 0 ⟨none, systemCurTime, true, true⟩

/-- Two bundles in the background, one of them just created. -/
def oneYoung : Service :=
  (reached [eventAt 0 .createProcess 1 20000001, eventAt 100 .createProcess 2 20000002,
    event .background 1 20000001, event .background 2 20000002]).get (by decide)

/-- A young process is reached by a run. -/
theorem run_oneYoung : Service.Run Scenario.platform Service.anyOp oneYoung :=
  run_reached (fun _ _ _ => trivial) (by decide)

def pressedAt (systemCurTime : Int) : PressureEvent :=
  ⟨fun _ => 300000, fun _ => systemCurTime, fun _ _ => 100, fun _ _ => true⟩

/-- Later on the bundle at the end of the set is old enough. -/
theorem progresses_iff_later :
    (Progresses (pressedAt 110) 0 200 oneYoung.manager ↔
      ((∃ bundle, Eligible oneYoung.manager 200 110 bundle) →
        ∃ bundle, Eligible oneYoung.manager 200 110 bundle ∧
          oneYoung.manager.ScanReaches (fun _ => true) 200 bundle)) ∧
    (killOneBundleByPrio (pressedAt 110) 0 200 ⟨oneYoung.manager, 0, []⟩).1.killed =
      ((killedBundles (pressedAt 110) 0 200 oneYoung.manager).flatMap fun bundle =>
        (oneYoung.manager.bundles bundle).procs.keys).reverse ++ [] :=
  progresses_iff run_oneYoung (pressedAt 110) 0 200 0 []

/-- The young bundle shields the other one. -/
theorem not_progresses_oneYoung : ∃ sys, Service.Run Scenario.platform Service.anyOp sys ∧
    ¬ Progresses (pressedAt 101) 0 200 sys.manager ∧
    (killOneBundleByPrio (pressedAt 101) 0 200 ⟨sys.manager, 0, []⟩).1.killed = [] := by
  refine ⟨oneYoung, run_oneYoung, fun hProgresses => ?_, by decide⟩
  have hEligible : Eligible oneYoung.manager 200 101 0 :=
    ⟨⟨100, 20000001, by decide⟩, by decide, by decide, by decide, by decide⟩
  obtain ⟨bundle, hMem, -⟩ := hProgresses ⟨0, hEligible⟩
  have hNone : killedBundles (pressedAt 101) 0 200 oneYoung.manager = [] := by decide
  rw [hNone] at hMem
  exact absurd hMem List.not_mem_nil

end Scenario
end MemMgr
