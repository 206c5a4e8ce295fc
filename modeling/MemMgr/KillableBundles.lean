import MemMgr.HotSwitch
import MemMgr.KilledProcesses

/-! Which bundles the killer takes. In an ascending set the first one it can copy is the
greatest one, and a bundle it is done with waits from then on. -/
namespace MemMgr

open Std (ExtTreeMap)
open ReclaimPriorityManager BundlePriorityInfo

/-- An object as its constructor and `AddProc` make it. -/
structure BundlePriorityInfo.Intact (info : BundlePriorityInfo) : Prop where
  owner : info.accountId = getOsAccountIdByUid info.uid
  keyed : ∀ (pid : Int) proc, info.procs[pid]? = some proc → proc.pid = pid

/-- The shape that every run keeps makes the records intact. -/
theorem BundlePriorityInfo.Shaped.intact {info : BundlePriorityInfo} (h : info.Shaped) : info.Intact where
  owner := h.owner
  keyed pid proc hProc := (h.record pid proc hProc).pid

/-- Memory suffices to copy the bundle where a scan of the set meets it. -/
def ReclaimPriorityManager.CopySucceeds (s : ReclaimPriorityManager) (copySucceeds : Nat → Bool)
    (bundle : BundleRef) : Prop :=
  copySucceeds (s.prioList.reverse.idxOf bundle) = true

/-- The bundle may be taken at this priority. -/
structure ReclaimPriorityManager.Choosable (s : ReclaimPriorityManager) (copySucceeds : Nat → Bool)
    (minPrio : Int) (bundle : BundleRef) : Prop where
  above : minPrio ≤ (s.bundles bundle).priority
  ready : (s.bundles bundle).state ≠ .stateWaitingForKill
  copied : s.CopySucceeds copySucceeds bundle

namespace ReclaimPriorityManager

variable {s s' : ReclaimPriorityManager} {bundle : BundleRef} {minPrio : Int}
variable {copySucceeds : Nat → Bool}

/-- A bundle can be chosen if its priority is high enough, it does not wait for its kill yet, and
its copy succeeds. -/
theorem choosable_iff : s.Choosable copySucceeds minPrio bundle ↔
    minPrio ≤ (s.bundles bundle).priority ∧ (s.bundles bundle).state ≠ .stateWaitingForKill ∧
      copySucceeds (s.prioList.reverse.idxOf bundle) = true :=
  ⟨fun h => ⟨h.above, h.ready, h.copied⟩, fun ⟨hAbove, hReady, hCopied⟩ => ⟨hAbove, hReady, hCopied⟩⟩

instance : Decidable (s.Choosable copySucceeds minPrio bundle) := decidable_of_iff _ choosable_iff.symm

end ReclaimPriorityManager

namespace BundlePriorityInfo

variable {info : BundlePriorityInfo}

/-- The copy of a map, entry by entry, holds for each pid what the map had, or else the first record
naming the pid. -/
theorem foldl_insertIfNew_lookup (entries : List (Int × ProcessPriorityInfo))
    (procs : ExtTreeMap Int ProcessPriorityInfo) (pid : Int) :
    (entries.foldl (fun procs entry => procs.insertIfNew entry.2.pid entry.2) procs)[pid]? =
      procs[pid]?.or ((entries.find? fun entry => entry.2.pid = pid).map Prod.snd) := by
  induction entries generalizing procs with
  | nil => simp
  | cons entry entries ih =>
      rw [List.foldl_cons, ih, List.find?_cons]
      cases hOld : procs[entry.2.pid]? with
      | none =>
          rw [ExtTreeMap.getElem?_insertIfNew_of_none hOld]
          by_cases hPid : entry.2.pid = pid
          · rw [← hPid, hOld]
            simp
          · simp [hPid]
      | some proc =>
          rw [ExtTreeMap.getElem?_insertIfNew_of_some hOld]
          by_cases hPid : entry.2.pid = pid
          · rw [← hPid, hOld]
            simp
          · simp [hPid]

/-- The copy of an intact object is the object. -/
theorem Intact.copy_eq (h : info.Intact) : info.copy = info := by
  have hProcs : info.copy.procs = info.procs := by
    apply ExtTreeMap.ext_getElem?
    intro pid
    rw [BundlePriorityInfo.copy, ExtTreeMap.foldl_eq_foldl_toList, foldl_insertIfNew_lookup,
      ExtTreeMap.getElem?_empty, Option.none_or]
    have hKeyed : info.procs.toList.find? (fun entry => entry.2.pid = pid) =
        info.procs.toList.find? (fun entry => entry.1 = pid) := by
      rw [← List.head?_filter, ← List.head?_filter]
      congr 1
      apply List.filter_congr
      intro entry hEntry
      rw [h.keyed _ _ (ExtTreeMap.mem_toList_iff_getElem?_eq_some.mp hEntry)]
    rw [hKeyed, ← List.head?_filter, ExtTreeMap.toList_filter_key]
    cases info.procs[pid]? <;> rfl
  cases info
  simp only [copy] at hProcs ⊢
  rw [hProcs]

end BundlePriorityInfo

/-- The order of the set is that of the keys. -/
theorem SetAscending.byKey {s : ReclaimPriorityManager} (h : SetAscending s) : SearchTree.Ascending s.sortKey s.prioList := by
  rw [SetAscending] at h
  exact h.imp fun hLess => Prod.Lex.toLex_lt_toLex.mpr hLess

/-- A set in order holds no bundle twice. -/
theorem SetAscending.nodup {s : ReclaimPriorityManager} (h : SetAscending s) : s.prioList.Nodup := by
  apply h.byKey.imp
  intro bundle other hLess hSame
  rw [hSame] at hLess
  exact lt_irrefl _ hLess

namespace ReclaimPriorityManager

variable {s s' : ReclaimPriorityManager} {bundle : BundleRef} {minPrio : Int}
variable {copySucceeds : Nat → Bool}

/-- The scan is a search. It stops at the first bundle that is below the priority, and those
behind it are below as well. -/
theorem killableFrom_eq_find? {before bundles : List BundleRef}
    (hScan : s.prioList.reverse = before ++ bundles) (hDistinct : s.prioList.Nodup)
    (hDescending : bundles.Pairwise fun first second =>
      (s.bundles second).priority ≤ (s.bundles first).priority) :
    (s.killableFrom copySucceeds minPrio bundles before.length).1 =
      (bundles.find? fun bundle => s.Choosable copySucceeds minPrio bundle).map fun bundle =>
        (s.bundles bundle).copy := by
  induction bundles generalizing before with
  | nil => rfl
  | cons bundle bundles ih =>
      have hRest := @ih (before ++ [bundle]) (by simpa using hScan) hDescending.of_cons
      have hMet : s.prioList.reverse.idxOf bundle = before.length := by
        have hNodup := List.nodup_reverse.mpr hDistinct
        rw [hScan] at hNodup ⊢
        have hNew : bundle ∉ before := fun hMem =>
          (List.disjoint_of_nodup_append hNodup) hMem List.mem_cons_self
        simp [List.idxOf_append_of_notMem hNew]
      rw [List.length_append, List.length_singleton] at hRest
      rw [killableFrom]
      dsimp only
      split_ifs with hBelow hWaits hCopied
      · have hNone : (bundle :: bundles).find?
            (fun bundle => s.Choosable copySucceeds minPrio bundle) = none := by
          apply List.find?_eq_none.mpr
          intro other hOther hChosen
          have hAbove := (of_decide_eq_true hChosen).above
          rcases List.mem_cons.mp hOther with rfl | hLater
          · exact not_le.mpr hBelow hAbove
          · exact not_le.mpr hBelow (hAbove.trans ((List.pairwise_cons.mp hDescending).1 other hLater))
        rw [hNone]
        rfl
      · rw [hRest, List.find?_cons_of_neg]
        simp [choosable_iff, hWaits]
      · rw [List.find?_cons_of_pos]
        · rfl
        · simp [choosable_iff, hWaits, not_lt.mp hBelow, hMet, hCopied]
      · rw [List.find?_cons_of_neg]
        · exact hRest
        · simp [choosable_iff, hMet, hCopied]

/-- The scan goes from the greatest key down and copies the first bundle that can be chosen. -/
theorem getOneKillableBundle_eq_find? (h : SetAscending s) :
    (s.getOneKillableBundle copySucceeds minPrio).1 =
      (s.prioList.reverse.find? fun bundle => s.Choosable copySucceeds minPrio bundle).map fun bundle =>
        (s.bundles bundle).copy := by
  have hDescending : s.prioList.reverse.Pairwise fun first second =>
      (s.bundles second).priority ≤ (s.bundles first).priority := by
    apply List.pairwise_reverse.mpr
    apply h.byKey.imp
    intro first second hLess
    rcases Prod.Lex.toLex_lt_toLex.mp hLess with hPriority | ⟨hSame, -⟩
    · exact hPriority.le
    · exact hSame.le
  exact @killableFrom_eq_find? s minPrio copySucceeds [] _ rfl h.nodup hDescending

/-- It answers the copy of the greatest bundle that can be chosen. -/
theorem getOneKillableBundle_eq_some (h : SetAscending s) {copied : BundlePriorityInfo} :
    (s.getOneKillableBundle copySucceeds minPrio).1 = some copied ↔
      ∃ bundle ∈ s.prioList, s.Choosable copySucceeds minPrio bundle ∧ copied = (s.bundles bundle).copy ∧
        ∀ other ∈ s.prioList, s.Choosable copySucceeds minPrio other → other ≠ bundle →
          s.sortKey other < s.sortKey bundle := by
  rw [getOneKillableBundle_eq_find? h, Option.map_eq_some_iff]
  simp only [SearchTree.find?_reverse_eq_some h.byKey, decide_eq_true_eq]
  constructor
  · rintro ⟨bundle, ⟨hMem, hChosen, hGreatest⟩, rfl⟩
    exact ⟨bundle, hMem, hChosen, rfl, hGreatest⟩
  · rintro ⟨bundle, hMem, hChosen, rfl, hGreatest⟩
    exact ⟨bundle, ⟨hMem, hChosen, hGreatest⟩, rfl⟩

/-- In an ascending set nothing is returned exactly when every bundle of the priority waits or
cannot be copied, and otherwise the greatest of the others is returned as it is. -/
theorem getOneKillableBundle_greatest (h : SetAscending s)
    (hIntact : ∀ bundle ∈ s.prioList, (s.bundles bundle).Intact) (copySucceeds : Nat → Bool)
    (minPrio : Int) :
    ((s.getOneKillableBundle copySucceeds minPrio).1 = none ↔
      ∀ bundle ∈ s.prioList, minPrio ≤ (s.bundles bundle).priority →
        (s.bundles bundle).state = .stateWaitingForKill ∨ ¬ s.CopySucceeds copySucceeds bundle) ∧
    ∀ copied, (s.getOneKillableBundle copySucceeds minPrio).1 = some copied ↔
      ∃ bundle ∈ s.prioList, s.Choosable copySucceeds minPrio bundle ∧ copied = s.bundles bundle ∧
        ∀ other ∈ s.prioList, s.Choosable copySucceeds minPrio other → other ≠ bundle →
          s.sortKey other < s.sortKey bundle := by
  constructor
  · rw [getOneKillableBundle_eq_find? h, Option.map_eq_none_iff, List.find?_eq_none]
    simp only [List.mem_reverse, decide_eq_true_eq, choosable_iff, CopySucceeds]
    grind
  · intro copied
    rw [getOneKillableBundle_eq_some h]
    constructor
    · rintro ⟨bundle, hMem, hChosen, rfl, hGreatest⟩
      exact ⟨bundle, hMem, hChosen, (hIntact bundle hMem).copy_eq, hGreatest⟩
    · rintro ⟨bundle, hMem, hChosen, rfl, hGreatest⟩
      exact ⟨bundle, hMem, hChosen, (hIntact bundle hMem).copy_eq.symm, hGreatest⟩

end ReclaimPriorityManager

namespace Scenario

/-- Three bundles, of which two are in the background and the one at the end of the set waits. -/
def waitingLast : Service :=
  (reached [event .createProcess 1 20000001, event .createProcess 2 20000002,
    event .createProcess 3 20000003, event .background 2 20000002, event .background 3 20000003,
    .setBundleState 100 20000003 .stateWaitingForKill]).get (by decide)

/-- A set whose last bundle waits for its kill is reached by a run. -/
theorem run_waitingLast : Service.Run platform Service.anyOp waitingLast :=
  run_reached (fun _ _ _ => trivial) (by decide)

/-- The theorem where the last bundle of the set is passed over. -/
theorem getOneKillableBundle_greatest_waitingLast :
    waitingLast.manager.prioList = [0, 1, 2] ∧
      (waitingLast.manager.getOneKillableBundle (fun _ => true) 0).1 =
        some (waitingLast.manager.bundles 1) := by
  refine ⟨by decide, ?_⟩
  have hGreatest := (@getOneKillableBundle_greatest waitingLast.manager (by decide)
    (fun bundle _ => (run_waitingLast.wellFormed.covered bundle).toShaped.intact) (fun _ => true) 0).2
  exact (hGreatest _).mpr ⟨1, by decide, by decide, rfl, by decide⟩

/-- The one bundle at the priority does not wait, but the copy fails. -/
theorem getOneKillableBundle_copyFails : ∃ sys, Service.Run platform Service.anyOp sys ∧
    SetAscending sys.manager ∧
    (sys.manager.getOneKillableBundle (fun _ => false) 0).1 = none ∧
    ∃ bundle ∈ sys.manager.prioList, 0 ≤ (sys.manager.bundles bundle).priority ∧
      (sys.manager.bundles bundle).state ≠ .stateWaitingForKill :=
  ⟨waitingLast, run_waitingLast, by decide, by decide, 1, by decide, by decide, by decide⟩

end Scenario
end MemMgr
