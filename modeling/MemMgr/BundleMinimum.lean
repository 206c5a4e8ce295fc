import Mathlib.Data.Int.LeastGreatest
import Mathlib.Order.Bounds.Basic
import MemMgr.Runs
import MemMgr.Scenario

/-! The cached priority of a bundle against its processes. A lower bound is all
the covered bundles promise; here it is also attained. -/
namespace MemMgr

open Std (ExtTreeMap)
open Relation ReclaimPriorityManager BundlePriorityInfo

namespace BundlePriorityInfo

/-- The priority is the least one of its processes, clamped. -/
def IsMinimum (info : BundlePriorityInfo) : Prop :=
  ∃ least, IsLeast {priority | info.SomeProc fun proc => proc.priority = priority} least ∧
    info.priority = clampPriority least

/-- A process is at the priority of its bundle, unless that is the greatest. -/
def Attained (info : BundlePriorityInfo) : Prop :=
  info.priority = 1000 ∨ info.SomeProc fun proc => proc.priority ≤ info.priority

instance (info : BundlePriorityInfo) : Decidable info.Attained := inferInstanceAs (Decidable (_ ∨ _))

variable {info : BundlePriorityInfo}

/-- A priority within the bounds is not clamped. -/
theorem clampPriority_of_mem {priority : Int} (hLeast : -1000 ≤ priority) (hGreatest : priority ≤ 1000) :
    clampPriority priority = priority := by
  simp only [clampPriority, reclaimPriorityMax, reclaimPriorityMin]
  split_ifs <;> omega

theorem clampPriority_of_ge {priority : Int} (h : 1000 ≤ priority) : clampPriority priority = 1000 := by
  simp only [clampPriority, reclaimPriorityMax]
  exact if_pos h

/-- For a covered bundle with a process, attaining the bound is being the minimum. -/
theorem isMinimum_iff (hCovered : info.Covered) (hLeft : info.getProcsCount ≠ 0) :
    info.IsMinimum ↔ info.Attained := by
  constructor
  · rintro ⟨least, ⟨⟨pid, proc, hProc, rfl⟩, -⟩, hPriority⟩
    rcases le_total proc.priority 1000 with hLe | hGe
    · refine Or.inr ⟨pid, proc, hProc, ?_⟩
      rw [hPriority, clampPriority_of_mem (hCovered.record _ _ hProc).least hLe]
    · exact Or.inl (hPriority.trans (clampPriority_of_ge hGe))
  · rintro (hTop | ⟨pid, proc, hProc, hLe⟩)
    · obtain ⟨pid, proc, hProc⟩ := getProcsCount_ne_zero.mp hLeft
      obtain ⟨least, ⟨key, found, hFound, hIs⟩, hBelow⟩ := Int.exists_least_of_bdd
        (P := fun priority => info.SomeProc fun proc => proc.priority = priority)
        ⟨1000, fun _ ⟨_, _, hOther, hIs⟩ => hIs ▸ hTop ▸ hCovered.below _ _ hOther⟩
        ⟨proc.priority, pid, proc, hProc, rfl⟩
      refine ⟨least, ⟨⟨key, found, hFound, hIs⟩, fun priority => hBelow priority⟩, ?_⟩
      rw [hTop, clampPriority_of_ge (hIs ▸ hTop ▸ hCovered.below _ _ hFound)]
    · have hIs : proc.priority = info.priority := le_antisymm hLe (hCovered.below _ _ hProc)
      refine ⟨info.priority, ⟨⟨pid, proc, hProc, hIs⟩, ?_⟩, ?_⟩
      · rintro priority ⟨_, _, hOther, rfl⟩
        exact hCovered.below _ _ hOther
      · exact (clampPriority_of_mem hCovered.least hCovered.greatest).symm

/-- A recomputed priority is attained: one more would not be above all processes. -/
theorem attained_updatePriority (info : BundlePriorityInfo) : info.updatePriority.Attained := by
  by_contra hNot
  obtain ⟨hTop, hNone⟩ := not_or.mp hNot
  have hBounds := clampPriority_bounds info.getMinProcPriority
  have hTop' : clampPriority info.getMinProcPriority ≠ 1000 := hTop
  have hAbove : clampPriority info.getMinProcPriority + 1 ≤ info.getMinProcPriority := by
    refine le_getMinProcPriority.mpr ⟨by omega, fun pid proc hProc _ => ?_⟩
    by_contra hLe
    exact hNone ⟨pid, proc, hProc, Int.lt_add_one_iff.mp (not_le.mp hLe)⟩
  have hClamp := clampPriority_mono hAbove
  simp only [clampPriority, reclaimPriorityMax, reclaimPriorityMin] at hAbove hTop'
  split_ifs at hAbove hTop' <;> omega

/-- Taking out a process above the priority. -/
theorem Attained.removeProcByPid {pid : Int} {proc : ProcessPriorityInfo} (hShaped : info.Shaped)
    (hProc : info.procs[pid]? = some proc) (hAbove : info.priority < proc.priority)
    (h : info.Attained) : (info.removeProcByPid proc.pid).Attained := by
  rcases h with hTop | ⟨key, found, hFound, hLe⟩
  · exact Or.inl hTop
  · refine Or.inr ⟨key, found, ?_, hLe⟩
    rw [removeProcByPid_procs, if_neg]
    · exact hFound
    · rintro rfl
      rw [(hShaped.record _ _ hProc).pid, hProc] at hFound
      obtain rfl := Option.some.inj hFound
      omega

/-- Writing a record back without changing its priority. -/
theorem Attained.setProc {pid : Int} {proc proc' : ProcessPriorityInfo} (hShaped : info.Shaped)
    (hProc : info.procs[pid]? = some proc) (hSame : ProcessPriorityInfo.SameIdentity proc proc')
    (hPriority : proc'.priority = proc.priority) (h : info.Attained) : (info.setProc proc').Attained := by
  have hPid : proc'.pid = pid := hSame.pid.trans (hShaped.record _ _ hProc).pid
  rcases h with hTop | ⟨key, found, hFound, hLe⟩
  · exact Or.inl hTop
  · by_cases hKey : pid = key
    · obtain rfl : proc = found := by rw [hKey, hFound] at hProc; exact (Option.some.inj hProc).symm
      exact Or.inr ⟨pid, proc', by rw [setProc_procs, if_pos hPid], hPriority.trans_le hLe⟩
    · refine Or.inr ⟨key, found, ?_, hLe⟩
      rw [setProc_procs, if_neg (hPid ▸ hKey)]
      exact hFound

end BundlePriorityInfo

variable {platform : Platform} {dirty : BundleRef → Prop} {s s' : ReclaimPriorityManager}

/-- Every tracked bundle attains its priority. -/
def AllAttained (s : ReclaimPriorityManager) : Prop :=
  ∀ bundle, s.Tracked bundle → (s.bundles bundle).Attained

namespace AllAttained

variable {bundle : BundleRef} {info : BundlePriorityInfo}

/-- If one object changes, the least priorities are attained everywhere once they are in
that object. -/
theorem update (h : AllAttained s) (hHeap : s'.bundles = Function.update s.bundles bundle info)
    (hTracked : ∀ other, other ≠ bundle → s'.Tracked other → s.Tracked other)
    (hInfo : s'.Tracked bundle → info.Attained) : AllAttained s' := by
  intro other hOther
  rw [hHeap, Function.update_apply]
  split_ifs with hIs
  · exact hInfo (hIs ▸ hOther)
  · exact h other (hTracked other hIs hOther)

/-- Bundles that are no longer tracked do not matter. -/
theorem untrack (h : AllAttained s) (hHeap : s'.bundles = s.bundles)
    (hTracked : ∀ other, s'.Tracked other → s.Tracked other) : AllAttained s' :=
  fun other hOther => hHeap ▸ h other (hTracked other hOther)

/-- A bundle that is sorted in again gets the least priority of its processes. -/
theorem resort (h : AllAttained s) (change : BundlePriorityInfo → BundlePriorityInfo) :
    AllAttained ((s.modifyBundle bundle change).updateBundlePriority platform bundle) :=
  h.update (resort_bundles change) (fun _ _ => id) fun _ => attained_updatePriority _

/-- Whatever has an effect on a bundle sorts it in again, so its priority is attained. -/
theorem effect (hWf : WellFormed s) (h : AllAttained s) (hEffect : Effect platform dirty s s') :
    AllAttained s' := by
  cases hEffect with
  | notes handler apps => exact h.untrack rfl fun _ => id
  | edit hTracks hSame hPriority =>
      exact h.update rfl (fun _ _ => id) fun hTracked =>
        (h _ hTracked).setProc (hWf.covered _).toShaped hTracks.2 hSame hPriority
  | reprice hDirty hTracks hRepriced => exact h.resort _
  | @link bundle pid proc proc' hTracks hRepriced =>
      have hResorted : AllAttained ((s.setProc bundle proc').updateBundlePriority platform bundle) :=
        h.resort _
      exact hResorted.untrack rfl fun _ => id
  | suspend hDirty hTracked => exact h.resort _
  | openAccount hNone =>
      exact h.untrack rfl fun _ => (tracked_openAccount hNone).mp
  | join hDirty hFind hCreated =>
      refine h.update (admitProc_bundles _) (fun other hNe hOther => ?_) fun _ =>
        attained_updatePriority _
      exact (tracked_of_admitProc hOther).resolve_left hNe
  | enlist hDirty hAccount hNone hCreated =>
      refine h.update (enlist_bundles _) (fun other hNe hOther => ?_) fun _ =>
        attained_updatePriority _
      exact (tracked_of_admitProc hOther).resolve_left hNe
  | discharge hClean hTracks hLeft hAbove =>
      exact h.update rfl (fun _ _ => id) fun hTracked =>
        (h _ hTracked).removeProcByPid (hWf.covered _).toShaped hTracks.2 hAbove
  | dischargeLeast hClean hTracks hLeft => exact h.resort _
  | retire hClean hFind hProc hLast =>
      obtain ⟨rfl, -⟩ := hWf.stored hFind
      exact h.update rfl (fun _ _ hOther => tracked_of_removeBundle hOther) fun hTracked =>
        absurd hTracked hWf.not_tracked_unlink
  | closeAccount hAccount hEmpty =>
      obtain rfl := hWf.accountId hAccount
      exact h.untrack rfl fun _ => (tracked_closeAccount hAccount hEmpty).mp
  | setState hTracked state => exact h.update rfl (fun _ _ => id) fun hTracked => h _ hTracked
  | reset hClean => exact fun other hTracked => absurd hTracked (not_tracked_reset other)

/-- The pass over the extensions leaves each priority attained by a process. -/
theorem settled {rendered : Option Int} (hWf : WellFormed s) (h : AllAttained s)
    (hSettled : Settled platform rendered s s') : AllAttained s' :=
  hSettled.invariant AllAttained hWf h (fun hWf h hEffect => h.effect hWf hEffect)
    fun hMap _ hHeap h => h.untrack hHeap fun _ => (tracked_congr hMap).mp

end AllAttained

/-- Those who survive a purge include one at the priority of the bundle. -/
def SurvivorAttains (alivePids : List Nat) (info : BundlePriorityInfo) : Prop :=
  HasSurvivor alivePids info → info.priority = 1000 ∨
    info.SomeProc fun proc => isAlive alivePids proc.pid = true ∧ proc.priority ≤ info.priority

instance (alivePids : List Nat) : DecidablePred (SurvivorAttains alivePids) :=
  fun _ => inferInstanceAs (Decidable (_ → _))

namespace SurvivorAttains

variable {alivePids : List Nat} {info : BundlePriorityInfo}

/-- Then the purged bundle still attains its priority. -/
theorem attained (h : SurvivorAttains alivePids info) (hLeft : HasSurvivor alivePids info) :
    (filterDiedProcs alivePids info).Attained := by
  refine (h hLeft).imp_right ?_
  rintro ⟨pid, proc, hProc, hAlive, hLe⟩
  refine ⟨pid, _, filterDiedProcs_lookup.mpr ⟨proc, hProc, hAlive, rfl⟩, ?_⟩
  exact (survivor_same alivePids proc).2.trans_le hLe

/-- A bundle in which a survivor attains the priority is left with such a process. -/
theorem filterDiedProcs (h : SurvivorAttains alivePids info) :
    SurvivorAttains alivePids (filterDiedProcs alivePids info) := by
  intro hLeft
  refine (h (hasSurvivor_filterDiedProcs.mp hLeft)).imp_right ?_
  rintro ⟨pid, proc, hProc, hAlive, hLe⟩
  obtain ⟨hSame, hPriority⟩ := survivor_same alivePids proc
  refine ⟨pid, _, filterDiedProcs_lookup.mpr ⟨proc, hProc, hAlive, rfl⟩, ?_, hPriority.trans_le hLe⟩
  rw [hSame.pid]
  exact hAlive

end SurvivorAttains

/-- Every tracked bundle the purge will meet keeps a survivor at its priority. -/
def PurgeKeeps (alivePids : List Nat) (s : ReclaimPriorityManager) : Prop :=
  ∀ bundle ∈ s.prioList, s.Tracked bundle → SurvivorAttains alivePids (s.bundles bundle)

instance (alivePids : List Nat) : DecidablePred (PurgeKeeps alivePids) :=
  fun s => inferInstanceAs (Decidable (∀ bundle ∈ s.prioList, _))

/-- One bundle of a purge keeps the priorities attained, and what the rest of the purge needs. -/
theorem AllAttained.purge {alivePids : List Nat} (hWf : WellFormed s) (hKeeps : PurgeKeeps alivePids s)
    (h : AllAttained s) (hPurge : Purge platform alivePids s s') :
    PurgeKeeps alivePids s' ∧ AllAttained s' := by
  have hStill : ∀ {bundle}, s'.bundles = Function.update s.bundles bundle
        (filterDiedProcs alivePids (s.bundles bundle)) → s'.prioList ⊆ s.prioList →
      (∀ other, s'.Tracked other → s.Tracked other) → PurgeKeeps alivePids s' := by
    intro bundle hHeap hSet hTracked other hMem hOther
    have hBefore := hKeeps other (hSet hMem) (hTracked other hOther)
    rw [hHeap, Function.update_apply]
    split_ifs with hIs
    · exact hIs ▸ hBefore.filterDiedProcs
    · exact hBefore
  cases hPurge with
  | keep hMem hLeft =>
      refine ⟨hStill rfl (List.Subset.refl _) fun _ => id, h.update rfl (fun _ _ => id) fun hTracked => ?_⟩
      exact (hKeeps _ hMem hTracked).attained hLeft
  | orphan hMem hEmpty hNone =>
      exact ⟨hStill rfl (List.Subset.refl _) fun _ => id, h.update rfl (fun _ _ => id) fun hTracked =>
        absurd hNone (hWf.findOsAccountById_ne_none hTracked)⟩
  | drop position hAt hEmpty =>
      refine ⟨hStill rfl ?_ fun _ => tracked_of_removeBundle,
        h.update rfl (fun _ _ => tracked_of_removeBundle) fun hTracked =>
          absurd hTracked hWf.not_tracked_dropDied⟩
      rw [dropDied_prioList]
      exact List.eraseIdx_subset

/-- A purge that takes no priority away with the dead keeps the priorities attained. -/
theorem AllAttained.filterDiedProcess {alivePids : List Nat} (hWf : WellFormed s)
    (hKeeps : PurgeKeeps alivePids s) (h : AllAttained s) :
    AllAttained (s.filterDiedProcess platform (some alivePids)) := by
  have hAll := @filterDiedProcess_invariant platform alivePids s
    (fun s' => WellFormed s' ∧ PurgeKeeps alivePids s' ∧ AllAttained s') ⟨hWf, hKeeps, h⟩
    fun hPurge h => ⟨h.1.purge hPurge, h.2.2.purge h.1 h.2.1 hPurge⟩
  exact hAll.2.2

/-- An account switch moves no bundle down from the greatest priority while all
of its processes are above it. -/
def SwitchKeeps (accounts : MultiAccountManager) (updatedAccountIds : List Int)
    (s : ReclaimPriorityManager) : Prop :=
  ∀ bundle, s.Tracked bundle → getOsAccountIdByUid (s.bundles bundle).uid ∈ updatedAccountIds →
    ((s.bundles bundle).SomeProc fun proc => proc.priority ≤ 1000) ∨
      ∀ accountInfo ∈ accounts.getAccountPriorityInfo (getOsAccountIdByUid (s.bundles bundle).uid),
        0 ≤ accountInfo.priority

instance (accounts : MultiAccountManager) (updatedAccountIds : List Int) :
    DecidablePred (SwitchKeeps accounts updatedAccountIds) :=
  fun s => inferInstanceAs (Decidable (∀ bundle, s.Tracked bundle → _))

/-- The greatest priority stays where it is in accounts that have no negative priority. -/
theorem recalcBundlePriority_greatest {accounts : MultiAccountManager} {accountId : Int}
    (h : ∀ accountInfo ∈ accounts.getAccountPriorityInfo accountId, 0 ≤ accountInfo.priority) :
    accounts.recalcBundlePriority accountId 1000 = 1000 := by
  rw [MultiAccountManager.recalcBundlePriority]
  cases hInfo : accounts.getAccountPriorityInfo accountId with
  | none => rfl
  | some accountInfo =>
      have hGain := h accountInfo hInfo
      simp only [reclaimPriorityMax, reclaimPriorityForeground]
      split_ifs <;> omega

/-- A process is at the priority of its bundle, or the bundle is at the greatest
priority and stays there. -/
def Anchored (accounts : MultiAccountManager) (updatedAccountIds : List Int)
    (info : BundlePriorityInfo) : Prop :=
  (info.SomeProc fun proc => proc.priority ≤ info.priority) ∨
    info.priority = 1000 ∧ (getOsAccountIdByUid info.uid ∈ updatedAccountIds →
      ∀ accountInfo ∈ accounts.getAccountPriorityInfo (getOsAccountIdByUid info.uid),
        0 ≤ accountInfo.priority)

/-- The process at the priority moves with it. -/
theorem Anchored.shifted {accounts : MultiAccountManager} {updatedAccountIds : List Int}
    {info : BundlePriorityInfo} (hUpdated : getOsAccountIdByUid info.uid ∈ updatedAccountIds)
    (h : Anchored accounts updatedAccountIds info) :
    Anchored accounts updatedAccountIds (accounts.shifted (getOsAccountIdByUid info.uid) info) := by
  rcases h with ⟨pid, proc, hProc, hLe⟩ | ⟨hTop, hGain⟩
  · refine Or.inl ⟨pid, proc.setPriority (proc.priority +
      (accounts.recalcBundlePriority (getOsAccountIdByUid info.uid) info.priority - info.priority)), ?_, ?_⟩
    · rw [MultiAccountManager.shifted, increaseProcsPriority_procs]
      exact congrArg _ hProc
    · simp only [ProcessPriorityInfo.setPriority_priority, MultiAccountManager.shifted,
        increaseProcsPriority]
      omega
  · refine Or.inr ⟨?_, hGain⟩
    simp only [MultiAccountManager.shifted, increaseProcsPriority, hTop]
    exact recalcBundlePriority_greatest (hGain hUpdated)

/-- A hot switch that moves bundle and processes alike keeps the priorities attained. -/
theorem AllAttained.hotSwitch {accounts : MultiAccountManager} {updatedAccountIds : List Int}
    (hWf : WellFormed s) (hKeeps : SwitchKeeps accounts updatedAccountIds s) (h : AllAttained s) :
    AllAttained (accounts.handleAccountHotSwitch updatedAccountIds s) := by
  have hInv : WellFormed (accounts.handleAccountHotSwitch updatedAccountIds s) ∧
      ∀ bundle, (accounts.handleAccountHotSwitch updatedAccountIds s).Tracked bundle →
        Anchored accounts updatedAccountIds
          ((accounts.handleAccountHotSwitch updatedAccountIds s).bundles bundle) := by
    refine MultiAccountManager.handleAccountHotSwitch_invariant
      (fun s => WellFormed s ∧ ∀ bundle, s.Tracked bundle →
        Anchored accounts updatedAccountIds (s.bundles bundle)) ?_ ⟨hWf, fun bundle hTracked => ?_⟩
    · rintro s uid accountId bundle hUpdated hFind ⟨hWf, hAnchored⟩
      refine ⟨hWf.shiftBundle accountId bundle, fun other hOther => ?_⟩
      obtain ⟨rfl, rfl⟩ := hWf.stored hFind
      rw [MultiAccountManager.shiftBundle_bundles, Function.update_apply]
      split_ifs
      · exact (hAnchored bundle ⟨_, _, hFind⟩).shifted hUpdated
      · exact hAnchored other
          ((tracked_congr (MultiAccountManager.shiftBundle_osAccountsInfoMap _ _)).mp hOther)
    · rcases h bundle hTracked with hTop | hLow
      · by_cases hUpdated : getOsAccountIdByUid (s.bundles bundle).uid ∈ updatedAccountIds
        · rcases hKeeps bundle hTracked hUpdated with hLow | hGain
          · exact Or.inl (hTop ▸ hLow)
          · exact Or.inr ⟨hTop, fun _ => hGain⟩
        · exact Or.inr ⟨hTop, fun hIn => absurd hIn hUpdated⟩
      · exact Or.inl hLow
  exact fun bundle hTracked => (hInv.2 bundle hTracked).symm.imp_left And.left

namespace Service

variable {sys : Service}

/-- The two operations that can separate a bundle from its processes do not. -/
def keepsMinimum (sys : Service) (op : Op) : Prop :=
  (∀ alivePids ∈ op.alivePids, PurgeKeeps alivePids sys.manager) ∧
    ∀ switch ∈ op.hotSwitch sys.accounts, SwitchKeeps switch.1 switch.2 sys.manager

instance : ∀ sys op, Decidable (keepsMinimum sys op) := fun _ _ => inferInstanceAs (Decidable (_ ∧ _))

end Service

/-- A step that keeps the minimum leaves each bundle at the least priority of its processes. -/
theorem StepEffect.allAttained {sys : Service} {op : Op} (hWf : WellFormed sys.manager)
    (hKeeps : Service.keepsMinimum sys op) (h : AllAttained sys.manager)
    (hEffect : StepEffect platform sys op s') : AllAttained s' := by
  cases hEffect with
  | settled hSettled => exact h.settled hWf hSettled
  | purged alivePids => exact h.filterDiedProcess hWf (hKeeps.1 alivePids rfl)
  | switched used updatedAccountIds hSwitch =>
      exact h.hotSwitch hWf (hKeeps.2 (used, updatedAccountIds) hSwitch)

namespace Service

open Scenario

variable {sys : Service}

/-- While purges and account switches keep each bundle at one of its processes,
its priority is the least of theirs. -/
theorem Run.isMinimum (run : Run platform keepsMinimum sys) :
    ∀ bundle, sys.manager.Tracked bundle → (sys.manager.bundles bundle).IsMinimum := by
  have hWf := run.wellFormed
  have hAttained : AllAttained sys.manager := by
    apply run.keeps AllAttained
    · exact fun bundle hTracked => absurd hTracked (not_tracked_init platform bundle)
    · intro sys op sys' hWf h hKeeps hStep
      exact (hStep.effect hWf).allAttained hWf hKeeps h
  intro bundle hTracked
  exact (isMinimum_iff (hWf.covered bundle) (hWf.nonempty hTracked)).mpr (hAttained bundle hTracked)

/-- A foreground and a background process of one bundle. -/
def foregroundAndBackground : List Op :=
  [event .createProcess 1 20000001, event .createProcess 2 20000001, event .background 2 20000001]

/-- The background process dies without a notice, and the account is switched away. -/
theorem isMinimum_purged_background :
    (((reached (foregroundAndBackground ++ [.filterDiedProcess (some [1]),
      .initAccounts ⟨some [100], fun _ _ => some true, true⟩, .osAccountsChanged 101 .hotSwitch
        ⟨some [101], fun _ id => some (id = 101), true⟩])).get (by decide)).manager.bundles 0).IsMinimum :=
  Run.isMinimum (run_checked (by decide +kernel) (by decide)) 0 (by decide +kernel)

/-- The foreground process dies without a notice, and its bundle stays at the
priority of the foreground. -/
theorem purged_foreground_not_minimum :
    ((reached (foregroundAndBackground ++
      [.filterDiedProcess (some [2])])).get (by decide)).manager.Tracked 0 ∧
    ¬ (((reached (foregroundAndBackground ++
      [.filterDiedProcess (some [2])])).get (by decide)).manager.bundles 0).IsMinimum := by
  have run : Run platform anyOp ((reached (foregroundAndBackground ++
      [.filterDiedProcess (some [2])])).get (by decide)) := run_reached (fun _ _ _ => trivial) (by decide)
  refine ⟨by decide +kernel, ?_⟩
  rw [isMinimum_iff (run.wellFormed.covered 0) (by decide +kernel)]
  decide +kernel

end Service
end MemMgr
