import MemMgr.MultiAccountManager
import MemMgr.WellFormed

/-! A hot switch shifts one tracked bundle after the other, and touches neither
the accounts nor the set. -/
namespace MemMgr

open Std (ExtTreeMap)
open ReclaimPriorityManager BundlePriorityInfo

namespace MultiAccountManager

variable {accounts : MultiAccountManager} {s : ReclaimPriorityManager}

/-- A recalculated priority lies between 0 and 1000. -/
theorem recalcBundlePriority_bounds (accounts : MultiAccountManager) (accountId bundlePriority : Int) :
    0 ≤ accounts.recalcBundlePriority accountId bundlePriority ∧
      accounts.recalcBundlePriority accountId bundlePriority ≤ 1000 := by
  rw [recalcBundlePriority]
  cases accounts.getAccountPriorityInfo accountId with
  | none => exact ⟨(by decide : (0 : Int) ≤ 1000), le_refl (1000 : Int)⟩
  | some accountInfo =>
      simp only [reclaimPriorityMax, reclaimPriorityForeground]
      split_ifs <;> omega

/-- A shifted object: a new priority, and the same move for every process. -/
def shifted (accounts : MultiAccountManager) (accountId : Int) (info : BundlePriorityInfo) :
    BundlePriorityInfo :=
  { info with priority := accounts.recalcBundlePriority accountId info.priority }.increaseProcsPriority
    (accounts.recalcBundlePriority accountId info.priority - info.priority)

theorem shiftBundle_eq (accountId : Int) (bundle : BundleRef) :
    accounts.shiftBundle accountId s bundle =
      (s.modifyBundle bundle (accounts.shifted accountId)).writeBundleOomScoreAdj bundle := rfl

/-- One shift changes the heap at its bundle only. -/
@[simp] theorem shiftBundle_bundles (accountId : Int) (bundle : BundleRef) :
    (accounts.shiftBundle accountId s bundle).bundles =
      Function.update s.bundles bundle (accounts.shifted accountId (s.bundles bundle)) := by
  rw [shiftBundle_eq, writeBundleOomScoreAdj_bundles, modifyBundle_bundles]

@[simp] theorem shiftBundle_osAccountsInfoMap (accountId : Int) (bundle : BundleRef) :
    (accounts.shiftBundle accountId s bundle).osAccountsInfoMap = s.osAccountsInfoMap := by
  rw [shiftBundle_eq, writeBundleOomScoreAdj_osAccountsInfoMap, modifyBundle_osAccountsInfoMap]

@[simp] theorem shiftBundle_prioList (accountId : Int) (bundle : BundleRef) :
    (accounts.shiftBundle accountId s bundle).prioList = s.prioList := by
  rw [shiftBundle_eq, prioList, writeBundleOomScoreAdj_totalBundlePrioSet]
  rfl

@[simp] theorem shiftBundle_nextRef (accountId : Int) (bundle : BundleRef) :
    (accounts.shiftBundle accountId s bundle).nextRef = s.nextRef := by
  rw [shiftBundle_eq, writeBundleOomScoreAdj_nextRef, modifyBundle_nextRef]

/-- What every shift of a tracked bundle of an account keeps, the account's part
of a hot switch keeps. -/
theorem shiftAccount_invariant (inv : ReclaimPriorityManager → Prop) {accountId : Int}
    (hStep : ∀ s uid bundle, s.findBundle uid accountId = some bundle → inv s →
      inv (accounts.shiftBundle accountId s bundle)) (h : inv s) :
    inv (accounts.shiftAccount s accountId) := by
  rw [shiftAccount]
  cases hAccount : s.findOsAccountById accountId with
  | none => exact h
  | some account =>
      have hFold : ∀ (entries : List (Int × BundleRef)) (s : ReclaimPriorityManager), inv s →
          (∀ entry ∈ entries, s.findBundle entry.1 accountId = some entry.2) →
          inv (entries.foldl (fun s entry => accounts.shiftBundle accountId s entry.2) s) := by
        intro entries
        induction entries with
        | nil => exact fun _ h _ => h
        | cons entry entries ih =>
            intro s h hFind
            refine ih _ (hStep s entry.1 entry.2 (hFind entry List.mem_cons_self) h) ?_
            intro other hOther
            rw [findBundle_congr (shiftBundle_osAccountsInfoMap accountId entry.2)]
            exact hFind other (List.mem_cons_of_mem _ hOther)
      refine hFold _ s h fun entry hEntry => ?_
      rw [findBundle, hAccount]
      exact ExtTreeMap.mem_toList_iff_getElem?_eq_some.mp hEntry

/-- What each single shift keeps, a whole hot switch keeps. -/
theorem handleAccountHotSwitch_invariant (inv : ReclaimPriorityManager → Prop)
    {updatedAccountIds : List Int}
    (hStep : ∀ s uid accountId bundle, accountId ∈ updatedAccountIds →
      s.findBundle uid accountId = some bundle → inv s →
      inv (accounts.shiftBundle accountId s bundle)) (h : inv s) :
    inv (accounts.handleAccountHotSwitch updatedAccountIds s) := by
  rw [handleAccountHotSwitch]
  induction updatedAccountIds generalizing s with
  | nil => exact h
  | cons accountId updatedAccountIds ih =>
      refine ih (fun s uid id bundle hId => hStep s uid id bundle (List.mem_cons_of_mem _ hId)) ?_
      exact shiftAccount_invariant inv (fun s uid bundle => hStep s uid accountId bundle List.mem_cons_self) h

end MultiAccountManager

open MultiAccountManager

/-- The hot switch an account notification leads to: the account priorities it
uses and the accounts it moves. -/
def hotSwitchOf (accounts : MultiAccountManager) (answers : AccountServices) (accountId : Int)
    (switchMod : OsAccountSwitchMod) : Option (MultiAccountManager × List Int) :=
  if !accounts.initialized then none
  else
    match accounts.getSwitchedAccountIds answers with
    | (_, none) => none
    | (accounts, some switchedAccountIds) =>
        match updateAccountPriorityInfo answers 0 (switchedAccountIds ++ [accountId]) accounts with
        | (_, false) => none
        | (accounts, true) =>
            if switchMod = .hotSwitch then some (accounts, switchedAccountIds ++ [accountId]) else none

/-- The manager's side carries that switch out, once it is initialized. -/
theorem updateAllPrioForOsAccountChanged_eq (accounts : MultiAccountManager)
    (answers : AccountServices) (accountId : Int) (switchMod : OsAccountSwitchMod)
    (s : ReclaimPriorityManager) :
    (updateAllPrioForOsAccountChanged accounts answers accountId switchMod s).manager =
      match if s.initialized then hotSwitchOf accounts answers accountId switchMod else none with
      | none => s
      | some (used, updatedAccountIds) => used.handleAccountHotSwitch updatedAccountIds s := by
  simp only [updateAllPrioForOsAccountChanged, handleOsAccountsChanged, hotSwitchOf]
  cases s.initialized with
  | false => rfl
  | true =>
      cases accounts.initialized with
      | false => rfl
      | true =>
          obtain ⟨accounts, switchedAccountIds⟩ := accounts.getSwitchedAccountIds answers
          cases switchedAccountIds with
          | none => rfl
          | some switchedAccountIds =>
              dsimp only
              obtain ⟨accounts, updated⟩ :=
                updateAccountPriorityInfo answers 0 (switchedAccountIds ++ [accountId]) accounts
              cases updated with
              | false => rfl
              | true => cases switchMod <;> rfl

/-- A notification leaves the bundles alone, or is a hot switch of the accounts it has found. -/
theorem updateAllPrioForOsAccountChanged_manager (accounts : MultiAccountManager)
    (answers : AccountServices) (accountId : Int) (switchMod : OsAccountSwitchMod)
    (s : ReclaimPriorityManager) :
    (updateAllPrioForOsAccountChanged accounts answers accountId switchMod s).manager = s ∨
      ∃ used updatedAccountIds,
        hotSwitchOf accounts answers accountId switchMod = some (used, updatedAccountIds) ∧
        (updateAllPrioForOsAccountChanged accounts answers accountId switchMod s).manager =
          used.handleAccountHotSwitch updatedAccountIds s := by
  rw [updateAllPrioForOsAccountChanged_eq]
  cases s.initialized with
  | false => exact Or.inl rfl
  | true =>
      rw [if_pos rfl]
      cases hotSwitchOf accounts answers accountId switchMod with
      | none => exact Or.inl rfl
      | some switch => exact Or.inr ⟨switch.1, switch.2, rfl, rfl⟩

/-- A shift keeps the state well formed. -/
theorem WellFormed.shiftBundle {accounts : MultiAccountManager} {s : ReclaimPriorityManager}
    (h : WellFormed s) (accountId : Int) (bundle : BundleRef) :
    WellFormed (accounts.shiftBundle accountId s bundle) := by
  have hBounds := recalcBundlePriority_bounds accounts accountId (s.bundles bundle).priority
  refine (h.retouch ((h.covered bundle).shift hBounds.1 hBounds.2) rfl fun hTracked => ?_).writeBundleOomScoreAdj
  obtain ⟨pid, proc, hProc⟩ := getProcsCount_ne_zero.mp (h.nonempty hTracked)
  exact getProcsCount_ne_zero.mpr ⟨pid, _, by rw [increaseProcsPriority_procs]; exact congrArg _ hProc⟩

/-- A hot switch, which is made of shifts, keeps the state well formed. -/
theorem WellFormed.hotSwitch {accounts : MultiAccountManager} {s : ReclaimPriorityManager}
    (h : WellFormed s) (updatedAccountIds : List Int) :
    WellFormed (accounts.handleAccountHotSwitch updatedAccountIds s) :=
  handleAccountHotSwitch_invariant WellFormed
    (fun _ _ accountId bundle _ _ h => h.shiftBundle accountId bundle) h

end MemMgr
