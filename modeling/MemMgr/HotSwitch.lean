import Mathlib.Algebra.Order.Ring.Int
import Mathlib.Tactic.Ring
import MemMgr.SetOrder

/-! A hot switch against the ordered set. The priorities are rewritten in place,
so the order survives exactly when the shifted priorities are still in it. -/
namespace MemMgr

open Std (ExtTreeMap)
open SearchTree ReclaimPriorityManager BundlePriorityInfo

/-- The range a shifted priority is confined to. -/
def inBand (priority : Int) : Int := max 0 (min 1000 priority)

namespace MultiAccountManager

variable {accounts : MultiAccountManager} {s : ReclaimPriorityManager}

/-- The priority after some shifts of the account: only the first one can start
outside the range. -/
def accountShift (accounts : MultiAccountManager) (accountId : Int) : Nat → Int → Int
  | 0, priority => priority
  | more + 1, priority =>
      match accounts.getAccountPriorityInfo accountId with
      | none => 1000
      | some accountInfo =>
          inBand (inBand (priority + accountInfo.priority) + more * accountInfo.priority)

/-- Recalculating a priority is one application of the shift of its account. -/
theorem recalcBundlePriority_eq (accounts : MultiAccountManager) (accountId priority : Int) :
    accounts.recalcBundlePriority accountId priority = accounts.accountShift accountId 1 priority := by
  rw [recalcBundlePriority, accountShift]
  cases accounts.getAccountPriorityInfo accountId with
  | none => rfl
  | some accountInfo =>
      simp only [inBand, reclaimPriorityMax, reclaimPriorityForeground]
      split_ifs <;> omega

/-- A move in one direction may be made in one go. -/
theorem inBand_add {start move rest : Int} (hStart : 0 ≤ start ∧ start ≤ 1000)
    (hSame : 0 ≤ move ∧ 0 ≤ rest ∨ move ≤ 0 ∧ rest ≤ 0) :
    inBand (inBand (start + move) + rest) = inBand (start + (move + rest)) := by
  simp only [inBand]
  omega

/-- The shift applied once more. -/
theorem accountShift_succ (accounts : MultiAccountManager) (accountId : Int) (times : Nat)
    (priority : Int) :
    accounts.accountShift accountId (times + 1) priority =
      accounts.accountShift accountId times (accounts.recalcBundlePriority accountId priority) := by
  rw [recalcBundlePriority_eq]
  cases times with
  | zero => rfl
  | succ more =>
      simp only [accountShift]
      cases accounts.getAccountPriorityInfo accountId with
      | none => rfl
      | some accountInfo =>
          simp only [Nat.cast_zero, zero_mul, add_zero, Nat.cast_succ]
          have hStart : 0 ≤ inBand (priority + accountInfo.priority) ∧
              inBand (priority + accountInfo.priority) ≤ 1000 := by
            simp only [inBand]
            omega
          have hTwice : inBand (inBand (priority + accountInfo.priority)) =
              inBand (priority + accountInfo.priority) := by
            simp only [inBand]
            omega
          have hSame : 0 ≤ accountInfo.priority ∧ 0 ≤ (more : Int) * accountInfo.priority ∨
              accountInfo.priority ≤ 0 ∧ (more : Int) * accountInfo.priority ≤ 0 := by
            rcases le_total 0 accountInfo.priority with h | h
            · exact Or.inl ⟨h, mul_nonneg (Int.natCast_nonneg more) h⟩
            · exact Or.inr ⟨h, mul_nonpos_of_nonneg_of_nonpos (Int.natCast_nonneg more) h⟩
          rw [hTwice, inBand_add hStart hSame, add_mul, one_mul, add_comm (_ * _)]

/-- Bundles are stored under their own uid and account. -/
def StoredByUid (s : ReclaimPriorityManager) : Prop :=
  ∀ {uid accountId bundle}, s.findBundle uid accountId = some bundle →
    (s.bundles bundle).uid = uid ∧ accountId = getOsAccountIdByUid uid

/-- Shifting distinct bundles one after the other shifts each of them once. -/
theorem foldl_shiftBundle_bundles (accountId : Int) (entries : List (Int × BundleRef))
    (hNodup : (entries.map Prod.snd).Nodup) (s : ReclaimPriorityManager) (bundle : BundleRef) :
    (entries.foldl (fun s entry => accounts.shiftBundle accountId s entry.2) s).bundles bundle =
      if bundle ∈ entries.map Prod.snd then accounts.shifted accountId (s.bundles bundle)
      else s.bundles bundle := by
  induction entries generalizing s with
  | nil => simp
  | cons entry entries ih =>
      obtain ⟨hNew, hRest⟩ := List.nodup_cons.mp hNodup
      rw [List.foldl_cons, ih hRest, shiftBundle_bundles]
      by_cases hIs : bundle = entry.2
      · rw [hIs, if_neg hNew, if_pos (by simp), Function.update_self]
      · simp only [Function.update_of_ne hIs, List.map_cons, List.mem_cons, hIs, false_or]

/-- A shift rewrites exactly the bundles stored in the account. -/
theorem shiftAccount_bundles (hStored : StoredByUid s) (accountId : Int) (bundle : BundleRef) :
    (accounts.shiftAccount s accountId).bundles bundle =
      if s.findBundle (s.bundles bundle).uid accountId = some bundle then
        accounts.shifted accountId (s.bundles bundle)
      else s.bundles bundle := by
  rw [shiftAccount]
  cases hAccount : s.findOsAccountById accountId with
  | none => simp [findBundle, hAccount]
  | some account =>
      have hEntry : ∀ {entry : Int × BundleRef}, entry ∈ account.bundleIdInfoMapping.toList ↔
          s.findBundle entry.1 accountId = some entry.2 := by
        intro entry
        rw [findBundle, hAccount]
        exact ExtTreeMap.mem_toList_iff_getElem?_eq_some
      have hUids : (account.bundleIdInfoMapping.toList.map Prod.snd).map (fun bundle =>
          (s.bundles bundle).uid) = account.bundleIdInfoMapping.keys := by
        rw [List.map_map, ← ExtTreeMap.map_fst_toList_eq_keys]
        exact List.map_congr_left fun entry hMem => (hStored (hEntry.mp hMem)).1
      have hNodup : (account.bundleIdInfoMapping.toList.map Prod.snd).Nodup :=
        List.Nodup.of_map _ (hUids ▸ ExtTreeMap.nodup_keys)
      have hMem : bundle ∈ account.bundleIdInfoMapping.toList.map Prod.snd ↔
          s.findBundle (s.bundles bundle).uid accountId = some bundle := by
        rw [List.mem_map]
        constructor
        · rintro ⟨entry, hIn, rfl⟩
          have hFind := hEntry.mp hIn
          rw [(hStored hFind).1]
          exact hFind
        · intro hFind
          exact ⟨((s.bundles bundle).uid, bundle), hEntry.mpr hFind, rfl⟩
      simp only
      rw [foldl_shiftBundle_bundles accountId _ hNodup]
      simp only [hMem]

/-- A shift leaves the maps of the accounts as they are. -/
theorem shiftAccount_osAccountsInfoMap (accountId : Int) :
    (accounts.shiftAccount s accountId).osAccountsInfoMap = s.osAccountsInfoMap :=
  shiftAccount_invariant (fun s' => s'.osAccountsInfoMap = s.osAccountsInfoMap)
    (fun _ _ _ _ h => (shiftBundle_osAccountsInfoMap _ _).trans h) rfl

/-- A hot switch leaves the maps of the accounts as they are. -/
theorem handleAccountHotSwitch_osAccountsInfoMap (updatedAccountIds : List Int) :
    (accounts.handleAccountHotSwitch updatedAccountIds s).osAccountsInfoMap = s.osAccountsInfoMap :=
  handleAccountHotSwitch_invariant (fun s' => s'.osAccountsInfoMap = s.osAccountsInfoMap)
    (fun _ _ _ _ _ _ h => (shiftBundle_osAccountsInfoMap _ _).trans h) rfl

/-- A hot switch does not touch the list of the sorted set. -/
theorem handleAccountHotSwitch_prioList (updatedAccountIds : List Int) :
    (accounts.handleAccountHotSwitch updatedAccountIds s).prioList = s.prioList :=
  handleAccountHotSwitch_invariant (fun s' => s'.prioList = s.prioList)
    (fun _ _ _ _ _ _ h => (shiftBundle_prioList _ _).trans h) rfl

/-- The objects after a hot switch: a stored bundle is shifted once for each time
its account is listed. -/
theorem handleAccountHotSwitch_bundles (hStored : StoredByUid s) {uid accountId : Int}
    {bundle : BundleRef} (hFind : s.findBundle uid accountId = some bundle)
    (updatedAccountIds : List Int) :
    ((accounts.handleAccountHotSwitch updatedAccountIds s).bundles bundle).uid = uid ∧
      ((accounts.handleAccountHotSwitch updatedAccountIds s).bundles bundle).priority =
        accounts.accountShift accountId (updatedAccountIds.count accountId)
          (s.bundles bundle).priority := by
  induction updatedAccountIds generalizing s with
  | nil => exact ⟨(hStored hFind).1, rfl⟩
  | cons id updatedAccountIds ih =>
      have hFound : (accounts.shiftAccount s id).findBundle = s.findBundle :=
        findBundle_congr (shiftAccount_osAccountsInfoMap id)
      obtain ⟨hUid, hAccount⟩ := hStored hFind
      have hKept : StoredByUid (accounts.shiftAccount s id) := by
        intro uid accountId other hOther
        rw [hFound] at hOther
        rw [shiftAccount_bundles hStored]
        split_ifs <;> exact hStored hOther
      have hRest := ih hKept ((congrFun (congrFun hFound uid) accountId).trans hFind)
      refine ⟨hRest.1, hRest.2.trans ?_⟩
      rw [shiftAccount_bundles hStored, hUid]
      by_cases hId : id = accountId
      · rw [hId, if_pos hFind, List.count_cons_self, accountShift_succ]
        rfl
      · rw [if_neg, List.count_cons_of_ne hId]
        intro hOther
        exact hId ((hStored hOther).2.trans hAccount.symm)

end MultiAccountManager

open MultiAccountManager

/-- The shifted priorities, with ties broken by uid, still ascend along the set.
A bundle is shifted once for each time its account is listed. -/
def ShiftKeepsOrder (accounts : MultiAccountManager) (updatedAccountIds : List Int)
    (s : ReclaimPriorityManager) : Prop :=
  let shiftedPriority (bundle : BundleRef) : Int :=
    accounts.accountShift (getOsAccountIdByUid (s.bundles bundle).uid)
      (updatedAccountIds.count (getOsAccountIdByUid (s.bundles bundle).uid)) (s.bundles bundle).priority
  s.prioList.Pairwise fun bundle other =>
    shiftedPriority bundle < shiftedPriority other ∨
      shiftedPriority bundle = shiftedPriority other ∧
        (s.bundles bundle).uid < (s.bundles other).uid

instance (accounts : MultiAccountManager) (updatedAccountIds : List Int)
    (s : ReclaimPriorityManager) : Decidable (ShiftKeepsOrder accounts updatedAccountIds s) :=
  inferInstanceAs (Decidable (List.Pairwise _ _))

/-- The set lists the bundles strictly ascending in priority and uid. -/
def SetAscending (s : ReclaimPriorityManager) : Prop :=
  s.prioList.Pairwise fun bundle other =>
    (s.bundles bundle).priority < (s.bundles other).priority ∨
      (s.bundles bundle).priority = (s.bundles other).priority ∧
        (s.bundles bundle).uid < (s.bundles other).uid

instance (s : ReclaimPriorityManager) : Decidable (SetAscending s) :=
  inferInstanceAs (Decidable (List.Pairwise _ _))

/-- The sorted set stays in order exactly when the shifted priorities keep its order. -/
theorem hotSwitch_ascending_iff {s : ReclaimPriorityManager} (h : SetAgrees s)
    (accounts : MultiAccountManager) (updatedAccountIds : List Int) :
    SetAscending (accounts.handleAccountHotSwitch updatedAccountIds s) ↔
      ShiftKeepsOrder accounts updatedAccountIds s := by
  have hShift : ∀ bundle ∈ s.prioList,
      ((accounts.handleAccountHotSwitch updatedAccountIds s).bundles bundle).uid =
          (s.bundles bundle).uid ∧
        ((accounts.handleAccountHotSwitch updatedAccountIds s).bundles bundle).priority =
          accounts.accountShift (getOsAccountIdByUid (s.bundles bundle).uid)
            (updatedAccountIds.count (getOsAccountIdByUid (s.bundles bundle).uid))
            (s.bundles bundle).priority := by
    intro bundle hMem
    obtain ⟨accountId, uid, hFind⟩ := (h.exact bundle).mp hMem
    obtain ⟨hUid, rfl⟩ := h.stored uid accountId bundle hFind
    rw [hUid]
    exact handleAccountHotSwitch_bundles (fun hFound => h.stored _ _ _ hFound) hFind
      updatedAccountIds
  rw [SetAscending, handleAccountHotSwitch_prioList, ShiftKeepsOrder]
  refine List.Pairwise.iff_of_mem fun {bundle other} hBundle hOther => ?_
  rw [(hShift bundle hBundle).1, (hShift bundle hBundle).2, (hShift other hOther).1,
    (hShift other hOther).2]

/-- An ascending set is still the set of the same accounts after a hot switch. -/
theorem setOrdered_hotSwitch {s : ReclaimPriorityManager} (h : SetAgrees s)
    {accounts : MultiAccountManager} {updatedAccountIds : List Int}
    (hAscending : SetAscending (accounts.handleAccountHotSwitch updatedAccountIds s)) :
    SetOrdered (accounts.handleAccountHotSwitch updatedAccountIds s) := by
  have hTracked : ∀ {bundle}, (accounts.handleAccountHotSwitch updatedAccountIds s).Tracked bundle ↔
      s.Tracked bundle := tracked_congr (handleAccountHotSwitch_osAccountsInfoMap updatedAccountIds)
  refine ⟨?_, fun bundle => ?_, ?_⟩
  · rw [SetAscending] at hAscending
    exact hAscending.imp fun hLess => Prod.Lex.toLex_lt_toLex.mpr hLess
  · rw [handleAccountHotSwitch_prioList, hTracked]
    exact h.exact bundle
  · intro bundle other hBundle hOther hUid
    obtain ⟨accountId, uid, hFind⟩ := hTracked.mp hBundle
    obtain ⟨accountId', uid', hFind'⟩ := hTracked.mp hOther
    have hStored : StoredByUid s := fun hFound => h.stored _ _ _ hFound
    rw [(handleAccountHotSwitch_bundles hStored hFind updatedAccountIds).1,
      (handleAccountHotSwitch_bundles hStored hFind' updatedAccountIds).1] at hUid
    obtain rfl := (hStored hFind).2
    obtain rfl := (hStored hFind').2
    rw [hUid] at hFind
    exact Option.some.inj (hFind.symm.trans hFind')

open Service Scenario

/-- A hot switch of an agreeing manager leaves the set ascending exactly when the
shifted priorities are in order, and then later operations find every bundle. -/
theorem hotSwitch_keeps_set_iff {platform : Platform} {sys : Service} (h : SetAgrees sys.manager)
    (accounts : MultiAccountManager) (updatedAccountIds : List Int) :
    (SetAscending (accounts.handleAccountHotSwitch updatedAccountIds sys.manager) ↔
      ShiftKeepsOrder accounts updatedAccountIds sys.manager) ∧
    (Run platform anyOp sys → ShiftKeepsOrder accounts updatedAccountIds sys.manager →
      ∀ later, Execution.Run (Step platform) noAccountSwitch
        ⟨accounts.handleAccountHotSwitch updatedAccountIds sys.manager, accounts⟩ later →
        SetAgrees later.manager) := by
  have hIff := hotSwitch_ascending_iff h accounts updatedAccountIds
  refine ⟨hIff, fun run hKeeps later hLater => ?_⟩
  have hBoth := setOrdered_of_run hLater (run.wellFormed.hotSwitch updatedAccountIds)
    (setOrdered_hotSwitch h (hIff.mpr hKeeps))
  exact setAgrees_of_ordered hBoth.1 hBoth.2

/-- Two background bundles, one in account 100 and one in account 101. -/
def twoAccounts : List Op :=
  [event .createProcess 1 20000001, event .createProcess 2 20200001,
    event .background 1 20000001, event .background 2 20200001]

/-- Account 101 becomes active in place of account 100. -/
def switchTo101 : List Op :=
  [.initAccounts ⟨some [100], fun _ _ => some true, true⟩,
    .osAccountsChanged 101 .hotSwitch ⟨some [101], fun _ id => some (id = 101), true⟩]

/-- What the account manager holds after a switch between two accounts. -/
def switchedAccounts (active inactive : Int) : MultiAccountManager where
  initialized := true
  accountMap := ((∅ : ExtTreeMap Int AccountPriorityInfo).insert inactive ⟨inactive, 50, false⟩).insert
    active ⟨active, -50, true⟩
  oldActiveAccountIds := [active]

/-- A switch to account 100 moves its bundle further ahead of the other one, and
the end of the second process is handled as before. -/
theorem hotSwitch_keeps_set_twoAccounts :
    SetAscending ((switchedAccounts 100 101).handleAccountHotSwitch [101, 100]
        ((reached twoAccounts).get (by decide)).manager) ∧
      ∀ later, Service.exec platform 40 ⟨(switchedAccounts 100 101).handleAccountHotSwitch [101, 100]
          ((reached twoAccounts).get (by decide)).manager, switchedAccounts 100 101⟩
          (event .processTerminated 2 20200001) = .ok later → SetAgrees later.manager := by
  have run : ∀ {allowed}, (∀ sys, ∀ op ∈ twoAccounts, allowed sys op) →
      Run platform allowed ((reached twoAccounts).get (by decide)) :=
    fun hAllowed => run_reached hAllowed (by decide)
  have hBoth := setOrdered_of_run (run (by simp [twoAccounts, noAccountSwitch, event]))
    (.start platform) (.start platform)
  have hKeeps : ShiftKeepsOrder (switchedAccounts 100 101) [101, 100]
      ((reached twoAccounts).get (by decide)).manager := by decide
  have hSwitch := @hotSwitch_keeps_set_iff platform _ (setAgrees_of_ordered hBoth.1 hBoth.2)
    (switchedAccounts 100 101) [101, 100]
  refine ⟨hSwitch.1.mpr hKeeps, fun later hExec => ?_⟩
  have hAllowed : ∀ sys, noAccountSwitch sys (event .processTerminated 2 20200001) := fun _ => trivial
  exact hSwitch.2 (run fun _ _ _ => trivial) hKeeps later (.succ .zero (hAllowed _) ⟨40, hExec⟩)

/-- A switch to account 101 puts the set out of order, and the end of the second
process does not find its bundle in the set. -/
theorem hotSwitch_unsorts_set :
    ¬ SetAscending ((switchedAccounts 101 100).handleAccountHotSwitch [100, 101]
        ((reached twoAccounts).get (by decide)).manager) ∧
      ((reached (twoAccounts ++ switchTo101 ++ [event .processTerminated 2 20200001])).map fun sys =>
        (sys.manager.prioList, sys.manager.findBundle 20200001 101)) = some ([0, 1], none) := by
  decide

end MemMgr
