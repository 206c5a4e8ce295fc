import MemMgr.HotSwitch

/-! What hot switches leave of the priorities. A stored bundle is shifted once for each
time its account is listed, and its processes move by as much as it does. -/
namespace MemMgr

open Std (ExtTreeMap)
open ReclaimPriorityManager BundlePriorityInfo MultiAccountManager

namespace MultiAccountManager

variable {accounts : MultiAccountManager} {s : ReclaimPriorityManager}

/-- How often a hot switch shifts an object. -/
def timesShifted (s : ReclaimPriorityManager) (updatedAccountIds : List Int) (bundle : BundleRef) : Nat :=
  if s.findBundle (s.bundles bundle).uid (getOsAccountIdByUid (s.bundles bundle).uid) = some bundle then
    updatedAccountIds.count (getOsAccountIdByUid (s.bundles bundle).uid)
  else 0

theorem timesShifted_of_findBundle (hStored : StoredByUid s) {uid accountId : Int} {bundle : BundleRef}
    (hFind : s.findBundle uid accountId = some bundle) (updatedAccountIds : List Int) :
    timesShifted s updatedAccountIds bundle = updatedAccountIds.count accountId := by
  obtain ⟨rfl, rfl⟩ := hStored hFind
  rw [timesShifted, if_pos hFind]

/-- The objects after a hot switch, stored or not. -/
theorem handleAccountHotSwitch_object (hStored : StoredByUid s) (updatedAccountIds : List Int)
    (bundle : BundleRef) :
    (accounts.handleAccountHotSwitch updatedAccountIds s).bundles bundle =
      (accounts.shifted (getOsAccountIdByUid (s.bundles bundle).uid))^[
        timesShifted s updatedAccountIds bundle] (s.bundles bundle) := by
  induction updatedAccountIds generalizing s with
  | nil =>
      rw [timesShifted, List.count_nil, ite_self]
      rfl
  | cons id updatedAccountIds ih =>
      have hFound : (accounts.shiftAccount s id).findBundle = s.findBundle :=
        findBundle_congr (shiftAccount_osAccountsInfoMap id)
      have hObject := @shiftAccount_bundles accounts s hStored id
      have hUid : ∀ other, ((accounts.shiftAccount s id).bundles other).uid = (s.bundles other).uid := by
        intro other
        rw [hObject]
        split_ifs <;> rfl
      have hKept : StoredByUid (accounts.shiftAccount s id) := by
        intro uid accountId other hOther
        rw [hFound] at hOther
        rw [hUid]
        exact hStored hOther
      have hTimes : timesShifted (accounts.shiftAccount s id) updatedAccountIds bundle =
          timesShifted s updatedAccountIds bundle := by
        rw [timesShifted, hFound, hUid]
        rfl
      change (accounts.handleAccountHotSwitch updatedAccountIds (accounts.shiftAccount s id)).bundles
        bundle = _
      rw [ih hKept, hTimes, hUid, hObject]
      by_cases hFind : s.findBundle (s.bundles bundle).uid
          (getOsAccountIdByUid (s.bundles bundle).uid) = some bundle
      · simp only [timesShifted, if_pos hFind]
        by_cases hId : id = getOsAccountIdByUid (s.bundles bundle).uid
        · rw [hId, if_pos hFind, List.count_cons_self, Function.iterate_succ_apply]
        · rw [if_neg fun hOther => hId (hStored hOther).2, List.count_cons_of_ne hId]
      · simp only [timesShifted, if_neg hFind]
        rw [if_neg]
        intro hOther
        exact hFind ((hStored hOther).2 ▸ hOther)

theorem shifted_iterate_priority (accountId : Int) (times : Nat) (info : BundlePriorityInfo) :
    ((accounts.shifted accountId)^[times] info).priority =
      accounts.accountShift accountId times info.priority := by
  induction times generalizing info with
  | zero => rfl
  | succ times ih =>
      rw [Function.iterate_succ_apply, ih, accountShift_succ]
      rfl

/-- Processes move with their bundle. -/
theorem shifted_iterate_procs (accountId : Int) (times : Nat) (info : BundlePriorityInfo) (pid : Int) :
    ((accounts.shifted accountId)^[times] info).procs[pid]? = info.procs[pid]?.map fun proc =>
      proc.setPriority (proc.priority +
        (accounts.accountShift accountId times info.priority - info.priority)) := by
  induction times generalizing info with
  | zero =>
      cases hProc : info.procs[pid]? with
      | none => exact hProc
      | some proc =>
          simp only [accountShift, sub_self, add_zero, Option.map_some]
          exact hProc
  | succ times ih =>
      have hPriority : (accounts.shifted accountId info).priority =
          accounts.recalcBundlePriority accountId info.priority := rfl
      rw [Function.iterate_succ_apply, ih, accountShift_succ, hPriority, shifted,
        increaseProcsPriority_procs, Option.map_map]
      apply congrArg₂ _ _ rfl
      funext proc
      simp only [Function.comp_apply, ProcessPriorityInfo.setPriority]
      congr 1
      omega

/-- Once shifted, a priority is in the range. -/
theorem accountShift_bounds (accountId : Int) {times : Nat} (hShifted : times ≠ 0) (priority : Int) :
    0 ≤ accounts.accountShift accountId times priority ∧
      accounts.accountShift accountId times priority ≤ 1000 := by
  obtain ⟨more, rfl⟩ := Nat.exists_eq_succ_of_ne_zero hShifted
  rw [accountShift]
  cases accounts.getAccountPriorityInfo accountId with
  | none => exact ⟨(by decide : (0 : Int) ≤ 1000), le_refl (1000 : Int)⟩
  | some accountInfo =>
      simp only [inBand]
      omega

end MultiAccountManager

/-- Whatever was protected by a negative priority still is. -/
def KeepsNegative (s s' : ReclaimPriorityManager) : Prop :=
  ∀ bundle, ((s.bundles bundle).priority < 0 → (s'.bundles bundle).priority < 0) ∧
    ∀ (pid : Int) (proc proc' : ProcessPriorityInfo), (s.bundles bundle).procs[pid]? = some proc →
      (s'.bundles bundle).procs[pid]? = some proc' → proc.priority < 0 → proc'.priority < 0

namespace Service

variable {platform : Platform} {sys : Service}

theorem Run.storedByUid {allowed : Service → Op → Prop} (run : Run platform allowed sys) :
    StoredByUid sys.manager := fun hFind => run.wellFormed.stored hFind

/-- A hot switch keeps the protection of system processes exactly when no bundle of an
updated account has it. -/
theorem Run.keepsNegative_iff (run : Run platform anyOp sys) (accounts : MultiAccountManager)
    (updatedAccountIds : List Int) :
    KeepsNegative sys.manager (accounts.handleAccountHotSwitch updatedAccountIds sys.manager) ↔
      ∀ uid accountId bundle, sys.manager.findBundle uid accountId = some bundle →
        accountId ∈ updatedAccountIds → 0 ≤ (sys.manager.bundles bundle).priority := by
  have hObject := @handleAccountHotSwitch_object accounts _ run.storedByUid updatedAccountIds
  constructor
  · intro hKeeps uid accountId bundle hFind hListed
    by_contra hNegative
    have hStill := (hKeeps bundle).1 (not_le.mp hNegative)
    rw [hObject, shifted_iterate_priority, timesShifted_of_findBundle run.storedByUid hFind] at hStill
    have hBounds := @accountShift_bounds accounts
      (getOsAccountIdByUid (sys.manager.bundles bundle).uid) _
      (List.count_pos_iff.mpr hListed).ne' (sys.manager.bundles bundle).priority
    omega
  · intro hNone bundle
    rw [hObject, shifted_iterate_priority]
    by_cases hTimes : timesShifted sys.manager updatedAccountIds bundle = 0
    · rw [hTimes]
      refine ⟨id, ?_⟩
      intro pid proc proc' hProc hProc' hNegative
      obtain rfl := Option.some.inj (hProc.symm.trans hProc')
      exact hNegative
    · -- A shifted bundle is stored under a listed account, so nothing in it is negative.
      rw [timesShifted] at hTimes
      split_ifs at hTimes with hFind
      · have hNonneg := hNone _ _ bundle hFind (List.count_pos_iff.mp (Nat.pos_of_ne_zero hTimes))
        refine ⟨fun hNegative => absurd hNegative (not_lt.mpr hNonneg), ?_⟩
        intro pid proc proc' hProc _ hNegative
        have hBelow := (run.wellFormed.covered bundle).below pid proc hProc
        omega
      · exact absurd rfl hTimes

open Scenario

/-- An app that the bundle manager keeps alive, in account 100. -/
def keptApp : List Op := [.updateReclaimPriorityInner
  ⟨⟨0, 0, "", ""⟩, ⟨1, 20000001, "", "20000001"⟩, .createProcess⟩ 0 ⟨some fun _ _ => some true, 0, true, true⟩]

/-- A switch that does not list the account leaves the app alone. -/
theorem keepsNegative_keptApp : KeepsNegative ((reached keptApp).get (by decide)).manager
    ((switchedAccounts 101 102).handleAccountHotSwitch [102, 101]
      ((reached keptApp).get (by decide)).manager) := by
  apply (Run.keepsNegative_iff (run_reached (fun _ _ _ => trivial) (by decide)) _ _).mpr
  intro uid accountId bundle hFind hListed
  have hTracked := mem_trackedBundles.mpr ⟨accountId, uid, hFind⟩
  have hOnly : ((reached keptApp).get (by decide)).manager.trackedBundles = [0] := by decide
  rw [hOnly, List.mem_singleton] at hTracked
  subst hTracked
  have hUid : (((reached keptApp).get (by decide)).manager.bundles 0).uid = 20000001 := by decide
  have run : Run Scenario.platform anyOp ((reached keptApp).get (by decide)) :=
    run_reached (fun _ _ _ => trivial) (by decide)
  obtain ⟨hStored, rfl⟩ := run.storedByUid hFind
  rw [← hStored, hUid] at hListed
  exact absurd hListed (by decide)

/-- A switch that lists it makes the app killable. -/
theorem keptApp_loses_protection : Run Scenario.platform anyOp ((reached keptApp).get (by decide)) ∧
    ¬ KeepsNegative ((reached keptApp).get (by decide)).manager
      ((switchedAccounts 101 100).handleAccountHotSwitch [100, 101]
        ((reached keptApp).get (by decide)).manager) := by
  refine ⟨run_reached (fun _ _ _ => trivial) (by decide), fun hKeeps => ?_⟩
  exact absurd ((hKeeps 0).1 (by decide)) (by decide)

end Service
end MemMgr
