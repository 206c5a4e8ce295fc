import MemMgr.SwitchedPriorities
import MemMgr.Runs

/-! Account notifications, one after the other. What a call hands to a switch is the
difference of two answers of the account service, and the first of them is only
remembered until the second arrives. -/
namespace MemMgr

open Std (ExtTreeMap)
open ReclaimPriorityManager MultiAccountManager

/-- A notice that an account was switched to, with the answers it meets. -/
structure Notification where
  accountId : Int
  switchMod : OsAccountSwitchMod
  answers : AccountServices

namespace MultiAccountManager

variable {accounts : MultiAccountManager} {answers : AccountServices} {s : ReclaimPriorityManager}

/-- Whether an account was active when it was last asked about. -/
def activity (accounts : MultiAccountManager) (accountId : Int) : Option Bool :=
  (accounts.getAccountPriorityInfo accountId).map (·.isActived)

/-- Every account has the priority of its activity. -/
def WellPriced (accounts : MultiAccountManager) : Prop :=
  ∀ accountId accountInfo, accounts.getAccountPriorityInfo accountId = some accountInfo →
    accountInfo.priority = if accountInfo.isActived then -50 else 50

/-- The accounts a call hands to the switch it performs, if it performs one. -/
def handed (accounts : MultiAccountManager) (notification : Notification) : Option (List Int) :=
  if !accounts.initialized then none
  else
    match accounts.getSwitchedAccountIds notification.answers with
    | (_, none) => none
    | (accounts, some switchedAccountIds) =>
        match updateAccountPriorityInfo notification.answers 0
            (switchedAccountIds ++ [notification.accountId]) accounts with
        | (_, false) => none
        | (_, true) =>
            match notification.switchMod with
            | .coldSwitch => some switchedAccountIds
            | .hotSwitch => some (switchedAccountIds ++ [notification.accountId])
            | .other => none

/-- A priority that is set leaves the accounts that were active before, and the start of the
manager, alone. -/
theorem setAccountPriority_kept (accountId : Int) (isActived : Bool) :
    (accounts.setAccountPriority answers accountId isActived).1.oldActiveAccountIds =
        accounts.oldActiveAccountIds ∧
      (accounts.setAccountPriority answers accountId isActived).1.initialized = accounts.initialized := by
  rw [setAccountPriority]
  cases accounts.getAccountPriorityInfo accountId with
  | some accountInfo => exact ⟨rfl, rfl⟩
  | none =>
      dsimp only
      split_ifs <;> exact ⟨rfl, rfl⟩

/-- An account that is set is priced by its activity, so all accounts still are. -/
theorem WellPriced.setAccountPriority (h : accounts.WellPriced) (accountId : Int) (isActived : Bool) :
    (accounts.setAccountPriority answers accountId isActived).1.WellPriced := by
  have hStored : ∀ accountInfo : AccountPriorityInfo, WellPriced { accounts with
      accountMap := accounts.accountMap.insert accountId accountInfo.setAccountPriority } := by
    intro accountInfo other found hFound
    rw [getAccountPriorityInfo, ExtTreeMap.getElem?_insert] at hFound
    split_ifs at hFound
    · obtain rfl := Option.some.inj hFound
      rfl
    · exact h other found hFound
  rw [MultiAccountManager.setAccountPriority]
  cases accounts.getAccountPriorityInfo accountId with
  | some accountInfo => exact hStored _
  | none =>
      dsimp only
      split_ifs
      · exact hStored _
      · exact h

/-- What storing one priority keeps, storing some of them keeps. -/
theorem updateAccountPriorityInfo_invariant (inv : MultiAccountManager → Prop)
    (hSet : ∀ accounts accountId isActived, inv accounts →
      inv (accounts.setAccountPriority answers accountId isActived).1)
    (accountIds : List Int) (query : Nat) (h : inv accounts) :
    inv (updateAccountPriorityInfo answers query accountIds accounts).1 := by
  induction accountIds generalizing query accounts with
  | nil => exact h
  | cons accountId accountIds ih =>
      rw [updateAccountPriorityInfo]
      cases answers.queryOsAccountById query accountId with
      | none => exact h
      | some isActived =>
          have hNext := hSet accounts accountId isActived h
          dsimp only
          rcases hStored : accounts.setAccountPriority answers accountId isActived with ⟨next, set⟩
          rw [hStored] at hNext
          cases set with
          | false => exact hNext
          | true => exact ih (query + 1) hNext

/-- The update of all priorities does not touch which accounts were active before. -/
theorem updateAccountPriorityInfo_kept (accountIds : List Int) (query : Nat) :
    (updateAccountPriorityInfo answers query accountIds accounts).1.oldActiveAccountIds =
        accounts.oldActiveAccountIds ∧
      (updateAccountPriorityInfo answers query accountIds accounts).1.initialized =
        accounts.initialized := by
  apply updateAccountPriorityInfo_invariant (fun after =>
    after.oldActiveAccountIds = accounts.oldActiveAccountIds ∧ after.initialized = accounts.initialized)
  · intro next accountId isActived h
    obtain ⟨hOld, hInitialized⟩ := @setAccountPriority_kept next answers accountId isActived
    exact ⟨hOld.trans h.1, hInitialized.trans h.2⟩
  · exact ⟨rfl, rfl⟩

/-- A call as a whole. It performs a switch or returns false, and it only remembers the
active accounts it was answered. -/
theorem handleOsAccountsChanged_spec (accounts : MultiAccountManager) (notification : Notification)
    (s : ReclaimPriorityManager) :
    let call := accounts.handleOsAccountsChanged notification.answers notification.accountId
      notification.switchMod s
    call.ret = (accounts.handed notification).isSome ∧
      call.accounts.initialized = accounts.initialized ∧
      call.accounts.oldActiveAccountIds =
        (if accounts.initialized then
          notification.answers.queryActiveOsAccountIds.getD accounts.oldActiveAccountIds
        else accounts.oldActiveAccountIds) ∧
      (∀ inv : MultiAccountManager → Prop,
        (∀ accounts accountId isActived, inv accounts →
          inv (accounts.setAccountPriority notification.answers accountId isActived).1) →
        (∀ accounts activeIds, inv accounts → inv { accounts with oldActiveAccountIds := activeIds }) →
        inv accounts → inv call.accounts) ∧
      (notification.switchMod = .hotSwitch → call.manager =
        call.accounts.handleAccountHotSwitch ((accounts.handed notification).getD []) s) ∧
      (notification.switchMod = .coldSwitch → call.killed =
        handleAccountColdSwitch ((accounts.handed notification).getD []) s) := by
  obtain ⟨initialized, accountMap, oldActiveAccountIds⟩ := accounts
  dsimp only
  rw [handleOsAccountsChanged, handed]
  cases initialized with
  | false => exact ⟨rfl, rfl, rfl, fun _ _ _ => id, fun _ => rfl, fun _ => rfl⟩
  | true =>
      simp only [Bool.not_true, Bool.false_eq_true, ↓reduceIte, getSwitchedAccountIds]
      cases notification.answers.queryActiveOsAccountIds with
      | none => exact ⟨rfl, rfl, rfl, fun _ _ _ => id, fun _ => rfl, fun _ => rfl⟩
      | some newActiveAccountIds =>
          dsimp only
          have hKept := @updateAccountPriorityInfo_kept ⟨true, accountMap, newActiveAccountIds⟩
            notification.answers (oldActiveAccountIds.filter (fun oldId => oldId ∉ newActiveAccountIds) ++
              [notification.accountId]) 0
          have hInv := fun (inv : MultiAccountManager → Prop)
              (hSet : ∀ accounts accountId isActived, inv accounts →
                inv (accounts.setAccountPriority notification.answers accountId isActived).1)
              (hOld : ∀ accounts activeIds, inv accounts →
                inv { accounts with oldActiveAccountIds := activeIds })
              (h : inv ⟨true, accountMap, oldActiveAccountIds⟩) =>
            updateAccountPriorityInfo_invariant inv hSet
              (oldActiveAccountIds.filter (fun oldId => oldId ∉ newActiveAccountIds) ++
                [notification.accountId]) 0 (hOld _ newActiveAccountIds h)
          rcases hUpdate : updateAccountPriorityInfo notification.answers 0
            (oldActiveAccountIds.filter (fun oldId => oldId ∉ newActiveAccountIds) ++
              [notification.accountId])
            ⟨true, accountMap, newActiveAccountIds⟩ with ⟨used, updated⟩
          rw [hUpdate] at hKept hInv
          obtain ⟨hOld, hUsed⟩ := hKept
          cases updated with
          | false => exact ⟨rfl, hUsed, hOld, hInv, fun _ => rfl, fun _ => rfl⟩
          | true =>
              cases notification.switchMod with
              | coldSwitch => exact ⟨rfl, hUsed, hOld, hInv, by simp, fun _ => rfl⟩
              | hotSwitch => exact ⟨rfl, hUsed, hOld, hInv, fun _ => rfl, by simp⟩
              | other => exact ⟨rfl, hUsed, hOld, hInv, by simp, by simp⟩

/-- What is handed on are the accounts that are active no more, and for a hot switch
the account of the notice. -/
theorem mem_handed {notification : Notification} {accountIds : List Int} {accountId : Int}
    (hHanded : accounts.handed notification = some accountIds) :
    ∃ activeIds, notification.answers.queryActiveOsAccountIds = some activeIds ∧
      (accountId ∈ accountIds ↔
        (accountId ∈ accounts.oldActiveAccountIds ∧ accountId ∉ activeIds) ∨
          notification.switchMod = .hotSwitch ∧ notification.accountId = accountId) := by
  rw [handed] at hHanded
  split at hHanded
  · cases hHanded
  · rw [getSwitchedAccountIds] at hHanded
    cases hActive : notification.answers.queryActiveOsAccountIds with
    | none =>
        rw [hActive] at hHanded
        cases hHanded
    | some activeIds =>
        rw [hActive] at hHanded
        dsimp only at hHanded
        refine ⟨activeIds, rfl, ?_⟩
        split at hHanded
        · cases hHanded
        · cases hMod : notification.switchMod with
          | coldSwitch =>
              rw [hMod] at hHanded
              obtain rfl := Option.some.inj hHanded
              simp
          | hotSwitch =>
              rw [hMod] at hHanded
              obtain rfl := Option.some.inj hHanded
              rw [List.mem_append, List.mem_singleton]
              exact or_congr (by simp) ⟨fun h => ⟨rfl, h.symm⟩, fun h => h.2.symm⟩
          | other =>
              rw [hMod] at hHanded
              cases hHanded

end MultiAccountManager

namespace Service

variable {platform : Platform} {sys : Service}

/-- The call that processes a notice. -/
def notifyCall (sys : Service) (notification : Notification) : Switched :=
  sys.accounts.handleOsAccountsChanged notification.answers notification.accountId
    notification.switchMod sys.manager

def notified (sys : Service) (notification : Notification) : Service :=
  ⟨(sys.notifyCall notification).manager, (sys.notifyCall notification).accounts⟩

def notifyAll : List Notification → Service → Service
  | [], sys => sys
  | notification :: rest, sys => notifyAll rest (sys.notified notification)

/-- The calls all return false, and none is told that the account is active. -/
def AllFail (accountId : Int) : List Notification → Service → Prop
  | [], _ => True
  | notification :: rest, sys =>
      (sys.notifyCall notification).ret = false ∧
        (∀ activeIds, notification.answers.queryActiveOsAccountIds = some activeIds →
          accountId ∉ activeIds) ∧
        AllFail accountId rest (sys.notified notification)

/-- A notification stores the accounts that the query gave, if it gave any. -/
theorem notified_oldActiveAccountIds (notification : Notification) :
    (sys.notified notification).accounts.initialized = sys.accounts.initialized ∧
      (sys.notified notification).accounts.oldActiveAccountIds =
        if sys.accounts.initialized then
          notification.answers.queryActiveOsAccountIds.getD sys.accounts.oldActiveAccountIds
        else sys.accounts.oldActiveAccountIds :=
  ⟨(handleOsAccountsChanged_spec sys.accounts notification sys.manager).2.1,
    (handleOsAccountsChanged_spec sys.accounts notification sys.manager).2.2.1⟩

/-- An account that is not active again stays remembered as long as nobody could tell
which accounts are. -/
theorem mem_oldActiveAccountIds_of_allFail {accountId : Int} {notifications : List Notification}
    (hInitialized : sys.accounts.initialized = true) (hFail : AllFail accountId notifications sys) :
    accountId ∈ (notifyAll notifications sys).accounts.oldActiveAccountIds ↔
      accountId ∈ sys.accounts.oldActiveAccountIds ∧
        ∀ notification ∈ notifications, notification.answers.queryActiveOsAccountIds = none := by
  induction notifications generalizing sys with
  | nil => simp [notifyAll]
  | cons notification rest ih =>
      obtain ⟨-, hAway, hRest⟩ := hFail
      obtain ⟨hKept, hOld⟩ := @notified_oldActiveAccountIds sys notification
      rw [hInitialized] at hKept hOld
      rw [notifyAll, ih hKept hRest, hOld, if_pos rfl, List.forall_mem_cons]
      cases hActive : notification.answers.queryActiveOsAccountIds with
      | none => simp
      | some activeIds => simp [hAway activeIds hActive]

/-- Notifications neither start nor stop the manager of the accounts. -/
theorem initialized_notifyAll (notifications : List Notification) :
    (notifyAll notifications sys).accounts.initialized = sys.accounts.initialized := by
  induction notifications generalizing sys with
  | nil => rfl
  | cons notification rest ih =>
      rw [notifyAll, ih]
      exact (notified_oldActiveAccountIds notification).1

/-- A failing call keeps what it remembered exactly when it is not told anything new. An
account that is no longer active is handed to the first switch that is performed exactly
when no call before it was told the active accounts, or when a hot switch is about the
account itself. -/
theorem switchedOut_handled_iff (sys : Service) :
    (∀ failed, (sys.notifyCall failed).ret = false →
      ((sys.notified failed).accounts.oldActiveAccountIds = sys.accounts.oldActiveAccountIds ↔
        sys.accounts.initialized = false ∨
          failed.answers.queryActiveOsAccountIds.getD sys.accounts.oldActiveAccountIds =
            sys.accounts.oldActiveAccountIds)) ∧
    ∀ accountId notifications notification, accountId ∈ sys.accounts.oldActiveAccountIds →
      AllFail accountId notifications sys →
      ((notifyAll notifications sys).notifyCall notification).ret = true →
      (∀ activeIds, notification.answers.queryActiveOsAccountIds = some activeIds →
        accountId ∉ activeIds) →
      (accountId ∈ ((notifyAll notifications sys).accounts.handed notification).getD [] ↔
        (∀ failed ∈ notifications, failed.answers.queryActiveOsAccountIds = none) ∨
          notification.switchMod = .hotSwitch ∧ notification.accountId = accountId) := by
  constructor
  · intro failed _
    rw [(notified_oldActiveAccountIds failed).2]
    cases sys.accounts.initialized <;> simp
  · intro accountId notifications notification hActive hFail hReturns hAway
    have hHanded : ((notifyAll notifications sys).accounts.handed notification).isSome = true := by
      rw [← (handleOsAccountsChanged_spec (notifyAll notifications sys).accounts notification
        (notifyAll notifications sys).manager).1]
      exact hReturns
    obtain ⟨accountIds, hHanded⟩ := Option.isSome_iff_exists.mp hHanded
    obtain ⟨activeIds, hQuery, hMem⟩ := @mem_handed _ _ _ accountId hHanded
    have hInitialized : sys.accounts.initialized = true := by
      rw [← initialized_notifyAll notifications]
      by_contra hNot
      rw [handed, Bool.not_eq_true _ |>.mp hNot] at hHanded
      cases hHanded
    rw [hHanded, Option.getD_some, hMem, mem_oldActiveAccountIds_of_allFail hInitialized hFail,
      and_iff_left (hAway activeIds hQuery), and_iff_right hActive]

open Scenario

/-- Account 100 is remembered as active. -/
def active100 : Service := ⟨.init Scenario.platform, switchedAccounts 100 101⟩

/-- Account 101 is switched to, and the account service answers the queries or fails. -/
def switchNotice (active : Option (List Int)) (isActived : Int → Option Bool) : Notification :=
  ⟨101, .hotSwitch, ⟨active, fun _ => isActived, true⟩⟩

/-- A call that was not told the active accounts does not lose account 100. -/
theorem handled_after_failed_query :
    100 ∈ ((notifyAll [switchNotice none fun _ => none] active100).accounts.handed
      (switchNotice (some [101]) fun id => some (id = 101))).getD [] := by
  have hActive : (100 : Int) ∈ active100.accounts.oldActiveAccountIds := by decide
  have hAway : ∀ activeIds, some [101] = some activeIds → (100 : Int) ∉ activeIds := by
    intro activeIds hIs
    obtain rfl := Option.some.inj hIs
    decide
  refine ((switchedOut_handled_iff active100).2 100 [switchNotice none fun _ => none]
    (switchNotice (some [101]) fun id => some (id = 101)) hActive ⟨rfl, ?_, trivial⟩ (by decide)
    hAway).mpr (Or.inl ?_)
  · intro activeIds hIs
    cases hIs
  · simp [switchNotice]

/-- Account 100 was deleted, and asking about it fails. The next call returns true, and
nobody has handled account 100. -/
theorem switchedOut_lost :
    let deleted := switchNotice (some [101]) fun id => if id = 101 then some true else none
    (active100.notifyCall deleted).ret = false ∧
      (active100.notified deleted).accounts.oldActiveAccountIds ≠
        active100.accounts.oldActiveAccountIds ∧
      ((active100.notified deleted).notifyCall deleted).ret = true ∧
      100 ∉ ((active100.notified deleted).accounts.handed deleted).getD [] := by
  decide

/-! The priorities after some hot switches. -/

/-- The distance of an account's bundles from where they are while it is active. -/
def awayBy (active : Bool) : Int := if active then 0 else 50

/-- How often a call shifts the bundles of an account. -/
def timesListed (sys : Service) (notification : Notification) (accountId : Int) : Nat :=
  ((sys.accounts.handed notification).getD []).count accountId

/-- A call lists an account when its activity changes and only then, once, and the
shift leaves no bundle of the account at an end of the range. -/
def FollowsActivity (accountId : Int) (sys : Service) (notification : Notification) : Prop :=
  notification.switchMod = .hotSwitch ∧
    let activity := (sys.notified notification).accounts.activity accountId
    timesListed sys notification accountId = (if activity = sys.accounts.activity accountId then 0 else 1) ∧
      (activity ≠ sys.accounts.activity accountId →
        ∀ uid bundle, sys.manager.findBundle uid accountId = some bundle →
          if activity = some true then 50 ≤ (sys.manager.bundles bundle).priority ∧
            (sys.manager.bundles bundle).priority ≤ 1050
          else -50 ≤ (sys.manager.bundles bundle).priority ∧
            (sys.manager.bundles bundle).priority ≤ 950)

/-- An account that is known stays known. -/
theorem known_notified {notification : Notification} {accountId : Int}
    (hKnown : sys.accounts.activity accountId ≠ none) :
    (sys.notified notification).accounts.activity accountId ≠ none := by
  apply (handleOsAccountsChanged_spec sys.accounts notification sys.manager).2.2.2.1
    fun accounts => accounts.activity accountId ≠ none
  · intro accounts other isActived h
    have hStored : ∀ accountInfo : AccountPriorityInfo, activity { accounts with
        accountMap := accounts.accountMap.insert other accountInfo.setAccountPriority } accountId ≠
          none := by
      intro accountInfo
      rw [activity, getAccountPriorityInfo, ExtTreeMap.getElem?_insert]
      split_ifs
      · simp
      · exact h
    rw [MultiAccountManager.setAccountPriority]
    cases accounts.getAccountPriorityInfo other with
    | some accountInfo => exact hStored _
    | none =>
        dsimp only
        split_ifs
        · exact hStored _
        · exact h
  · exact fun _ _ h => h
  · exact hKnown

/-- Each account has the priority of its activity after a notification as well. -/
theorem wellPriced_notified (h : sys.accounts.WellPriced) (notification : Notification) :
    (sys.notified notification).accounts.WellPriced :=
  (handleOsAccountsChanged_spec sys.accounts notification sys.manager).2.2.2.1 WellPriced
    (fun _ accountId isActived h => h.setAccountPriority accountId isActived) (fun _ _ h => h) h

/-- A notification of a hot switch moves the priorities of the accounts that are handed on. -/
theorem notified_manager {notification : Notification} (hHot : notification.switchMod = .hotSwitch) :
    (sys.notified notification).manager = (sys.notified notification).accounts.handleAccountHotSwitch
      ((sys.accounts.handed notification).getD []) sys.manager :=
  (handleOsAccountsChanged_spec sys.accounts notification sys.manager).2.2.2.2.1 hHot

/-- Bundles are still stored under their uids after a hot switch. -/
theorem storedByUid_notified (hStored : StoredByUid sys.manager) {notification : Notification}
    (hHot : notification.switchMod = .hotSwitch) : StoredByUid (sys.notified notification).manager := by
  intro uid accountId bundle hFind
  rw [notified_manager hHot] at hFind ⊢
  rw [findBundle_congr (handleAccountHotSwitch_osAccountsInfoMap _)] at hFind
  obtain ⟨hUid, hAccount⟩ := hStored hFind
  exact ⟨(handleAccountHotSwitch_bundles hStored hFind _).1, hAccount⟩

/-- The bundles of an account after a hot switch, by how often it is listed. -/
theorem notified_bundle (hStored : StoredByUid sys.manager) {notification : Notification}
    (hHot : notification.switchMod = .hotSwitch) {uid accountId : Int} {bundle : BundleRef}
    (hFind : sys.manager.findBundle uid accountId = some bundle) :
    (sys.notified notification).manager.bundles bundle =
      ((sys.notified notification).accounts.shifted accountId)^[
        timesListed sys notification accountId] (sys.manager.bundles bundle) := by
  obtain ⟨hUid, hAccount⟩ := hStored hFind
  rw [notified_manager hHot, handleAccountHotSwitch_object hStored,
    timesShifted_of_findBundle hStored hFind, hUid, ← hAccount]
  rfl

/-- A bundle and its processes are this far from where they were. -/
def MovedBy (distance : Int) (info info' : BundlePriorityInfo) : Prop :=
  info'.priority = info.priority + distance ∧
    ∀ pid : Int, info'.procs[pid]? =
      info.procs[pid]?.map fun proc => proc.setPriority (proc.priority + distance)

/-- A bundle that is left alone is moved by nothing. -/
theorem MovedBy.refl (info : BundlePriorityInfo) : MovedBy 0 info info := by
  refine ⟨(add_zero _).symm, fun pid => ?_⟩
  cases info.procs[pid]? with
  | none => rfl
  | some proc =>
      rw [Option.map_some, add_zero]
      rfl

/-- Two moves without a limit in between are one move by their sum. -/
theorem MovedBy.trans {first second : Int} {info₁ info₂ info₃ : BundlePriorityInfo}
    (left : MovedBy first info₁ info₂) (right : MovedBy second info₂ info₃) :
    MovedBy (first + second) info₁ info₃ := by
  refine ⟨by rw [right.1, left.1, add_assoc], fun pid => ?_⟩
  rw [right.2, left.2, Option.map_map]
  apply congrArg₂ _ _ rfl
  funext proc
  simp only [Function.comp_apply, ProcessPriorityInfo.setPriority, add_assoc]

/-- A call that follows the activity moves the bundles of the account by the change. -/
theorem movedBy_notified (hStored : StoredByUid sys.manager) (hPriced : sys.accounts.WellPriced)
    {notification : Notification} {accountId : Int} {active : Bool}
    (hActive : sys.accounts.activity accountId = some active)
    (hFollows : FollowsActivity accountId sys notification) :
    ∃ active', (sys.notified notification).accounts.activity accountId = some active' ∧
      ∀ uid bundle, sys.manager.findBundle uid accountId = some bundle →
        MovedBy (awayBy active' - awayBy active) (sys.manager.bundles bundle)
          ((sys.notified notification).manager.bundles bundle) := by
  obtain ⟨hHot, hListed, hRange⟩ := hFollows
  have hKnown : sys.accounts.activity accountId ≠ none := by
    rw [hActive]
    simp
  obtain ⟨active', hActive'⟩ := Option.ne_none_iff_exists'.mp (@known_notified _ notification _ hKnown)
  refine ⟨active', hActive', fun uid bundle hFind => ?_⟩
  rw [notified_bundle hStored hHot hFind, hListed, hActive', hActive]
  by_cases hSame : active' = active
  · rw [hSame, if_pos rfl, sub_self]
    exact .refl _
  · have hChanged : (some active' : Option Bool) ≠ some active := fun hIs => hSame (Option.some.inj hIs)
    rw [if_neg hChanged]
    obtain ⟨accountInfo, hInfo, hIs⟩ := Option.map_eq_some_iff.mp hActive'
    have hPriority := wellPriced_notified hPriced notification accountId accountInfo hInfo
    have hShift : (sys.notified notification).accounts.accountShift accountId 1
        (sys.manager.bundles bundle).priority =
          (sys.manager.bundles bundle).priority + (awayBy active' - awayBy active) := by
      have hBounds := hRange (hActive' ▸ hActive ▸ hChanged) uid bundle hFind
      rw [accountShift, hInfo]
      rw [hActive'] at hBounds
      rw [hIs] at hPriority
      dsimp only
      rw [hPriority]
      cases active' with
      | true =>
          rw [if_pos rfl] at hBounds
          obtain rfl : active = false := by simpa [eq_comm] using hSame
          simp only [inBand, awayBy, Bool.false_eq_true, ↓reduceIte]
          omega
      | false =>
          rw [if_neg (by simp)] at hBounds
          obtain rfl : active = true := by simpa [eq_comm] using hSame
          simp only [inBand, awayBy, Bool.false_eq_true, ↓reduceIte]
          omega
    constructor
    · rw [shifted_iterate_priority, hShift]
    · intro pid
      rw [shifted_iterate_procs, hShift]
      apply congrArg₂ _ _ rfl
      funext proc
      congr 1
      omega

/-- Every call of a sequence follows the activity of the account. -/
def AllFollow (accountId : Int) : List Notification → Service → Prop
  | [], _ => True
  | notification :: rest, sys =>
      FollowsActivity accountId sys notification ∧ AllFollow accountId rest (sys.notified notification)

/-- Over a list of notifications that follow the activity, a bundle is moved by the difference of
the two priorities of its account. -/
theorem movedBy_notifyAll {accountId : Int} {notifications : List Notification} {active : Bool}
    (hStored : StoredByUid sys.manager) (hPriced : sys.accounts.WellPriced)
    (hActive : sys.accounts.activity accountId = some active)
    (hFollow : AllFollow accountId notifications sys) :
    ∃ active', (notifyAll notifications sys).accounts.activity accountId = some active' ∧
      ∀ uid bundle, sys.manager.findBundle uid accountId = some bundle →
        MovedBy (awayBy active' - awayBy active) (sys.manager.bundles bundle)
          ((notifyAll notifications sys).manager.bundles bundle) := by
  induction notifications generalizing sys active with
  | nil =>
      refine ⟨active, hActive, fun uid bundle _ => ?_⟩
      rw [sub_self]
      exact .refl _
  | cons notification rest ih =>
      obtain ⟨hFollows, hRest⟩ := hFollow
      obtain ⟨middle, hMiddle, hFirst⟩ := movedBy_notified hStored hPriced hActive hFollows
      obtain ⟨active', hActive', hMoved⟩ := ih (storedByUid_notified hStored hFollows.1)
        (wellPriced_notified hPriced notification) hMiddle hRest
      refine ⟨active', hActive', fun uid bundle hFind => ?_⟩
      have hFound : (sys.notified notification).manager.findBundle uid accountId = some bundle := by
        rw [notified_manager hFollows.1, findBundle_congr (handleAccountHotSwitch_osAccountsInfoMap _)]
        exact hFind
      have hBoth := (hFirst uid bundle hFind).trans (hMoved uid bundle hFound)
      rw [notifyAll, ← sub_add_sub_cancel' (awayBy middle) (awayBy active) (awayBy active')]
      exact hBoth

/-- Only the start of the accounts and a notification change the manager of the accounts. -/
theorem Step.accounts {op : Op} {sys' : Service} (hStep : Step platform sys op sys') :
    sys'.accounts = match op with
      | .initAccounts answers => sys.accounts.init answers
      | .osAccountsChanged accountId switchMod answers =>
          (updateAllPrioForOsAccountChanged sys.accounts answers accountId switchMod sys.manager).accounts
      | _ => sys.accounts := by
  obtain ⟨fuel, hExec⟩ := hStep
  cases op with
  | updateReclaimPriorityInner request eventTime services =>
      obtain ⟨_, -, hReturn⟩ := Execution.bind_eq_ok.mp hExec
      cases hReturn
      rfl
  | updateRecalimPrioritySyncWithLock request systemTimeMs =>
      obtain ⟨_, -, hReturn⟩ := Execution.bind_eq_ok.mp hExec
      cases hReturn
      rfl
  | checkAbilityStartCompleted pid bundleUid accountId =>
      obtain ⟨_, -, hReturn⟩ := Execution.bind_eq_ok.mp hExec
      cases hReturn
      rfl
  | checkCreateProcPriorityDelay pid uid =>
      obtain ⟨_, -, hReturn⟩ := Execution.bind_eq_ok.mp hExec
      cases hReturn
      rfl
  | _ =>
      cases hExec
      rfl

/-- An account always has the priority of its activity. -/
theorem Run.wellPriced {allowed : Service → Op → Prop} (run : Run platform allowed sys) :
    sys.accounts.WellPriced := by
  refine run.invariant (fun sys => sys.accounts.WellPriced) ?_ ?_
  · intro accountId accountInfo hFound
    simp [getAccountPriorityInfo, Service.init, MultiAccountManager.new] at hFound
  · intro sys op sys' h _ hStep
    rw [hStep.accounts]
    cases op with
    | initAccounts answers =>
        show (sys.accounts.init answers).WellPriced
        rw [MultiAccountManager.init]
        cases answers.queryActiveOsAccountIds with
        | none => exact h
        | some activeIds =>
            have hUpdated := @updateAccountPriorityInfo_invariant
              ⟨false, sys.accounts.accountMap, activeIds⟩ answers WellPriced
              (fun _ accountId isActived h => h.setAccountPriority accountId isActived) activeIds 0 h
            exact hUpdated
    | osAccountsChanged accountId switchMod answers =>
        show (updateAllPrioForOsAccountChanged sys.accounts answers accountId switchMod
          sys.manager).accounts.WellPriced
        rw [updateAllPrioForOsAccountChanged]
        split
        · exact h
        · exact wellPriced_notified h ⟨accountId, switchMod, answers⟩
    | _ => exact h

/-- An account of known activity is shifted by 50, once for each time it is listed. -/
theorem accountShift_of_activity (hPriced : sys.accounts.WellPriced) {accountId : Int} {active : Bool}
    (hActive : sys.accounts.activity accountId = some active) (times : Nat) (priority : Int) :
    sys.accounts.accountShift accountId (times + 1) priority =
      inBand (inBand (priority + if active then -50 else 50) + times * if active then -50 else 50) := by
  obtain ⟨accountInfo, hInfo, hIs⟩ := Option.map_eq_some_iff.mp hActive
  have hPriority := hPriced accountId accountInfo hInfo
  rw [hIs] at hPriority
  rw [accountShift, hInfo]
  dsimp only
  rw [hPriority]

/-- Notices that follow the activity of an account leave its bundles where its activity
puts them. A notice about an account that is active already leaves a bundle alone at 0
only, and switching the account out and in again restores what is between 0 and 950. -/
theorem Run.priorities_follow_activity (run : Run platform anyOp sys) (accountId : Int) :
    (∀ active notifications, sys.accounts.activity accountId = some active →
      AllFollow accountId notifications sys →
      ∃ active', (notifyAll notifications sys).accounts.activity accountId = some active' ∧
        ∀ uid bundle, sys.manager.findBundle uid accountId = some bundle →
          MovedBy (awayBy active' - awayBy active) (sys.manager.bundles bundle)
            ((notifyAll notifications sys).manager.bundles bundle)) ∧
    (∀ repeated, repeated.switchMod = .hotSwitch →
      (sys.notified repeated).accounts.activity accountId = some true →
      timesListed sys repeated accountId ≠ 0 →
      ∀ uid bundle, sys.manager.findBundle uid accountId = some bundle →
        (((sys.notified repeated).manager.bundles bundle).priority =
          (sys.manager.bundles bundle).priority ↔ (sys.manager.bundles bundle).priority = 0)) ∧
    (∀ out back, out.switchMod = .hotSwitch → back.switchMod = .hotSwitch →
      (sys.notified out).accounts.activity accountId = some false →
      timesListed sys out accountId = 1 →
      ((sys.notified out).notified back).accounts.activity accountId = some true →
      timesListed (sys.notified out) back accountId = 1 →
      ∀ uid bundle, sys.manager.findBundle uid accountId = some bundle →
        ((((sys.notified out).notified back).manager.bundles bundle).priority =
          (sys.manager.bundles bundle).priority ↔
            0 ≤ (sys.manager.bundles bundle).priority ∧
              (sys.manager.bundles bundle).priority ≤ 950)) := by
  have hStored : StoredByUid sys.manager := run.storedByUid
  have hPriced := run.wellPriced
  refine ⟨fun active notifications hActive hFollow =>
    movedBy_notifyAll hStored hPriced hActive hFollow, ?_, ?_⟩
  · intro repeated hHot hActive hListed uid bundle hFind
    obtain ⟨more, hTimes⟩ := Nat.exists_eq_succ_of_ne_zero hListed
    rw [notified_bundle hStored hHot hFind, shifted_iterate_priority, hTimes,
      accountShift_of_activity (wellPriced_notified hPriced repeated) hActive]
    have hDown : (more : Int) * -50 ≤ 0 := by omega
    simp only [inBand, ↓reduceIte]
    omega
  · intro out back hOut hBack hInactive hOnce hActive hAgain uid bundle hFind
    have hFound : (sys.notified out).manager.findBundle uid accountId = some bundle := by
      rw [notified_manager hOut, findBundle_congr (handleAccountHotSwitch_osAccountsInfoMap _)]
      exact hFind
    have hOutPriced := wellPriced_notified hPriced out
    rw [notified_bundle (storedByUid_notified hStored hOut) hBack hFound, shifted_iterate_priority, hAgain,
      accountShift_of_activity (wellPriced_notified hOutPriced back) hActive,
      notified_bundle hStored hOut hFind, shifted_iterate_priority, hOnce,
      accountShift_of_activity hOutPriced hInactive]
    simp only [inBand, Bool.false_eq_true, ↓reduceIte]
    omega

/-- Two background bundles, in accounts 100 and 101, of which the first is active. -/
def twoActive : List Op := twoAccounts ++ [.initAccounts ⟨some [100], fun _ _ => some true, true⟩]

/-- The notices that follow the activity: 101 is switched to, then 100 again. -/
def outAndBack : List Notification :=
  [switchNotice (some [101]) fun id => some (id = 101),
    ⟨100, .hotSwitch, ⟨some [100], fun _ id => some (id = 100), true⟩⟩]

/-- It is enough to look at the tracked bundles to see that a notification follows the activity. -/
theorem follows_of_tracked {accountId : Int} {notification : Notification}
    (hHot : notification.switchMod = .hotSwitch)
    (hListed : timesListed sys notification accountId =
      if (sys.notified notification).accounts.activity accountId = sys.accounts.activity accountId then 0
      else 1)
    (hRange : ∀ bundle ∈ sys.manager.trackedBundles, 50 ≤ (sys.manager.bundles bundle).priority ∧
      (sys.manager.bundles bundle).priority ≤ 950) : FollowsActivity accountId sys notification := by
  refine ⟨hHot, hListed, fun _ uid bundle hFind => ?_⟩
  have hBounds := hRange bundle (mem_trackedBundles.mpr ⟨accountId, uid, hFind⟩)
  split_ifs <;> omega

/-- Switched out and in again, the bundle of account 100 is where it was. -/
theorem outAndBack_restores : MovedBy 0 (((reached twoActive).get (by decide)).manager.bundles 0)
    ((notifyAll outAndBack ((reached twoActive).get (by decide))).manager.bundles 0) := by
  have run : Run Scenario.platform anyOp ((reached twoActive).get (by decide)) :=
    run_reached (fun _ _ _ => trivial) (by decide)
  have hFollow : AllFollow 100 outAndBack ((reached twoActive).get (by decide)) :=
    ⟨follows_of_tracked rfl (by decide) (by decide), follows_of_tracked rfl (by decide) (by decide), trivial⟩
  obtain ⟨active', hActive', hMoved⟩ := (Run.priorities_follow_activity run 100).1 true outAndBack
    (by decide) hFollow
  have hActive : (notifyAll outAndBack ((reached twoActive).get (by decide))).accounts.activity 100 =
      some true := by decide
  obtain rfl := Option.some.inj (hActive'.symm.trans hActive)
  exact hMoved 20000001 0 (by decide)

/-- Another notice about account 100, which is active already, and its bundle moves. -/
theorem repeated_notice_shifts :
    let sys := (reached twoActive).get (by decide)
    let repeated : Notification := ⟨100, .hotSwitch, ⟨some [100], fun _ _ => some true, true⟩⟩
    sys.accounts.activity 100 = some true ∧
      (sys.notified repeated).accounts.activity 100 = some true ∧
      (sys.manager.bundles 0).priority = 400 ∧
      ((sys.notified repeated).manager.bundles 0).priority = 350 := by
  decide

end Service
end MemMgr
