import MemMgr.Manager

/-! Account switches. The account manager keeps a priority for every account it
has heard of and moves the bundles of an account by it, through the account map
it is handed. -/
namespace MemMgr

open Std

@[simp] def highPriority : Int := -50
@[simp] def lowPriority : Int := 50

structure AccountPriorityInfo where
  id : Int
  priority : Int
  isActived : Bool
  deriving DecidableEq

def AccountPriorityInfo.create (id : Int) (isActived : Bool) : AccountPriorityInfo := ⟨id, -1, isActived⟩

inductive OsAccountSwitchMod where
  | coldSwitch
  | hotSwitch
  | other
  deriving DecidableEq, Repr

/-- What the account service answers during one operation: the active accounts,
and whether an account is active, by the number of the query. `none` is an error
code. -/
structure AccountServices where
  queryActiveOsAccountIds : Option (List Int)
  queryOsAccountById : Nat → Int → Option Bool
  makeAccountInfo : Bool

structure MultiAccountManager where
  initialized : Bool
  accountMap : ExtTreeMap Int AccountPriorityInfo
  oldActiveAccountIds : List Int
  deriving DecidableEq

/-- The default strategy. -/
def AccountPriorityInfo.setAccountPriority (accountInfo : AccountPriorityInfo) : AccountPriorityInfo :=
  { accountInfo with priority := if accountInfo.isActived then highPriority else lowPriority }

namespace MultiAccountManager

def new : MultiAccountManager := ⟨false, ∅, []⟩

variable (accounts : MultiAccountManager) (answers : AccountServices)

def getAccountPriorityInfo (accountId : Int) : Option AccountPriorityInfo :=
  accounts.accountMap[accountId]?

/-- The default strategy never refuses, so only a failed allocation returns false. -/
def setAccountPriority (accountId : Int) (isActived : Bool) : MultiAccountManager × Bool :=
  let store (accountInfo : AccountPriorityInfo) : MultiAccountManager :=
    { accounts with accountMap := accounts.accountMap.insert accountId accountInfo.setAccountPriority }
  match accounts.getAccountPriorityInfo accountId with
  | some accountInfo => (store { accountInfo with isActived := isActived }, true)
  | none =>
      if answers.makeAccountInfo then (store (.create accountId isActived), true)
      else (accounts, false)

/-- The accounts before the first failure keep their new priority. -/
def updateAccountPriorityInfo : Nat → List Int → MultiAccountManager → MultiAccountManager × Bool
  | _, [], accounts => (accounts, true)
  | query, accountId :: accountIds, accounts =>
      match answers.queryOsAccountById query accountId with
      | none => (accounts, false)
      | some isActived =>
          match accounts.setAccountPriority answers accountId isActived with
          | (accounts, true) => updateAccountPriorityInfo (query + 1) accountIds accounts
          | (accounts, false) => (accounts, false)

def init : MultiAccountManager :=
  match answers.queryActiveOsAccountIds with
  | none => { accounts with initialized := false, oldActiveAccountIds := [] }
  | some activeIds =>
      let accounts := { accounts with initialized := false, oldActiveAccountIds := activeIds }
      let (accounts, updated) := updateAccountPriorityInfo answers 0 activeIds accounts
      { accounts with initialized := updated }

/-- The accounts that are no longer active. -/
def getSwitchedAccountIds : MultiAccountManager × Option (List Int) :=
  match answers.queryActiveOsAccountIds with
  | none => (accounts, none)
  | some newActiveAccountIds =>
      ({ accounts with oldActiveAccountIds := newActiveAccountIds },
        some (accounts.oldActiveAccountIds.filter fun oldId => oldId ∉ newActiveAccountIds))

def recalcBundlePriority (accountId bundlePriority : Int) : Int :=
  match accounts.getAccountPriorityInfo accountId with
  | none => reclaimPriorityMax
  | some accountInfo =>
      let recalcPriority := accountInfo.priority + bundlePriority
      let recalcPriority :=
        if recalcPriority > reclaimPriorityMax then reclaimPriorityMax else recalcPriority
      if recalcPriority < reclaimPriorityForeground then reclaimPriorityForeground else recalcPriority

/-- Every process of the account is signalled; their records stay until they are
reported dead. -/
def handleAccountColdSwitch (switchedAccountIds : List Int) (s : ReclaimPriorityManager) : List Int :=
  switchedAccountIds.flatMap fun accountId =>
    match s.findOsAccountById accountId with
    | none => []
    | some account =>
        account.bundleIdInfoMapping.toList.flatMap fun entry => (s.bundles entry.2).procs.keys

/-- One bundle of a hot switch. The position of the bundle in the ordered set is
not looked at. -/
def shiftBundle (accountId : Int) (s : ReclaimPriorityManager) (bundle : BundleRef) :
    ReclaimPriorityManager :=
  let oldPriority := (s.bundles bundle).priority
  let newPriority := accounts.recalcBundlePriority accountId oldPriority
  (s.modifyBundle bundle fun info =>
    { info with priority := newPriority }.increaseProcsPriority
      (newPriority - oldPriority)).writeBundleOomScoreAdj bundle

def shiftAccount (s : ReclaimPriorityManager) (accountId : Int) : ReclaimPriorityManager :=
  match s.findOsAccountById accountId with
  | none => s
  | some account =>
      account.bundleIdInfoMapping.toList.foldl
        (fun s entry => accounts.shiftBundle accountId s entry.2) s

def handleAccountHotSwitch (updatedAccountIds : List Int) (s : ReclaimPriorityManager) :
    ReclaimPriorityManager :=
  updatedAccountIds.foldl accounts.shiftAccount s

/-- What an account switch leaves behind: both managers, and the processes that
were sent a signal. -/
structure Switched where
  accounts : MultiAccountManager
  manager : ReclaimPriorityManager
  killed : List Int
  ret : Bool

def handleOsAccountsChanged (accountId : Int) (switchMod : OsAccountSwitchMod)
    (s : ReclaimPriorityManager) : Switched :=
  if !accounts.initialized then ⟨accounts, s, [], false⟩
  else
    match accounts.getSwitchedAccountIds answers with
    | (accounts, none) => ⟨accounts, s, [], false⟩
    | (accounts, some switchedAccountIds) =>
        let updatedAccountIds := switchedAccountIds ++ [accountId]
        match updateAccountPriorityInfo answers 0 updatedAccountIds accounts with
        | (accounts, false) => ⟨accounts, s, [], false⟩
        | (accounts, true) =>
            match switchMod with
            | .coldSwitch => ⟨accounts, s, handleAccountColdSwitch switchedAccountIds s, true⟩
            | .hotSwitch => ⟨accounts, accounts.handleAccountHotSwitch updatedAccountIds s, [], true⟩
            | .other => ⟨accounts, s, [], false⟩

end MultiAccountManager

/-- The manager's side of an account switch, which takes no lock. -/
def updateAllPrioForOsAccountChanged (accounts : MultiAccountManager) (answers : AccountServices)
    (accountId : Int) (switchMod : OsAccountSwitchMod) (s : ReclaimPriorityManager) :
    MultiAccountManager.Switched :=
  if !s.initialized then ⟨accounts, s, [], false⟩
  else accounts.handleOsAccountsChanged answers accountId switchMod s

end MemMgr
