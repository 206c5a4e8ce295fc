import MemMgr.Library.Execution
import MemMgr.UpdateRequest
import MemMgr.MultiAccountManager

/-! The manager and the account manager as one state machine. A step is one whole
operation: each holds the lock, or runs on the handler's only thread. -/
namespace MemMgr

structure Service where
  manager : ReclaimPriorityManager
  accounts : MultiAccountManager

inductive Op where
  | updateReclaimPriorityInner (request : UpdateRequest) (eventTime : Int) (services : Services)
  | updateRecalimPrioritySyncWithLock (request : UpdateRequest) (systemTimeMs : Int)
  | checkAbilityStartCompleted (pid bundleUid accountId : Int)
  | checkCreateProcPriorityDelay (pid uid : Int)
  | filterDiedProcess (alivePids : Option (List Nat))
  | setBundleState (accountId uid : Int) (state : BundleState)
  | reset
  | initAccounts (answers : AccountServices)
  | osAccountsChanged (accountId : Int) (switchMod : OsAccountSwitchMod) (answers : AccountServices)

namespace Service

variable (platform : Platform) (fuel : Nat)

def init : Service := ⟨.init platform, .new⟩

def withManager (sys : Service) (manager : ReclaimPriorityManager) : Service :=
  { sys with manager := manager }

def exec (sys : Service) : Op → Except Fault Service
  | .updateReclaimPriorityInner request eventTime services => do
      let (s, _) ← sys.manager.updateReclaimPriorityInner platform services fuel request eventTime
      return sys.withManager s
  | .updateRecalimPrioritySyncWithLock request systemTimeMs => do
      let (s, _) ← sys.manager.updateRecalimPrioritySyncWithLock platform request systemTimeMs
      return sys.withManager s
  | .checkAbilityStartCompleted pid bundleUid accountId => do
      let s ← sys.manager.checkAbilityStartCompleted platform fuel pid bundleUid accountId
      return sys.withManager s
  | .checkCreateProcPriorityDelay pid uid => do
      let s ← sys.manager.checkCreateProcPriorityDelay platform fuel pid uid
      return sys.withManager s
  | .filterDiedProcess alivePids =>
      .ok (sys.withManager (sys.manager.filterDiedProcess platform alivePids))
  | .setBundleState accountId uid state =>
      .ok (sys.withManager (sys.manager.setBundleState accountId uid state))
  | .reset => .ok (sys.withManager sys.manager.reset)
  | .initAccounts answers => .ok { sys with accounts := sys.accounts.init answers }
  | .osAccountsChanged accountId switchMod answers =>
      let switched := updateAllPrioForOsAccountChanged sys.accounts answers accountId switchMod sys.manager
      .ok ⟨switched.manager, switched.accounts⟩

/-- An operation that returns, within some number of iterations of its loops. -/
def Step (sys : Service) (op : Op) (sys' : Service) : Prop :=
  ∃ fuel, sys.exec platform fuel op = .ok sys'

/-- Runs from the empty manager whose operations were allowed where they started. -/
abbrev Run (allowed : Service → Op → Prop) : Service → Prop :=
  Execution.Run (Step platform) allowed (init platform)

def anyOp : Service → Op → Prop := fun _ _ => True

/-- Everything but the account switch. -/
def noAccountSwitch : Service → Op → Prop := fun _ op =>
  match op with
  | .osAccountsChanged _ _ _ => False
  | _ => True

/-- One operation after the other, each within the same number of iterations. -/
def execAll : List Op → Service → Except Fault Service
  | [], sys => .ok sys
  | op :: ops, sys => do execAll ops (← sys.exec platform fuel op)

theorem run_of_execAll {platform : Platform} {fuel : Nat} {allowed : Service → Op → Prop}
    {ops : List Op} {start sys : Service}
    (prior : Run platform allowed start) (hAllowed : ∀ sys, ∀ op ∈ ops, allowed sys op)
    (hExec : execAll platform fuel ops start = .ok sys) : Run platform allowed sys := by
  induction ops generalizing start with
  | nil =>
      cases hExec
      exact prior
  | cons op ops ih =>
      obtain ⟨next, hStep, hRest⟩ := Execution.bind_eq_ok.mp hExec
      exact ih (.succ prior (hAllowed start op List.mem_cons_self) ⟨fuel, hStep⟩)
        (fun sys op hOp => hAllowed sys op (List.mem_cons_of_mem _ hOp)) hRest

end Service
end MemMgr
