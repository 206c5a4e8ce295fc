import MemMgr.Service
import MemMgr.DiedProcesses
import MemMgr.AccountSwitch

/-! Runs of the whole system. A step is a settled request, a purge, or a hot
switch, and the state stays well formed. -/
namespace MemMgr

open Execution ReclaimPriorityManager

/-- The process an operation writes the file of without tracking it. -/
def Op.rendered : Op → Option Int
  | .updateReclaimPriorityInner request _ _ => request.rendered
  | _ => none

/-- The pids a purge finds alive. -/
def Op.alivePids : Op → Option (List Nat)
  | .filterDiedProcess alivePids => alivePids
  | _ => none

/-- The hot switch an operation leads to. -/
def Op.hotSwitch (accounts : MultiAccountManager) : Op → Option (MultiAccountManager × List Int)
  | .osAccountsChanged accountId switchMod answers => hotSwitchOf accounts answers accountId switchMod
  | _ => none

/-- What a step does to the manager. -/
inductive StepEffect (platform : Platform) (sys : Service) :
    Op → ReclaimPriorityManager → Prop where
  | settled {op s'} (hSettled : Settled platform op.rendered sys.manager s') :
      StepEffect platform sys op s'
  | purged (alivePids : List Nat) :
      StepEffect platform sys (.filterDiedProcess (some alivePids))
        (sys.manager.filterDiedProcess platform (some alivePids))
  | switched {accountId switchMod answers} (used : MultiAccountManager) (updatedAccountIds : List Int)
      (hSwitch : hotSwitchOf sys.accounts answers accountId switchMod = some (used, updatedAccountIds)) :
      StepEffect platform sys (.osAccountsChanged accountId switchMod answers)
        (used.handleAccountHotSwitch updatedAccountIds sys.manager)

variable {platform : Platform} {sys sys' : Service} {op : Op}

/-- Whatever a step does, the manager stays well formed. -/
theorem StepEffect.wellFormed {s' : ReclaimPriorityManager} (h : WellFormed sys.manager)
    (hEffect : StepEffect platform sys op s') : WellFormed s' := by
  cases hEffect with
  | settled hSettled => exact h.settled hSettled
  | purged alivePids => exact h.filterDiedProcess _
  | switched used updatedAccountIds hSwitch => exact h.hotSwitch updatedAccountIds

namespace Service

/-- Each operation has one of the effects of a step. -/
theorem Step.effect (h : WellFormed sys.manager) (hStep : Step platform sys op sys') :
    StepEffect platform sys op sys'.manager := by
  obtain ⟨fuel, hExec⟩ := hStep
  cases op with
  | updateReclaimPriorityInner request eventTime services =>
      obtain ⟨result, hRun, hReturn⟩ := bind_eq_ok.mp hExec
      cases hReturn
      exact .settled (updateReclaimPriorityInner_settled (fun _ hFind => (h.stored hFind).1) hRun)
  | updateRecalimPrioritySyncWithLock request systemTimeMs =>
      obtain ⟨result, hRun, hReturn⟩ := bind_eq_ok.mp hExec
      cases hReturn
      exact .settled (updateRecalimPrioritySyncWithLock_settled hRun)
  | checkAbilityStartCompleted pid bundleUid accountId =>
      obtain ⟨result, hRun, hReturn⟩ := bind_eq_ok.mp hExec
      cases hReturn
      exact .settled (checkAbilityStartCompleted_settled hRun)
  | checkCreateProcPriorityDelay pid uid =>
      obtain ⟨result, hRun, hReturn⟩ := bind_eq_ok.mp hExec
      cases hReturn
      exact .settled (checkCreateProcPriorityDelay_settled hRun)
  | filterDiedProcess alivePids =>
      cases hExec
      cases alivePids with
      | none => exact .settled (.clean .refl)
      | some alivePids => exact .purged alivePids
  | setBundleState accountId uid state =>
      cases hExec
      exact .settled (setBundleState_settled accountId uid state)
  | reset =>
      cases hExec
      exact .settled (.clean (.single (.reset fun _ h => h)))
  | initAccounts answers =>
      cases hExec
      exact .settled (.clean .refl)
  | osAccountsChanged accountId switchMod answers =>
      cases hExec
      rcases updateAllPrioForOsAccountChanged_manager sys.accounts answers accountId switchMod
        sys.manager with hSame | ⟨used, updatedAccountIds, hSwitch, hManager⟩
      · simp only [hSame]
        exact .settled (.clean .refl)
      · simp only [hManager]
        exact .switched used updatedAccountIds hSwitch

/-- In every run the manager is well formed. -/
theorem Run.wellFormed {allowed : Service → Op → Prop} (run : Run platform allowed sys) :
    WellFormed sys.manager := by
  refine run.invariant (fun sys => WellFormed sys.manager) (.start platform) ?_
  intro sys op sys' h _ hStep
  exact (hStep.effect h).wellFormed h

/-- What every operation keeps in well formed states holds in every state reached. -/
theorem Run.keeps {allowed : Service → Op → Prop} (inv : ReclaimPriorityManager → Prop)
    (run : Run platform allowed sys) (hStart : inv (.init platform))
    (hKeeps : ∀ sys op sys', WellFormed sys.manager → inv sys.manager → allowed sys op →
      Step platform sys op sys' → inv sys'.manager) : inv sys.manager := by
  have hBoth : WellFormed sys.manager ∧ inv sys.manager := by
    apply run.invariant (fun sys => WellFormed sys.manager ∧ inv sys.manager)
    · exact ⟨.start platform, hStart⟩
    · intro sys op sys' h hAllowed hStep
      exact ⟨(hStep.effect h.1).wellFormed h.1, hKeeps sys op sys' h.1 h.2 hAllowed hStep⟩
  exact hBoth.2

end Service
end MemMgr
