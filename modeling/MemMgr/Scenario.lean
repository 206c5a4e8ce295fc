import MemMgr.Service

/-! Concrete runs, for examples of what the general statements are about. The
trees in them stay so small that nothing has to be rotated. -/
namespace MemMgr.Scenario

def platform : Platform := ⟨.none, .empty⟩

/-- No bundle manager to ask, and memory for every object. -/
def services : Services := ⟨none, 0, true, true⟩

/-- An event of a process of an application named by its uid. -/
def event (reason : AppStateUpdateReason) (pid uid : Int) : Op :=
  .updateReclaimPriorityInner
    ⟨⟨0, 0, "", ""⟩, ⟨pid, uid, "", toString uid⟩, reason⟩ 0 services

/-- A binding of one process to an extension of another. -/
def bind (callerPid callerUid pid uid : Int) : Op :=
  .updateReclaimPriorityInner
    ⟨⟨callerPid, callerUid, "", ""⟩, ⟨pid, uid, "", toString uid⟩, .bindExtension⟩ 0 services

/-- The state after some operations, if they all return. -/
def reached (ops : List Op) : Option Service :=
  (Service.execAll platform 40 ops (Service.init platform)).toOption

/-- Every operation is allowed in the state it meets. -/
def checked (allowed : Service → Op → Prop) [∀ sys op, Decidable (allowed sys op)] :
    List Op → Service → Bool
  | [], _ => true
  | op :: ops, sys =>
      decide (allowed sys op) &&
        match sys.exec platform 40 op with
        | .ok next => checked allowed ops next
        | .error _ => true

theorem run_of_checked {allowed : Service → Op → Prop} [∀ sys op, Decidable (allowed sys op)]
    {ops : List Op} {start sys : Service} (prior : Service.Run platform allowed start)
    (hChecked : checked allowed ops start = true)
    (hExec : Service.execAll platform 40 ops start = .ok sys) : Service.Run platform allowed sys := by
  induction ops generalizing start with
  | nil =>
      cases hExec
      exact prior
  | cons op ops ih =>
      obtain ⟨next, hStep, hRest⟩ := Execution.bind_eq_ok.mp hExec
      rw [checked, hStep, Bool.and_eq_true, decide_eq_true_eq] at hChecked
      exact ih (.succ prior hChecked.1 ⟨40, hStep⟩) hChecked.2 hRest

theorem eq_ok_get {outcome : Except Fault Service} (h : outcome.toOption.isSome = true) :
    outcome = .ok (outcome.toOption.get h) := by
  cases outcome with
  | error fault => simp [Except.toOption] at h
  | ok sys => rfl

theorem execAll_reached {ops : List Op} (h : (reached ops).isSome = true) :
    Service.execAll platform 40 ops (Service.init platform) = .ok ((reached ops).get h) :=
  eq_ok_get h

/-- A run whose operations are allowed wherever they start. -/
theorem run_reached {allowed : Service → Op → Prop} {ops : List Op}
    (hAllowed : ∀ sys, ∀ op ∈ ops, allowed sys op) (h : (reached ops).isSome = true) :
    Service.Run platform allowed ((reached ops).get h) :=
  Service.run_of_execAll .zero hAllowed (execAll_reached h)

/-- A run whose operations are found to be allowed one after the other. -/
theorem run_checked {allowed : Service → Op → Prop} [∀ sys op, Decidable (allowed sys op)]
    {ops : List Op} (hChecked : checked allowed ops (Service.init platform) = true)
    (h : (reached ops).isSome = true) : Service.Run platform allowed ((reached ops).get h) :=
  run_of_checked .zero hChecked (execAll_reached h)

/-- The state that operations reach on any platform. -/
def reachedOn (platform : Platform) (ops : List Op) : Option Service :=
  (Service.execAll platform 40 ops (Service.init platform)).toOption

theorem run_reachedOn {platform : Platform} {allowed : Service → Op → Prop} {ops : List Op}
    (hAllowed : ∀ sys, ∀ op ∈ ops, allowed sys op) (h : (reachedOn platform ops).isSome = true) :
    Service.Run platform allowed ((reachedOn platform ops).get h) :=
  Service.run_of_execAll .zero hAllowed (eq_ok_get h)

end MemMgr.Scenario
