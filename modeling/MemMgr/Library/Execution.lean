import Mathlib.Logic.Relation

/-! Executions of a state machine whose steps can fault. A faulting step has no
successor, so a run ends there. -/
namespace Execution

section Outcome

universe u v
variable {ε : Type u} {α β : Type v} {outcome : Except ε α} {next : α → Except ε β}

/-- Two steps succeed when the first does, and the second does on its value. -/
theorem bind_eq_ok {result : β} :
    outcome >>= next = .ok result ↔ ∃ value, outcome = .ok value ∧ next value = .ok result := by
  cases outcome with
  | error fault => simp [bind, Except.bind]
  | ok value => simp [bind, Except.bind]

/-- They fail with the fault of the first, or with that of the second. -/
theorem bind_eq_error {fault : ε} :
    outcome >>= next = .error fault ↔
      outcome = .error fault ∨ ∃ value, outcome = .ok value ∧ next value = .error fault := by
  cases outcome with
  | error fault => simp [bind, Except.bind]
  | ok value => simp [bind, Except.bind]

end Outcome

variable {σ ℓ : Type*}

/-- States reached from `start` by steps whose labels were allowed in the state
they were taken from. -/
inductive Run (step : σ → ℓ → σ → Prop) (allowed : σ → ℓ → Prop) (start : σ) : σ → Prop where
  | zero : Run step allowed start start
  | succ {s s' : σ} {label : ℓ} (prior : Run step allowed start s)
      (hAllowed : allowed s label) (last : step s label s') : Run step allowed start s'

variable {step : σ → ℓ → σ → Prop} {allowed : σ → ℓ → Prop} {start finish : σ}

/-- An invariant of the start that every allowed step keeps holds throughout. -/
theorem Run.invariant (inv : σ → Prop) (run : Run step allowed start finish) (hStart : inv start)
    (hStep : ∀ s label s', inv s → allowed s label → step s label s' → inv s') : inv finish := by
  induction run with
  | zero => exact hStart
  | succ prior hAllowed last ih => exact hStep _ _ _ ih hAllowed last

/-- Weakening what is allowed keeps every run. -/
theorem Run.mono {weaker : σ → ℓ → Prop} (run : Run step allowed start finish)
    (h : ∀ s label, allowed s label → weaker s label) : Run step weaker start finish := by
  induction run with
  | zero => exact .zero
  | succ prior hAllowed last ih => exact .succ ih (h _ _ hAllowed) last

/-- A run together with the labels of its steps. -/
inductive Trace (step : σ → ℓ → σ → Prop) (allowed : σ → ℓ → Prop) (start : σ) : List ℓ → σ → Prop where
  | nil : Trace step allowed start [] start
  | snoc {labels : List ℓ} {s s' : σ} {label : ℓ} (prior : Trace step allowed start labels s)
      (hAllowed : allowed s label) (last : step s label s') :
      Trace step allowed start (labels ++ [label]) s'

variable {labels before : List ℓ}

/-- What holds of the labels and the state throughout, if a step keeps it. -/
theorem Trace.invariant (inv : List ℓ → σ → Prop) (trace : Trace step allowed start labels finish)
    (hStart : inv [] start)
    (hStep : ∀ labels s label s', inv labels s → allowed s label → step s label s' →
      inv (labels ++ [label]) s') : inv labels finish := by
  induction trace with
  | nil => exact hStart
  | snoc prior hAllowed last ih => exact hStep _ _ _ _ ih hAllowed last

/-- A trace passes a state after each of its labels. -/
theorem Trace.of_prefix (trace : Trace step allowed start labels finish) (hPrefix : before <+: labels) :
    ∃ s, Trace step allowed start before s := by
  induction trace with
  | nil =>
      obtain rfl := List.prefix_nil.mp hPrefix
      exact ⟨start, .nil⟩
  | snoc prior hAllowed last ih =>
      rcases List.prefix_concat_iff.mp hPrefix with rfl | hEarlier
      · exact ⟨_, .snoc prior hAllowed last⟩
      · exact ih hEarlier

end Execution
