import MemMgr.Library.Transducer

/-! Two machines of which the second lags behind the first. It is given the same calls in the same
order. Some outputs come at the same time, and others may be pending for a while. -/
namespace DelayedSimulation

open Transducer

variable {σ τ ι ο : Type*} {step : σ → ι → σ × List ο} {step' : τ → ι → τ × List ο}
variable (call : ι → Bool) (prompt : ο → Bool)

/-- What the second machine does for a step of the first. -/
structure Matches (step : σ → ι → σ × List ο) (step' : τ → ι → τ × List ο) (pending : List ο) (s : σ) (t : τ)
    (input : ι) (inputs : List ι) (pending' : List ο) : Prop where
  calls : inputs.filter call = [input].filter call
  heard : (outputs step' t inputs).filter prompt = (step s input).2.filter prompt
  late : (outputs step' t inputs ++ pending').filter (fun output => !prompt output) =
    (pending ++ (step s input).2).filter fun output => !prompt output

variable {call} {prompt}

/-- Machines that match step by step match in every run. -/
theorem exists_inputs (related : List ο → σ → τ → Prop) {s : σ} {t : τ} (hStart : related [] s t)
    (hStep : ∀ pending s t input, related pending s t → ∃ inputs pending',
      Matches call prompt step step' pending s t input inputs pending' ∧
        related pending' (step s input).1 (finalState step' t inputs))
    (inputs : List ι) : ∃ inputs' pending, inputs'.filter call = inputs.filter call ∧
      (outputs step' t inputs').filter prompt = (outputs step s inputs).filter prompt ∧
      (outputs step' t inputs' ++ pending).filter (fun output => !prompt output) =
        (outputs step s inputs).filter (fun output => !prompt output) ∧
      related pending (finalState step s inputs) (finalState step' t inputs') := by
  induction inputs using List.reverseRecOn with
  | nil => exact ⟨[], [], rfl, rfl, rfl, hStart⟩
  | append_singleton inputs input ih =>
      obtain ⟨inputs', pending, hCalls, hPrompt, hLate, hRelated⟩ := ih
      obtain ⟨more, pending', hMatches, hNext⟩ := hStep _ _ _ input hRelated
      refine ⟨inputs' ++ more, pending', ?_, ?_, ?_, ?_⟩
      · rw [List.filter_append, List.filter_append, hCalls, hMatches.calls]
      · rw [outputs_append, outputs_concat, List.filter_append, List.filter_append, hPrompt, hMatches.heard]
      · rw [outputs_append, outputs_concat, List.append_assoc, List.filter_append, hMatches.late,
          ← List.filter_append, ← List.append_assoc, List.filter_append, hLate, ← List.filter_append]
      · rw [finalState_concat, finalState_append]
        exact hNext

end DelayedSimulation
