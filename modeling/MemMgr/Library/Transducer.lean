import Mathlib.Data.List.Induction

/-! A machine that answers every input with a new state and some outputs. -/
namespace Transducer

variable {σ ι ο : Type*} (step : σ → ι → σ × List ο)

def finalState (start : σ) (inputs : List ι) : σ :=
  inputs.foldl (fun s input => (step s input).1) start

def outputs : σ → List ι → List ο
  | _, [] => []
  | s, input :: inputs => (step s input).2 ++ outputs (step s input).1 inputs

variable {step} {start : σ}

@[simp] theorem finalState_nil : finalState step start [] = start := rfl

@[simp] theorem outputs_nil : outputs step start [] = [] := rfl

theorem finalState_append (first second : List ι) :
    finalState step start (first ++ second) = finalState step (finalState step start first) second :=
  List.foldl_append

theorem outputs_append (first second : List ι) : outputs step start (first ++ second) =
    outputs step start first ++ outputs step (finalState step start first) second := by
  induction first generalizing start with
  | nil => rfl
  | cons input first ih =>
      rw [List.cons_append, outputs, outputs, ih, List.append_assoc]
      rfl

@[simp] theorem finalState_concat (inputs : List ι) (input : ι) :
    finalState step start (inputs ++ [input]) = (step (finalState step start inputs) input).1 :=
  finalState_append inputs [input]

@[simp] theorem outputs_concat (inputs : List ι) (input : ι) :
    outputs step start (inputs ++ [input]) =
      outputs step start inputs ++ (step (finalState step start inputs) input).2 := by
  rw [outputs_append, outputs, outputs, List.append_nil]

/-- Every input is allowed in the state it meets. -/
def AllowedAll (step : σ → ι → σ × List ο) (allowed : σ → ι → Prop) (start : σ)
    (inputs : List ι) : Prop :=
  ∀ before input, before ++ [input] <+: inputs → allowed (finalState step start before) input

/-- The first part of an allowed sequence is allowed. -/
theorem AllowedAll.of_append {allowed : σ → ι → Prop} {first second : List ι}
    (h : AllowedAll step allowed start (first ++ second)) : AllowedAll step allowed start first :=
  fun before input hPrefix => h before input (hPrefix.trans (List.prefix_append first second))

/-- A sequence is allowed when its first input is, and the others are after it. -/
theorem allowedAll_cons {allowed : σ → ι → Prop} {input : ι} {inputs : List ι} :
    AllowedAll step allowed start (input :: inputs) ↔
      allowed start input ∧ AllowedAll step allowed (step start input).1 inputs := by
  constructor
  · intro h
    refine ⟨h [] input (by simp), fun before next hPrefix => ?_⟩
    exact h (input :: before) next (List.cons_prefix_cons.mpr ⟨rfl, hPrefix⟩)
  · rintro ⟨hFirst, hRest⟩ before next hPrefix
    cases before with
    | nil =>
        obtain ⟨rfl, -⟩ := List.cons_prefix_cons.mp hPrefix
        exact hFirst
    | cons head before =>
        obtain ⟨rfl, hTail⟩ := List.cons_prefix_cons.mp hPrefix
        exact hRest before next hTail

instance AllowedAll.decidable {allowed : σ → ι → Prop} [∀ s input, Decidable (allowed s input)] :
    ∀ (start : σ) (inputs : List ι), Decidable (AllowedAll step allowed start inputs)
  | _, [] => isTrue fun before input hPrefix => by simp at hPrefix
  | start, input :: inputs =>
      have : Decidable (AllowedAll step allowed (step start input).1 inputs) :=
        AllowedAll.decidable (step start input).1 inputs
      decidable_of_iff (allowed start input ∧ AllowedAll step allowed (step start input).1 inputs)
        allowedAll_cons.symm

/-- What holds of the inputs, the outputs and the state throughout, if a step keeps it. -/
theorem invariant (inv : List ι → List ο → σ → Prop) (allowed : σ → ι → Prop)
    (hStart : inv [] [] start)
    (hStep : ∀ inputs outs s input, inv inputs outs s → allowed s input →
      inv (inputs ++ [input]) (outs ++ (step s input).2) (step s input).1)
    (inputs : List ι) (hAllowed : AllowedAll step allowed start inputs) :
    inv inputs (outputs step start inputs) (finalState step start inputs) := by
  induction inputs using List.reverseRecOn with
  | nil => exact hStart
  | append_singleton inputs input ih =>
      rw [outputs_concat, finalState_concat]
      exact hStep _ _ _ _ (ih hAllowed.of_append) (hAllowed inputs input (List.prefix_refl _))

/-- An invariant of the state alone holds after any inputs. -/
theorem state_invariant (inv : σ → Prop) (hStart : inv start)
    (hStep : ∀ s input, inv s → inv (step s input).1) (inputs : List ι) :
    inv (finalState step start inputs) := by
  apply invariant (fun _ _ => inv) (fun _ _ => True) hStart
  · exact fun _ _ s input h _ => hStep s input h
  · exact fun _ _ _ => trivial

end Transducer
