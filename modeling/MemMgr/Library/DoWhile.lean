/-! Loops that run their body on what is at hand before they look whether anything is at hand. -/
namespace DoWhile

universe u
variable {ε α σ : Type u}

/-- How a round of a loop ends: at its condition, or behind the loop. -/
inductive Turn (σ : Type u) where
  | next (state : σ)
  | stop (state : σ)

/-- A loop over the elements that are left. The body of the first round has none to work on where
there are none, and then it fails. -/
def doWhile (absent : ε) (body : α → σ → Except ε (Turn σ)) : List α → σ → Except ε σ
  | [], _ => .error absent
  | x :: rest, state => do
      match ← body x state with
      | .stop state => .ok state
      | .next state => if rest.isEmpty then .ok state else doWhile absent body rest state

variable {absent : ε} {body : α → σ → Except ε (Turn σ)} {elements : List α} {state : σ}

@[simp] theorem doWhile_nil : doWhile absent body [] state = .error absent := rfl

/-- A round that reaches the condition is followed by the rest, if there is one. -/
theorem doWhile_next {x : α} {rest : List α} {state' : σ} (hNext : body x state = .ok (.next state')) :
    doWhile absent body (x :: rest) state =
      if rest.isEmpty then .ok state' else doWhile absent body rest state' := by
  rw [doWhile, hNext]
  rfl

/-- A loop whose rounds change nothing until an element is found comes to the first such element. -/
theorem doWhile_find {stops : α → Bool} {finish : α → σ → Except ε σ}
    (hSkip : ∀ x state, stops x = false → body x state = .ok (.next state))
    (hStop : ∀ x state, stops x = true → body x state = (finish x state).map Turn.stop)
    (hSome : elements ≠ []) : doWhile absent body elements state =
      match elements.find? stops with
      | none => .ok state
      | some x => finish x state := by
  induction elements with
  | nil => exact absurd rfl hSome
  | cons x rest ih =>
      rw [List.find?_cons]
      cases hStops : stops x with
      | true =>
          rw [doWhile, hStop x state hStops]
          dsimp only
          cases finish x state with
          | error fault => rfl
          | ok result => rfl
      | false =>
          rw [doWhile_next (hSkip x state hStops)]
          cases rest with
          | nil => rfl
          | cons y rest => exact ih (List.cons_ne_nil y rest)

/-- Where no round fails, only the first round can lack an element. -/
theorem doWhile_ok_iff (hBody : ∀ x state, ∃ turn, body x state = .ok turn) :
    (∃ result, doWhile absent body elements state = .ok result) ↔ elements ≠ [] := by
  induction elements generalizing state with
  | nil => simp
  | cons x rest ih =>
      simp only [ne_eq, reduceCtorEq, not_false_eq_true, iff_true]
      obtain ⟨turn, hTurn⟩ := hBody x state
      cases turn with
      | stop result =>
          rw [doWhile, hTurn]
          exact ⟨result, rfl⟩
      | next state' =>
          rw [doWhile_next hTurn]
          cases rest with
          | nil => exact ⟨state', rfl⟩
          | cons y rest => exact ih.mpr (List.cons_ne_nil y rest)

end DoWhile
