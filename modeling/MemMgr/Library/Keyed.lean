import Mathlib.Data.List.Basic

/-! Machines whose events each concern at most one of many keys. What is seen at a key depends on
the key's own events alone, so those of different keys may come in any order. -/
namespace Keyed

variable {σ κ υ ε : Type*} [DecidableEq κ]

/-- A step changes what is seen at the key of the event, from that alone. -/
def Local (view : σ → κ → υ) (key : ε → Option κ) (change : ε → υ → υ) (step : σ → ε → σ) : Prop :=
  ∀ s event k, view (step s event) k = if key event = some k then change event (view s k) else view s k

/-- The events of one key, in order. -/
def eventsOf (key : ε → Option κ) (k : κ) (events : List ε) : List ε :=
  events.filter fun event => key event = some k

variable {view : σ → κ → υ} {key : ε → Option κ} {change : ε → υ → υ} {step : σ → ε → σ}
variable {k : κ} {events : List ε}

/-- An event of the key is one of its events. -/
theorem eventsOf_cons_of_eq {event : ε} (hKey : key event = some k) :
    eventsOf key k (event :: events) = event :: eventsOf key k events :=
  List.filter_cons_of_pos (decide_eq_true hKey)

/-- An event of another key, or of none, is passed over. -/
theorem eventsOf_cons_of_ne {event : ε} (hKey : key event ≠ some k) :
    eventsOf key k (event :: events) = eventsOf key k events :=
  List.filter_cons_of_neg (by simpa using hKey)

/-- The events of a key have that key. -/
theorem key_of_mem_eventsOf {event : ε} (h : event ∈ eventsOf key k events) : key event = some k :=
  of_decide_eq_true (List.mem_filter.mp h).2

/-- A key ends with what its own events make of it. -/
theorem Local.view_foldl (h : Local view key change step) (s : σ) : view (events.foldl step s) k =
    (eventsOf key k events).foldl (fun value event => change event value) (view s k) := by
  induction events generalizing s with
  | nil => rfl
  | cons event events ih =>
      rw [List.foldl_cons, ih, h]
      by_cases hKey : key event = some k
      · rw [if_pos hKey, eventsOf_cons_of_eq hKey, List.foldl_cons]
      · rw [if_neg hKey, eventsOf_cons_of_ne hKey]

end Keyed
