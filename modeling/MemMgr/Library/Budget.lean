import Mathlib.Algebra.BigOperators.Group.List.Basic
import Mathlib.Algebra.Order.Group.Int
import Mathlib.Algebra.Ring.Int.Defs

/-! Actions that are counted against a budget, and are only taken while some of it is left. -/
namespace Budget

variable {α : Type*} (cost : α → Int)

def spent (log : List α) : Int := (log.map cost).sum

/-- Every action was taken while the ones before it had not used the budget up. -/
def Within (budget : Int) (log : List α) : Prop :=
  ∀ before action after, log = before ++ action :: after → spent cost before < budget

variable {cost} {budget : Int} {log more : List α} {action : α}

@[simp] theorem spent_nil : spent cost [] = 0 := rfl

@[simp] theorem spent_append : spent cost (log ++ more) = spent cost log + spent cost more := by
  simp [spent]

@[simp] theorem spent_singleton : spent cost [action] = cost action := by
  simp [spent]

/-- Nothing has been spent yet. -/
theorem within_nil : Within cost budget [] := by
  intro before action after hLog
  simp at hLog

/-- A first action is within a budget that is not used up. -/
theorem within_singleton (h : 0 < budget) : Within cost budget [action] := by
  intro before first after hLog
  have hNil : before = [] := by
    cases before with
    | nil => rfl
    | cons head tail => simp at hLog
  rw [hNil]
  exact h

/-- What is left after some actions is the budget of those that follow. -/
theorem Within.append (h : Within cost budget log) (hMore : Within cost (budget - spent cost log) more) :
    Within cost budget (log ++ more) := by
  intro before action after hLog
  rcases List.append_eq_append_iff.mp hLog with ⟨rest, hBefore, hRest⟩ | ⟨rest, hFirst, hRest⟩
  · have hLeft := hMore rest action after hRest
    rw [hBefore, spent_append]
    omega
  · cases rest with
    | nil =>
        rw [List.append_nil] at hFirst
        rw [List.nil_append] at hRest
        have hLeft := hMore [] action after hRest.symm
        rw [← hFirst]
        simp only [spent_nil] at hLeft
        omega
    | cons head tail =>
        have hHead : head = action := (List.cons.inj hRest).1.symm
        exact h before head tail hFirst

end Budget
