import Mathlib.Data.List.Induction
import Mathlib.Data.List.Count

/-! Things that are opened and closed, several times over. A thing is open while it was opened
more often than closed; a flag that every opening sets and every closing clears only knows
the last event. The two agree as long as nothing is closed that is open more than once. -/
namespace OpenClose

variable {κ : Type*} [DecidableEq κ]

/-- An event of a key: `true` opens, `false` closes. -/
abbrev Event (κ : Type*) := κ × Bool

def opens (key : κ) (events : List (Event κ)) : Nat := events.count (key, true)
def closes (key : κ) (events : List (Event κ)) : Nat := events.count (key, false)

def IsOpen (key : κ) (events : List (Event κ)) : Prop := closes key events < opens key events

/-- The flag: the last event of the key opened it. -/
def flag (key : κ) (events : List (Event κ)) : Bool :=
  events.foldl (fun set event => if event.1 = key then event.2 else set) false

/-- Only what is open is closed. -/
def Matched (events : List (Event κ)) : Prop :=
  ∀ before key, before ++ [(key, false)] <+: events → IsOpen key before

/-- Something is closed that is open more than once. -/
def Overlapping (events : List (Event κ)) : Prop :=
  ∃ before key, before ++ [(key, false)] <+: events ∧ closes key before + 1 < opens key before

variable {events before : List (Event κ)} {key other : κ} {set : Bool}

@[simp] theorem flag_nil : flag key ([] : List (Event κ)) = false := rfl

@[simp] theorem flag_concat : flag key (events ++ [(other, set)]) =
    if other = key then set else flag key events := by
  simp [flag]

@[simp] theorem opens_concat : opens key (events ++ [(other, set)]) =
    opens key events + if other = key ∧ set = true then 1 else 0 := by
  simp [opens, List.count_singleton]

@[simp] theorem closes_concat : closes key (events ++ [(other, set)]) =
    closes key events + if other = key ∧ set = false then 1 else 0 := by
  simp [closes, List.count_singleton]

instance : Decidable (IsOpen key events) := inferInstanceAs (Decidable (_ < _))

/-- No event closes anything. -/
theorem matched_nil : Matched ([] : List (Event κ)) := by simp [Matched]

/-- A sequence stays matched when what is closed last was open. -/
theorem matched_concat :
    Matched (events ++ [(other, set)]) ↔ Matched events ∧ (set = false → IsOpen other events) := by
  constructor
  · intro h
    refine ⟨fun before key hPrefix => h before key (hPrefix.trans (List.prefix_append _ _)), ?_⟩
    rintro rfl
    exact h events other (List.prefix_refl _)
  · rintro ⟨hBefore, hLast⟩ before key hPrefix
    rcases List.prefix_concat_iff.mp hPrefix with hSame | hEarlier
    · obtain ⟨rfl, hEvent⟩ := List.append_inj' hSame rfl
      obtain ⟨rfl, rfl⟩ : key = other ∧ false = set := by simpa using hEvent
      exact hLast rfl
    · exact hBefore before key hEarlier

/-- A second opening shows when a close leaves an opening over. -/
theorem overlapping_concat : Overlapping (events ++ [(other, set)]) ↔
    Overlapping events ∨ set = false ∧ closes other events + 1 < opens other events := by
  constructor
  · rintro ⟨before, key, hPrefix, hTwice⟩
    rcases List.prefix_concat_iff.mp hPrefix with hSame | hEarlier
    · obtain ⟨rfl, hEvent⟩ := List.append_inj' hSame rfl
      obtain ⟨rfl, rfl⟩ : key = other ∧ false = set := by simpa using hEvent
      exact Or.inr ⟨rfl, hTwice⟩
    · exact Or.inl ⟨before, key, hEarlier, hTwice⟩
  · rintro (⟨before, key, hPrefix, hTwice⟩ | ⟨rfl, hTwice⟩)
    · exact ⟨before, key, hPrefix.trans (List.prefix_append _ _), hTwice⟩
    · exact ⟨events, other, List.prefix_refl _, hTwice⟩

/-- Without an event nothing overlaps. -/
theorem not_overlapping_nil : ¬ Overlapping ([] : List (Event κ)) := by simp [Overlapping]

/-- Being matched is about every beginning, and so passes to each of them. -/
theorem Matched.of_prefix (h : Matched events) (hPrefix : before <+: events) : Matched before :=
  fun first key hFirst => h first key (hFirst.trans hPrefix)

/-- Where nothing overlaps, nothing did before. -/
theorem not_overlapping_before (h : ¬ Overlapping events) (hPrefix : before <+: events) :
    ¬ Overlapping before := by
  rintro ⟨first, key, hFirst, hTwice⟩
  exact h ⟨first, key, hFirst.trans hPrefix, hTwice⟩

/-- Nothing is closed more often than it was opened. -/
theorem Matched.closes_le (h : Matched events) : closes key events ≤ opens key events := by
  induction events using List.reverseRecOn with
  | nil => simp [closes]
  | append_singleton events event ih =>
      obtain ⟨other, set⟩ := event
      obtain ⟨hMatched, hLast⟩ := matched_concat.mp h
      have hBefore := ih hMatched
      rw [closes_concat, opens_concat]
      cases set with
      | true => simp; omega
      | false =>
          have hOpen := hLast rfl
          rw [IsOpen] at hOpen
          by_cases hIs : other = key
          · subst hIs
            simp
            omega
          · simp [hIs]
            omega

/-- Without an overlap the flag is right. -/
theorem flag_eq_open (h : Matched events) (hApart : ¬ Overlapping events) :
    flag key events = true ↔ IsOpen key events := by
  induction events using List.reverseRecOn with
  | nil => simp [IsOpen, closes, opens]
  | append_singleton events event ih =>
      obtain ⟨other, set⟩ := event
      have hMatched := (matched_concat.mp h).1
      rw [overlapping_concat, not_or] at hApart
      have hBefore := ih hMatched hApart.1
      have hLe : closes key events ≤ opens key events := hMatched.closes_le
      rw [flag_concat, IsOpen, closes_concat, opens_concat]
      by_cases hIs : other = key
      · subst hIs
        cases set with
        | true => simp; omega
        | false =>
            have hOnce : ¬ closes other events + 1 < opens other events :=
              fun hTwice => hApart.2 ⟨rfl, hTwice⟩
            simp
            omega
      · simpa [hIs, IsOpen] using hBefore

/-- The flag is right throughout exactly if nothing is closed that is open more than once. -/
theorem flag_eq_open_iff (h : Matched events) :
    (∀ before, before <+: events → ∀ key, flag key before = true ↔ IsOpen key before) ↔
      ¬ Overlapping events := by
  constructor
  · rintro hRight ⟨before, key, hPrefix, hTwice⟩
    have hAfter := hRight _ hPrefix key
    rw [flag_concat, if_pos rfl, IsOpen, closes_concat, opens_concat] at hAfter
    simp at hAfter
    omega
  · intro hApart before hPrefix key
    exact flag_eq_open (h.of_prefix hPrefix) (not_overlapping_before hApart hPrefix)

end OpenClose
