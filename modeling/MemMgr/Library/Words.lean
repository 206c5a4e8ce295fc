/-! The pieces of a list between separators, without the empty ones. -/
namespace Words

universe u
variable {α : Type u} {isSep : α → Bool}

/-- The maximal runs without a separator. -/
def words (isSep : α → Bool) (text : List α) : List (List α) :=
  (text.splitOnP isSep).filter fun piece => !piece.isEmpty

@[simp] theorem words_nil : words isSep [] = [] := rfl

/-- A separator parts what stands before it from what stands after it. -/
theorem words_append_sep (before after : List α) {sep : α} (hSep : isSep sep = true) :
    words isSep (before ++ sep :: after) = words isSep before ++ words isSep after := by
  rw [words, List.splitOnP_append_cons before after hSep, List.filter_append]
  rfl

/-- A separator at the front starts no word. -/
theorem words_sep_cons (after : List α) {sep : α} (hSep : isSep sep = true) :
    words isSep (sep :: after) = words isSep after :=
  words_append_sep [] after hSep

/-- A text without a separator is one word. -/
theorem words_of_no_sep {text : List α} (hNone : ∀ x ∈ text, isSep x = false) (hSome : text ≠ []) :
    words isSep text = [text] := by
  rw [words, List.splitOnP_eq_singleton hNone]
  cases text with
  | nil => exact absurd rfl hSome
  | cons x text => rfl

/-- A word at the front, followed by nothing or by a separator. -/
theorem words_append_of_no_sep {word rest : List α} (hNone : ∀ x ∈ word, isSep x = false)
    (hSome : word ≠ []) (hRest : ∀ x ∈ rest.head?, isSep x = true) :
    words isSep (word ++ rest) = word :: words isSep rest := by
  cases rest with
  | nil => rw [List.append_nil, words_of_no_sep hNone hSome, words_nil]
  | cons sep rest =>
      have hSep : isSep sep = true := hRest sep rfl
      rw [words_append_sep word rest hSep, words_of_no_sep hNone hSome, words_sep_cons rest hSep]
      rfl

/-- A text with a character that is no separator has a word. -/
theorem words_ne_nil {text : List α} {x : α} (hMem : x ∈ text) (hNot : isSep x = false) :
    words isSep text ≠ [] := by
  induction text with
  | nil => cases hMem
  | cons y text ih =>
      cases hSep : isSep y with
      | true =>
          rcases List.mem_cons.mp hMem with rfl | hLater
          · rw [hNot] at hSep
            cases hSep
          · rw [words_sep_cons text hSep]
            exact ih hLater
      | false =>
          rw [words, List.splitOnP_cons_eq_if_modifyHead, if_neg (by simp [hSep])]
          obtain ⟨piece, pieces, hPieces⟩ := List.exists_cons_of_ne_nil (List.splitOnP_ne_nil isSep text)
          rw [hPieces, List.modifyHead_cons]
          exact List.cons_ne_nil _ _

/-- A separator between two other elements makes for two words at least. -/
theorem two_le_length_words {before after : List α} {sep first last : α} (hSep : isSep sep = true)
    (hFirst : first ∈ before) (hBefore : isSep first = false) (hLast : last ∈ after)
    (hAfter : isSep last = false) : 2 ≤ (words isSep (before ++ sep :: after)).length := by
  rw [words_append_sep before after hSep, List.length_append]
  have hLeft := List.length_pos_iff.mpr (words_ne_nil hFirst hBefore)
  have hRight := List.length_pos_iff.mpr (words_ne_nil hLast hAfter)
  omega

end Words
