import Mathlib.Algebra.Group.Nat.Defs
import Mathlib.Algebra.Ring.Int.Defs
import Mathlib.Data.List.TakeWhile
import MemMgr.Library.Words

/-! What the standard library makes of a text: words, pieces between delimiters, and numbers. -/
namespace MemMgr

open Words

/-- The blanks of the C locale. -/
def isspace (c : Char) : Bool :=
  c = ' ' ∨ c = '\t' ∨ c = '\n' ∨ c.toNat = 0x0b ∨ c.toNat = 0x0c ∨ c = '\r'

/-- What reading a stream into strings finds, one after the other. -/
def streamWords (content : List Char) : List (List Char) := words isspace content

/-- `KernelInterface::SplitOneLineByDelim`, which drops empty pieces. -/
def splitOneLineByDelim (input : List Char) (delim : Char) : List (List Char) :=
  words (· == delim) input

/-- A sign, and the value of the digits that follow. What stands behind them is left alone. -/
def leadingNumber (text : List Char) : Option (Bool × Nat) :=
  let (negative, digits) :=
    match text.dropWhile isspace with
    | '-' :: digits => (true, digits.takeWhile Char.isDigit)
    | '+' :: digits => (false, digits.takeWhile Char.isDigit)
    | digits => (false, digits.takeWhile Char.isDigit)
  if digits = [] then none
  else some (negative, digits.foldl (fun value digit => 10 * value + (digit.toNat - '0'.toNat)) 0)

/-- `std::stoi`; nothing where it throws. -/
def stoi (text : List Char) : Option Int :=
  match leadingNumber text with
  | none => none
  | some (negative, magnitude) =>
      let value : Int := if negative then -magnitude else magnitude
      if value < -2 ^ 31 ∨ value > 2 ^ 31 - 1 then none else some value

/-- `std::stoul`, for which a sign negates an unsigned value. -/
def stoul (text : List Char) : Option Nat :=
  match leadingNumber text with
  | none => none
  | some (negative, magnitude) =>
      if magnitude ≥ 2 ^ 64 then none
      else if negative then some ((2 ^ 64 - magnitude) % 2 ^ 64) else some magnitude

/-- Runs of line ends as single blanks, with whether a run was begun. -/
def replaceNewlines : Bool → List Char → List Char
  | _, [] => []
  | begun, c :: rest =>
      if c = '\n' then
        if begun then replaceNewlines true rest else ' ' :: replaceNewlines true rest
      else c :: replaceNewlines false rest

/-- A pattern of a label, blanks and digits at the start of a text: the digits, and what follows. -/
def matchDigits (label text : List Char) : Option (List Char × List Char) :=
  if label.isPrefixOf text then
    let number := (text.drop label.length).dropWhile isspace
    let digits := number.takeWhile Char.isDigit
    if digits = [] then none else some (digits, number.drop digits.length)
  else none

/-- `std::regex_search`: the first place of a text where a pattern starts to match. -/
def regexSearch {β : Type} (pattern : List Char → Option β) : List Char → Option β
  | [] => pattern []
  | c :: text =>
      match pattern (c :: text) with
      | some found => some found
      | none => regexSearch pattern text

theorem regexSearch_of_match {β : Type} {pattern : List Char → Option β} {text : List Char} {found : β}
    (hMatch : pattern text = some found) : regexSearch pattern text = some found := by
  cases text with
  | nil => exact hMatch
  | cons c text => rw [regexSearch, hMatch]

theorem isspace_digit {c : Char} (hDigit : c.isDigit = true) : isspace c = false := by
  rw [Char.isDigit, Bool.and_eq_true, decide_eq_true_iff, decide_eq_true_iff] at hDigit
  have hLow : 48 ≤ c.toNat := hDigit.1
  rw [isspace, decide_eq_false_iff_not]
  rintro (rfl | rfl | rfl | hIs | hIs | rfl)
  · exact absurd hLow (by decide)
  · exact absurd hLow (by decide)
  · exact absurd hLow (by decide)
  · omega
  · omega
  · exact absurd hLow (by decide)

theorem takeWhile_isDigit_append {digits rest : List Char} (hDigits : digits.all Char.isDigit = true)
    (hRest : ∀ c ∈ rest.head?, c.isDigit = false) :
    (digits ++ rest).takeWhile Char.isDigit = digits := by
  rw [List.takeWhile_append_of_pos (List.all_eq_true.mp hDigits)]
  cases rest with
  | nil => simp
  | cons c rest => rw [List.takeWhile_cons_of_neg (by simp [hRest c rfl]), List.append_nil]

/-- Digits, and what is no digit behind them. -/
theorem leadingNumber_digits_append {digits rest : List Char} (hSome : digits ≠ [])
    (hDigits : digits.all Char.isDigit = true) (hRest : ∀ c ∈ rest.head?, c.isDigit = false) :
    leadingNumber (digits ++ rest) = some (false, Nat.ofDigitChars 10 digits 0) := by
  obtain ⟨digit, others, rfl⟩ := List.exists_cons_of_ne_nil hSome
  obtain ⟨hDigit, -⟩ := Bool.and_eq_true_iff.mp (List.all_cons.symm.trans hDigits)
  have hDrop : (digit :: others ++ rest).dropWhile isspace = digit :: (others ++ rest) :=
    List.dropWhile_cons_of_neg (by simp [isspace_digit hDigit])
  have hTake := takeWhile_isDigit_append hDigits hRest
  have hMinus : digit ≠ '-' := by
    rintro rfl
    exact absurd hDigit (by decide)
  have hPlus : digit ≠ '+' := by
    rintro rfl
    exact absurd hDigit (by decide)
  rw [leadingNumber, hDrop]
  split
  rename_i negative known hParts
  have hSigned : (false, digit :: others) = (negative, known) := by
    rw [← hParts]
    split
    · rename_i hList
      exact absurd (List.cons.inj hList).1 hMinus
    · rename_i hList
      exact absurd (List.cons.inj hList).1 hPlus
    · exact congrArg (Prod.mk false) hTake.symm
  cases hSigned
  rw [if_neg hSome, Nat.ofDigitChars_eq_foldl]

theorem leadingNumber_minus_append {digits rest : List Char} (hSome : digits ≠ [])
    (hDigits : digits.all Char.isDigit = true) (hRest : ∀ c ∈ rest.head?, c.isDigit = false) :
    leadingNumber ('-' :: (digits ++ rest)) = some (true, Nat.ofDigitChars 10 digits 0) := by
  have hDrop : ('-' :: (digits ++ rest)).dropWhile isspace = '-' :: (digits ++ rest) :=
    List.dropWhile_cons_of_neg (by decide)
  rw [leadingNumber, hDrop]
  split
  rename_i negative known hParts
  have hSigned : (true, digits) = (negative, known) := by
    rw [← hParts]
    exact congrArg (Prod.mk true) (takeWhile_isDigit_append hDigits hRest).symm
  cases hSigned
  rw [if_neg hSome, Nat.ofDigitChars_eq_foldl]

theorem repr_all_isDigit (n : Nat) : n.repr.toList.all Char.isDigit = true := by
  rw [Nat.toList_repr, List.all_eq_true]
  exact fun c => Nat.isDigit_of_mem_toDigits (by decide) (by decide)

theorem repr_ne_nil (n : Nat) : n.repr.toList ≠ [] := by
  rw [Nat.toList_repr]
  exact Nat.toDigits_ne_nil

theorem ofDigitChars_repr (n : Nat) : Nat.ofDigitChars 10 n.repr.toList 0 = n := by
  rw [Nat.toList_repr, Nat.ofDigitChars_ten_toDigits]

theorem not_mem_repr (n : Nat) {c : Char} (hNot : c.isDigit = false) : c ∉ n.repr.toList := by
  intro hMem
  rw [List.all_eq_true.mp (repr_all_isDigit n) c hMem] at hNot
  cases hNot

theorem leadingNumber_repr (n : Nat) : leadingNumber n.repr.toList = some (false, n) := by
  have hNumber := @leadingNumber_digits_append _ [] (repr_ne_nil n) (repr_all_isDigit n) (by simp)
  rwa [List.append_nil, ofDigitChars_repr] at hNumber

/-- What is written of a number is read as that number. -/
theorem stoi_toString_append {value : Int} {rest : List Char} (hLow : -2 ^ 31 ≤ value)
    (hHigh : value ≤ 2 ^ 31 - 1) (hRest : ∀ c ∈ rest.head?, c.isDigit = false) :
    stoi ((toString value).toList ++ rest) = some value := by
  rw [Int.toString_eq_repr, Int.repr_eq_if]
  by_cases hSign : 0 ≤ value
  · rw [if_pos hSign, stoi,
      leadingNumber_digits_append (repr_ne_nil _) (repr_all_isDigit _) hRest, ofDigitChars_repr]
    simp only [Bool.false_eq_true, ↓reduceIte]
    rw [if_neg (by omega)]
    exact congrArg some (Int.toNat_of_nonneg hSign)
  · have hNumber := leadingNumber_minus_append (repr_ne_nil (-value).toNat) (repr_all_isDigit _) hRest
    have hText : ("-" ++ (-value).toNat.repr).toList ++ rest =
        '-' :: ((-value).toNat.repr.toList ++ rest) := by
      rw [String.toList_append, List.append_assoc]
      rfl
    rw [if_neg hSign, hText, stoi, hNumber, ofDigitChars_repr]
    simp only [↓reduceIte]
    rw [if_neg (by omega)]
    exact congrArg some (by omega)

theorem replaceNewlines_append {line rest : List Char} (hLine : '\n' ∉ line) :
    replaceNewlines false (line ++ rest) = line ++ replaceNewlines false rest := by
  induction line with
  | nil => rfl
  | cons c line ih =>
      rw [List.mem_cons, not_or] at hLine
      rw [List.cons_append, replaceNewlines, if_neg (Ne.symm hLine.1), ih hLine.2, List.cons_append]

theorem stoi_repr {value : Nat} (hFits : value < 2 ^ 31) : stoi value.repr.toList = some (value : Int) := by
  have hNumber := @stoi_toString_append value [] (by omega) (by omega) (by simp)
  rwa [List.append_nil] at hNumber

theorem stoi_repr_of_le {value : Nat} (hLarge : 2 ^ 31 ≤ value) : stoi value.repr.toList = none := by
  rw [stoi, leadingNumber_repr]
  simp only [Bool.false_eq_true, ↓reduceIte]
  exact if_pos (by omega)

/-- A number behind a label and some blanks. -/
theorem matchDigits_append {label blanks digits rest : List Char} (hBlanks : blanks.all isspace = true)
    (hSome : digits ≠ []) (hDigits : digits.all Char.isDigit = true)
    (hRest : ∀ c ∈ rest.head?, c.isDigit = false) :
    matchDigits label (label ++ (blanks ++ (digits ++ rest))) = some (digits, rest) := by
  have hPrefix : label.isPrefixOf (label ++ (blanks ++ (digits ++ rest))) = true :=
    List.isPrefixOf_iff_prefix.mpr (List.prefix_append _ _)
  have hNumber : (blanks ++ (digits ++ rest)).dropWhile isspace = digits ++ rest := by
    obtain ⟨digit, others, rfl⟩ := List.exists_cons_of_ne_nil hSome
    obtain ⟨hDigit, -⟩ := Bool.and_eq_true_iff.mp (List.all_cons.symm.trans hDigits)
    rw [List.dropWhile_append_of_pos (List.all_eq_true.mp hBlanks)]
    exact List.dropWhile_cons_of_neg (by simp [isspace_digit hDigit])
  rw [matchDigits, if_pos hPrefix, List.drop_left, hNumber]
  dsimp only
  rw [takeWhile_isDigit_append hDigits hRest, if_neg hSome, List.drop_left]

theorem stoul_repr {value : Nat} (hFits : value < 2 ^ 64) : stoul value.repr.toList = some value := by
  rw [stoul, leadingNumber_repr]
  dsimp only
  rw [if_neg (Nat.not_le.mpr hFits)]
  rfl

example : stoi [' ', '-', '1', '2', 'x'] = some (-12) := by decide

end MemMgr
