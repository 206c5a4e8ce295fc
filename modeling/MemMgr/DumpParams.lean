import Mathlib.Data.List.TakeWhile
import Mathlib.Tactic.Common
import Std.Data.ExtTreeMap

/-! The arguments of a dump: keys, each with the values behind it. -/
namespace MemMgr

open Std (ExtTreeMap)

abbrev KeyValuesMapping := ExtTreeMap String (List String)

namespace DumpParams

/-- What `ParseParams` knows between two arguments. -/
structure ParseState where
  tmpKey : String
  tmpValue : List String
  keyValuesMapping : KeyValuesMapping

def isKey (param : String) : Bool := param.toList.head? = some '-'

/-- One round of the loop. The values are given up only together with a key before them. -/
def parseParam (state : ParseState) (param : String) : ParseState :=
  if param = "" then state
  else if isKey param then
    if state.tmpKey ≠ "" then
      { tmpKey := param
        tmpValue := []
        keyValuesMapping := state.keyValuesMapping.insert state.tmpKey state.tmpValue }
    else { state with tmpKey := param }
  else { state with tmpValue := state.tmpValue ++ [param] }

/-- What is done behind the loop. -/
def finish (state : ParseState) : KeyValuesMapping :=
  if state.tmpKey ≠ "" then state.keyValuesMapping.insert state.tmpKey state.tmpValue
  else state.keyValuesMapping

def parseParams (params : List String) (keyValuesMapping : KeyValuesMapping) : KeyValuesMapping :=
  finish (params.foldl parseParam ⟨"", [], keyValuesMapping⟩)

/-- The values before the next key. -/
def leadingValues (params : List String) : List String :=
  (params.takeWhile fun param => !isKey param).filter fun param => param ≠ ""

/-- The values between the last occurrence of a key and the next key. -/
def lastValues (key : String) : List String → Option (List String)
  | [] => none
  | param :: rest =>
      (lastValues key rest).or (if isKey param ∧ param = key then some (leadingValues rest) else none)

/-- Each key has the values behind its last occurrence, and nothing else has any. -/
def ParsesByKey (params : List String) : Prop :=
  ∀ key, (parseParams params ∅)[key]? = lastValues key params

/-- The values that a key is given. The first key also has those that stand before it, unless it
comes again. -/
def givenValues (key : String) (params : List String) : Option (List String) :=
  match params.dropWhile fun param => !isKey param with
  | [] => none
  | first :: rest => (lastValues key rest).or
      (if first = key then some (leadingValues params ++ leadingValues rest) else none)

/-- No value stands before the first key, or that key comes again. -/
def FirstKeyCounts (params : List String) : Prop :=
  leadingValues params = [] ∨
    ∀ key rest, params.dropWhile (fun param => !isKey param) = key :: rest → key ∈ rest

variable {params rest values : List String} {key param tmpKey : String}
variable {keyValuesMapping : KeyValuesMapping}

/-- A key is not the empty text. -/
theorem ne_empty_of_isKey (hKey : isKey param = true) : param ≠ "" := by
  rintro rfl
  exact absurd hKey (by decide)

/-- No value stands before a key that comes first. -/
theorem leadingValues_cons_key (hKey : isKey param = true) : leadingValues (param :: rest) = [] := by
  simp [leadingValues, hKey]

theorem leadingValues_cons_value (hKey : isKey param = false) (hSome : param ≠ "") :
    leadingValues (param :: rest) = param :: leadingValues rest := by
  simp [leadingValues, hKey, hSome]

theorem leadingValues_cons_empty : leadingValues ("" :: rest) = leadingValues rest := by
  have hKey : isKey "" = false := by decide
  simp [leadingValues, hKey]

theorem lastValues_cons_of_not (hKey : isKey param = false) :
    lastValues key (param :: rest) = lastValues key rest := by
  simp [lastValues, hKey]

/-- Once there is a key, the values that follow are its own. -/
theorem finish_foldl_of_key (hKey : isKey tmpKey = true) :
    (finish (params.foldl parseParam ⟨tmpKey, values, keyValuesMapping⟩))[key]? =
      (lastValues key params).or
        (if tmpKey = key then some (values ++ leadingValues params) else keyValuesMapping[key]?) := by
  induction params generalizing tmpKey values keyValuesMapping with
  | nil =>
      rw [List.foldl_nil, finish, if_pos (ne_empty_of_isKey hKey), ExtTreeMap.getElem?_insert]
      simp [lastValues, leadingValues, Std.LawfulEqCmp.compare_eq_iff_eq]
  | cons param rest ih =>
      rw [List.foldl_cons, parseParam]
      by_cases hEmpty : param = ""
      · subst hEmpty
        rw [if_pos rfl, ih hKey, leadingValues_cons_empty, lastValues_cons_of_not (by decide)]
      · rw [if_neg hEmpty]
        cases hParam : isKey param with
        | true =>
            rw [if_pos rfl, if_pos (ne_empty_of_isKey hKey), ih hParam, leadingValues_cons_key hParam,
              lastValues, ExtTreeMap.getElem?_insert]
            simp only [Std.LawfulEqCmp.compare_eq_iff_eq, hParam, true_and, List.nil_append,
              List.append_nil, Option.or_assoc]
            by_cases hSame : param = key
            · simp [hSame]
            · simp [hSame]
        | false =>
            rw [if_neg Bool.false_ne_true, ih hKey, lastValues_cons_of_not hParam,
              leadingValues_cons_value hParam hEmpty, List.append_assoc]
            rfl

/-- Before the first key values are only gathered. -/
theorem foldl_of_no_key (hNone : ∀ param ∈ params, isKey param = false) :
    params.foldl parseParam ⟨"", values, keyValuesMapping⟩ =
      ⟨"", values ++ params.filter fun param => param ≠ "", keyValuesMapping⟩ := by
  induction params generalizing values with
  | nil => simp
  | cons param rest ih =>
      obtain ⟨hParam, hRest⟩ := List.forall_mem_cons.mp hNone
      rw [List.foldl_cons, parseParam]
      by_cases hEmpty : param = ""
      · rw [if_pos hEmpty, ih hRest, List.filter_cons_of_neg (by simp [hEmpty])]
      · rw [if_neg hEmpty, if_neg (by simp [hParam]), ih hRest,
          List.filter_cons_of_pos (by simp [hEmpty]), List.append_assoc]
        rfl

/-- Values that belong to no key are of no account. -/
theorem lastValues_append_of_no_key (hNone : ∀ param ∈ params, isKey param = false) :
    lastValues key (params ++ rest) = lastValues key rest := by
  induction params with
  | nil => rfl
  | cons param others ih =>
      obtain ⟨hParam, hOthers⟩ := List.forall_mem_cons.mp hNone
      rw [List.cons_append, lastValues_cons_of_not hParam, ih hOthers]

/-- A key has values if and only if it occurs. -/
theorem lastValues_eq_none_iff (hKey : isKey key = true) : lastValues key params = none ↔ key ∉ params := by
  induction params with
  | nil => simp [lastValues]
  | cons param rest ih =>
      rw [lastValues, Option.or_eq_none_iff, ih, List.mem_cons, not_or, and_comm]
      by_cases hSame : param = key
      · simp [hSame, hKey]
      · simp [hSame, Ne.symm hSame]

theorem isKey_takeWhile : ∀ param ∈ params.takeWhile (fun param => !isKey param), isKey param = false := by
  intro param hMem
  have hAll := List.all_eq_true.mp List.all_takeWhile param hMem
  simpa using hAll

theorem no_key_of_dropWhile (hFirst : params.dropWhile (fun param => !isKey param) = []) :
    ∀ param ∈ params, isKey param = false := by
  simpa using List.dropWhile_eq_nil_iff.mp hFirst

/-- The parameters are what stands before the first key, the key, and the rest. -/
theorem eq_append_of_first (hFirst : params.dropWhile (fun param => !isKey param) = param :: rest) :
    params = params.takeWhile (fun param => !isKey param) ++ param :: rest := by
  rw [← hFirst, List.takeWhile_append_dropWhile]

/-- The first key also has the values that stand before it. -/
theorem parseParams_of_first (hFirst : params.dropWhile (fun param => !isKey param) = param :: rest) :
    isKey param = true ∧ (parseParams params ∅)[key]? = (lastValues key rest).or
      (if param = key then some (leadingValues params ++ leadingValues rest) else none) := by
  have hKey : isKey param = true := by
    have hHead := List.head?_dropWhile_not (fun param => !isKey param) params
    rw [hFirst] at hHead
    simpa using hHead
  refine ⟨hKey, ?_⟩
  rw [parseParams]
  nth_rewrite 1 [eq_append_of_first hFirst]
  rw [List.foldl_append, foldl_of_no_key isKey_takeWhile, List.foldl_cons, parseParam,
    if_neg (ne_empty_of_isKey hKey), if_pos hKey]
  simp only [ne_eq, not_true_eq_false, ↓reduceIte, List.nil_append]
  rw [finish_foldl_of_key hKey, ExtTreeMap.getElem?_empty, leadingValues]
  rfl

/-- The last values of a key are those that the rest gives it, or else those behind the
first key. -/
theorem lastValues_of_first (hFirst : params.dropWhile (fun param => !isKey param) = param :: rest)
    (hKey : isKey param = true) : lastValues key params =
      (lastValues key rest).or (if param = key then some (leadingValues rest) else none) := by
  rw [eq_append_of_first hFirst, lastValues_append_of_no_key isKey_takeWhile, lastValues]
  simp [hKey]

/-- The map has the values that were given to a key. -/
theorem getElem?_parseParams (key : String) (params : List String) :
    (parseParams params ∅)[key]? = givenValues key params := by
  rw [givenValues]
  cases hFirst : params.dropWhile fun param => !isKey param with
  | nil =>
      rw [parseParams, foldl_of_no_key (no_key_of_dropWhile hFirst)]
      simp [finish]
  | cons first rest => exact (parseParams_of_first hFirst).2

/-- A key is given values if and only if it occurs. -/
theorem givenValues_eq_none_iff (hKey : isKey key = true) :
    givenValues key params = none ↔ key ∉ params := by
  rw [givenValues]
  cases hFirst : params.dropWhile fun param => !isKey param with
  | nil =>
      refine iff_of_true rfl fun hMem => ?_
      rw [no_key_of_dropWhile hFirst key hMem] at hKey
      cases hKey
  | cons first rest =>
      have hBefore : key ∉ params.takeWhile fun param => !isKey param := by
        intro hMem
        rw [isKey_takeWhile key hMem] at hKey
        cases hKey
      rw [eq_append_of_first hFirst, List.mem_append, or_iff_right hBefore, List.mem_cons, not_or,
        Option.or_eq_none_iff, lastValues_eq_none_iff hKey, and_comm]
      by_cases hSame : first = key
      · simp [hSame]
      · simp [hSame, Ne.symm hSame]

/-- Every value is given to its key in just the argument lists where none stands before the first
key, or where that key comes again. -/
theorem parsesByKey_iff (params : List String) : ParsesByKey params ↔ FirstKeyCounts params := by
  rw [FirstKeyCounts]
  rcases hFirst : params.dropWhile (fun param => !isKey param) with _ | ⟨param, rest⟩
  · refine ⟨fun _ => Or.inr (by simp), fun _ key => ?_⟩
    have hLast := @lastValues_append_of_no_key params [] key (no_key_of_dropWhile hFirst)
    rw [List.append_nil] at hLast
    rw [getElem?_parseParams, givenValues, hFirst, hLast]
    rfl
  · constructor
    · intro hParses
      obtain ⟨hKey, hOwn⟩ := @parseParams_of_first params rest param param hFirst
      rw [hParses param, lastValues_of_first hFirst hKey] at hOwn
      cases hAgain : lastValues param rest with
      | none =>
          rw [hAgain] at hOwn
          exact Or.inl (by simpa using hOwn)
      | some again =>
          refine Or.inr fun key others hCons => ?_
          cases hCons
          by_contra hNot
          rw [(lastValues_eq_none_iff hKey).mpr hNot] at hAgain
          cases hAgain
    · intro hCounts key
      obtain ⟨hKey, hOwn⟩ := @parseParams_of_first params rest key param hFirst
      rw [hOwn, lastValues_of_first hFirst hKey]
      by_cases hSame : param = key
      · subst hSame
        rcases hCounts with hLeading | hAgain
        · rw [hLeading, List.nil_append]
        · have hSome : lastValues param rest ≠ none := fun hNone =>
            (lastValues_eq_none_iff hKey).mp hNone (hAgain param rest rfl)
          obtain ⟨again, hValues⟩ := Option.ne_none_iff_exists'.mp hSome
          rw [hValues]
          rfl
      · rw [if_neg hSame, if_neg hSame]

/-- A value before the only key is given to it. -/
theorem not_parsesByKey : ¬ ParsesByKey ["value", "-key"] := by
  intro hParses
  exact absurd (hParses "-key") (by decide)

end DumpParams
end MemMgr
