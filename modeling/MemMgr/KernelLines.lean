import MemMgr.Library.DoWhile
import MemMgr.NandLifeController
import MemMgr.StringParsing
import Std.Data.ExtTreeMap

/-! Files of the kernel that are read line by line. What `strtok_r` finds first is used before it
is known whether there is a line at all. -/
namespace MemMgr

open Words DoWhile
open Std (ExtTreeMap)

/-- What the use of a text can go wrong with. -/
inductive TextFault where
  | nullLine
  | outOfRange
  deriving DecidableEq

abbrev Line := List Char

/-- What is copied of a content as a C string. -/
def cString (content : List Char) : List Char := content.takeWhile (· != '\x00')

/-- The results of one `strtok_r` after the other, without the null one. -/
def strtokLines (content : List Char) : List Line := words (· == '\n') (cString content)

def charAt (text : List Char) (i : Nat) : Except TextFault Char :=
  match text[i]? with
  | none => .error .outOfRange
  | some c => .ok c

/-- `std::string::substr`, which throws behind the end only. -/
def substr (text : List Char) (pos count : Nat) : Except TextFault (List Char) :=
  if pos > text.length then .error .outOfRange else .ok ((text.drop pos).take count)

/-- The first words of a stream. A string that finds none keeps what it holds. -/
def readWord (words : List (List Char)) (i : Nat) (old : List Char) : List Char := (words[i]?).getD old

/-- `atoi`; nothing where the value is undefined. -/
def atoi (text : List Char) : Option Int :=
  match leadingNumber text with
  | none => some 0
  | some _ => stoi text

/-- The loop that puts a blank in the place of each colon. -/
def blankColons (line : Line) : Except TextFault Line :=
  (List.range line.length).foldlM (fun line i => do
    let c ← charAt line i
    return if c = ':' then line.set i ' ' else line) line

/-- The loop that looks for a colon from `i` on, with the characters that are left. -/
def findColon (line : Line) : Nat → Nat → Except TextFault Nat
  | 0, i => .ok i
  | left + 1, i => do
      let c ← charAt line i
      if c = ':' then return i else findColon line left (i + 1)

/-- A length less two, as an unsigned value. -/
def lengthLessTwo (line : Line) : Nat :=
  if line.length < 2 then line.length + 2 ^ 64 - 2 else line.length - 2

/-- `ReadZswapdPressureShow`, with the content of the file if it can be read. -/
def readZswapdPressureShow (content : Option (List Char)) (result : ExtTreeMap String (List Char)) :
    Except TextFault (ExtTreeMap String (List Char)) :=
  match content with
  | none => .ok result
  | some content =>
      doWhile .nullLine (fun line result => do
        let line ← blankColons line
        let is := streamWords line
        let name := readWord is 0 []
        let value := readWord is 1 []
        return .next (result.insertIfNew (String.ofList name) value)) (strtokLines content) result

/-- The body of the loop of `ReadSwapOutKBSinceKernelBoot`, with its success and its result. -/
def swapOutLine (tagStr line : Line) (state : Bool × Nat) : Except TextFault (Turn (Bool × Nat)) := do
  let i ← findColon line line.length 0
  if i ≥ lengthLessTwo line then return .next state
  else
    let tag ← substr line 0 i
    if tag = tagStr then
      let value ← substr line (i + 1) line.length
      let sizeStr := readWord (streamWords value) 0 []
      return .stop (true, (strtoull (String.ofList sizeStr)).1)
    else return .next state

/-- `ReadSwapOutKBSinceKernelBoot`. -/
def readSwapOutKBSinceKernelBoot (content : Option (List Char)) (tagStr : Line) (ret : Nat) :
    Except TextFault (Bool × Nat) :=
  match content with
  | none => .ok (false, ret)
  | some content => doWhile .nullLine (swapOutLine tagStr) (strtokLines content) (false, ret)

/-- What `ParseMeminfo` knows between two lines. -/
structure MeminfoItem where
  name : List Char
  value : List Char
  findTotalMem : Bool

/-- The body of the loop of `ParseMeminfo`. -/
def meminfoLine (itemName line : Line) (item : MeminfoItem) : Except TextFault (Turn MeminfoItem) := do
  let line ← blankColons line
  let is := streamWords line
  let name := readWord is 0 item.name
  let value := readWord is 1 item.value
  if name = itemName then return .stop ⟨name, value, true⟩ else return .next ⟨name, value, false⟩

/-- `ParseMeminfo`. -/
def parseMeminfo (content : List Char) (itemName : Line) : Except TextFault (Option Int) := do
  let item ← doWhile .nullLine (meminfoLine itemName) (strtokLines content) ⟨[], [], false⟩
  if !item.findTotalMem then return some (-1)
  else return atoi (item.value.filter Char.isDigit)

/-- A line at which `ReadSwapOutKBSinceKernelBoot` stops: one that has the tag before its first
colon, and behind the colon two characters at least, or one that has no second character. -/
def stopsAt (tagStr line : Line) : Bool :=
  line.takeWhile (· != ':') = tagStr ∧ (line.length < 2 ∨ tagStr.length + 2 < line.length)

/-- The first word behind the first colon of a line that has the tag before it. -/
def valueWord (tagStr line : Line) : List Char :=
  readWord (streamWords (line.drop (tagStr.length + 1))) 0 []

/-- The lines of a file. -/
def fileLines (content : List Char) : List Line := words (· == '\n') content

/-- The number that a word of digits makes. -/
def decimalNumber (word : List Char) : Option Nat :=
  if word ≠ [] ∧ word.all Char.isDigit then some (Nat.ofDigitChars 10 word 0) else none

/-- The number of a line that has the tag before its first colon and then a decimal number. -/
def swapOutNumber (tagStr line : Line) : Option Nat :=
  if line.takeWhile (· != ':') = tagStr ∧ ':' ∈ line then decimalNumber (valueWord tagStr line)
  else none

/-- Success comes with the number of the first line that has one, and with no such line there is
none. -/
def ReadsSwapOut (content : List Char) (tagStr : Line) : Prop :=
  ∀ ret, readSwapOutKBSinceKernelBoot (some content) tagStr ret =
    .ok (match (fileLines content).findSome? (swapOutNumber tagStr) with
      | none => (false, ret)
      | some number => (true, number))

/-- Files that are read as they are meant to be. -/
inductive SwapOutLine (content : List Char) (tagStr : Line) : Prop where
  /-- There are lines, the search stops at none of them, and none has a number. -/
  | nothing : strtokLines content ≠ [] → (strtokLines content).find? (stopsAt tagStr) = none →
      (fileLines content).findSome? (swapOutNumber tagStr) = none → SwapOutLine content tagStr
  /-- The line at which the search stops is more than the tag, and what stands behind its colon
  starts with the number of the first line that has one. -/
  | spelled (line : Line) (number : Nat) :
      (strtokLines content).find? (stopsAt tagStr) = some line → line ≠ tagStr →
      (fileLines content).findSome? (swapOutNumber tagStr) = some number →
      (strtoull (String.ofList (valueWord tagStr line))).1 = number → SwapOutLine content tagStr

/-- No line that is not there is used, and no character that is not there. -/
structure LineLoopsSafe (content : List Char) (tagStr itemName : Line)
    (result : ExtTreeMap String (List Char)) : Prop where
  readZswapdPressureShow : ∃ r, readZswapdPressureShow (some content) result = .ok r
  readSwapOut : ∀ ret, ∃ r, readSwapOutKBSinceKernelBoot (some content) tagStr ret = .ok r
  parseMeminfo : ∃ r, parseMeminfo content itemName = .ok r

variable {content : List Char} {line tagStr itemName : Line}

theorem charAt_of_lt {text : List Char} {i : Nat} (hLt : i < text.length) :
    charAt text i = .ok text[i] := by
  rw [charAt, List.getElem?_eq_getElem hLt]

/-- The rounds of the loop before the `n`-th leave what stands behind as it was. -/
theorem blankColons_rounds {text : Line} (n : Nat) (hLe : n ≤ text.length) :
    (List.range n).foldlM (fun line i => do
      let c ← charAt line i
      return if c = ':' then line.set i ' ' else line) text =
    (.ok ((text.take n).map (fun c => if c = ':' then ' ' else c) ++ text.drop n) :
      Except TextFault Line) := by
  induction n with
  | zero => simp [pure, Except.pure]
  | succ n ih =>
      rw [List.range_succ, List.foldlM_append, ih (by omega)]
      have hLength : ((text.take n).map fun c => if c = ':' then ' ' else c).length = n := by
        rw [List.length_map, List.length_take]
        omega
      have hDrop : text.drop n = text[n] :: text.drop (n + 1) := List.drop_eq_getElem_cons (by omega)
      have hAt : charAt ((text.take n).map (fun c => if c = ':' then ' ' else c) ++ text.drop n) n =
          .ok text[n] := by
        rw [charAt, List.getElem?_append_right (by omega), hLength, hDrop, Nat.sub_self]
        rfl
      have hTake : text.take (n + 1) = text.take n ++ [text[n]] := List.take_succ_eq_append_getElem (by omega)
      simp only [List.foldlM_cons, List.foldlM_nil, bind, Except.bind, hAt, pure, Except.pure]
      rw [hTake, List.map_append, List.append_assoc]
      by_cases hColon : text[n] = ':'
      · rw [if_pos hColon, List.set_append_right _ _ (by omega), hLength, hDrop, Nat.sub_self]
        simp [hColon]
      · rw [if_neg hColon, hDrop]
        simp [hColon]

/-- The loop over the line replaces every colon by a blank, and never reads past the end. -/
theorem blankColons_eq (line : Line) :
    blankColons line = .ok (line.map fun c => if c = ':' then ' ' else c) := by
  rw [blankColons, blankColons_rounds line.length (Nat.le_refl _)]
  simp

/-- From any position, the search stops at the next colon or at the end. -/
theorem findColon_from {text : Line} {left i : Nat} (hLeft : i + left = text.length) :
    findColon text left i = .ok (i + ((text.drop i).takeWhile (· != ':')).length) := by
  induction left generalizing i with
  | zero =>
      rw [findColon, List.drop_eq_nil_of_le (by omega)]
      rfl
  | succ left ih =>
      have hLt : i < text.length := by omega
      rw [findColon, charAt_of_lt hLt, List.drop_eq_getElem_cons hLt]
      simp only [bind, Except.bind]
      by_cases hColon : text[i] = ':'
      · rw [if_pos hColon, List.takeWhile_cons_of_neg (by simp [hColon])]
        rfl
      · rw [if_neg hColon, List.takeWhile_cons_of_pos (by simp [hColon]), ih (by omega), List.length_cons]
        congr 1
        omega

/-- The loop finds the end of what stands before the first colon. -/
theorem findColon_eq (line : Line) :
    findColon line line.length 0 = .ok (line.takeWhile (· != ':')).length := by
  rw [findColon_from (Nat.zero_add _), List.drop_zero, Nat.zero_add]

/-- Within the text, `substr` is what its name says. -/
theorem substr_of_le {text : List Char} {pos : Nat} (hLe : pos ≤ text.length) (count : Nat) :
    substr text pos count = .ok ((text.drop pos).take count) := by
  rw [substr, if_neg (Nat.not_lt.mpr hLe)]

/-- A round of the loop, with what stands before the first colon. -/
theorem swapOutLine_eq (state : Bool × Nat) : swapOutLine tagStr line state =
    if (line.takeWhile (· != ':')).length ≥ lengthLessTwo line then .ok (.next state)
    else if line.takeWhile (· != ':') = tagStr then do
      let value ← substr line ((line.takeWhile (· != ':')).length + 1) line.length
      return .stop (true, (strtoull (String.ofList (readWord (streamWords value) 0 []))).1)
    else .ok (.next state) := by
  have hTag : substr line 0 (line.takeWhile (· != ':')).length = .ok (line.takeWhile (· != ':')) := by
    rw [substr_of_le (Nat.zero_le _), List.drop_zero]
    exact congrArg Except.ok (List.prefix_iff_eq_take.mp (List.takeWhile_prefix _)).symm
  rw [swapOutLine, findColon_eq]
  simp only [bind, Except.bind, pure, Except.pure, hTag]

/-- What becomes of the line at which the loop stops. -/
def swapOutStop (tagStr line : Line) (_ : Bool × Nat) : Except TextFault (Bool × Nat) :=
  if line = tagStr then .error .outOfRange
  else .ok (true, (strtoull (String.ofList (valueWord tagStr line))).1)

/-- The tag of a line is no longer than the line. -/
theorem length_takeWhile_le : (line.takeWhile (· != ':')).length ≤ line.length :=
  (List.takeWhile_sublist _).length_le

/-- A line without the tag leaves the value as it is. -/
theorem swapOutLine_of_skips (state : Bool × Nat) (hSkip : stopsAt tagStr line = false) :
    swapOutLine tagStr line state = .ok (.next state) := by
  rw [swapOutLine_eq]
  split
  · rfl
  · rename_i hLong
    rw [if_neg]
    intro hTag
    rw [stopsAt, decide_eq_false_iff_not, not_and] at hSkip
    have hShort := hSkip hTag
    rw [hTag, lengthLessTwo] at hLong
    split at hLong
    · omega
    · omega

/-- The first line with the tag ends the loop. -/
theorem swapOutLine_of_stops (state : Bool × Nat) (hStop : stopsAt tagStr line = true) :
    swapOutLine tagStr line state = (swapOutStop tagStr line state).map Turn.stop := by
  rw [stopsAt, decide_eq_true_iff] at hStop
  obtain ⟨hTag, hLength⟩ := hStop
  have hBefore : tagStr.length ≤ line.length := hTag ▸ length_takeWhile_le
  have hLong : ¬ tagStr.length ≥ lengthLessTwo line := by
    rw [lengthLessTwo]
    split
    · omega
    · omega
  rw [swapOutLine_eq, hTag, if_neg hLong, if_pos rfl, swapOutStop]
  by_cases hLone : line = tagStr
  · rw [if_pos hLone, hLone, substr, if_pos (Nat.lt_succ_self _)]
    rfl
  · rw [if_neg hLone]
    have hColon : tagStr.length + 1 ≤ line.length := by
      rcases Nat.lt_or_eq_of_le hBefore with hLt | hEq
      · exact hLt
      · refine absurd ?_ hLone
        rw [← hTag] at hEq ⊢
        exact ((List.takeWhile_sublist _).eq_of_length hEq).symm
    rw [substr_of_le hColon, List.take_of_length_le (by simp)]
    rfl

/-- A file without a line is read through a null pointer. -/
theorem readSwapOutKBSinceKernelBoot_nil {ret : Nat} (hNone : strtokLines content = []) :
    readSwapOutKBSinceKernelBoot (some content) tagStr ret = .error .nullLine := by
  rw [readSwapOutKBSinceKernelBoot, hNone]
  rfl

/-- The first line at which the loop stops decides. -/
theorem readSwapOutKBSinceKernelBoot_eq {ret : Nat} (hSome : strtokLines content ≠ []) :
    readSwapOutKBSinceKernelBoot (some content) tagStr ret =
      match (strtokLines content).find? (stopsAt tagStr) with
      | none => .ok (false, ret)
      | some line => swapOutStop tagStr line (false, ret) := by
  rw [readSwapOutKBSinceKernelBoot, doWhile_find (fun line => @swapOutLine_of_skips line tagStr)
    (fun line => @swapOutLine_of_stops line tagStr) hSome]
  cases (strtokLines content).find? (stopsAt tagStr) with
  | none => rfl
  | some line => rfl

/-- The read is defined when the file has a line, and the line that stops the loop is longer
than the tag. -/
theorem readSwapOut_ok_iff {ret : Nat} :
    (∃ r, readSwapOutKBSinceKernelBoot (some content) tagStr ret = .ok r) ↔
      strtokLines content ≠ [] ∧
        ∀ line ∈ (strtokLines content).find? (stopsAt tagStr), line ≠ tagStr := by
  by_cases hNone : strtokLines content = []
  · simp [readSwapOutKBSinceKernelBoot_nil hNone, hNone]
  · rw [readSwapOutKBSinceKernelBoot_eq hNone, and_iff_right hNone]
    cases (strtokLines content).find? (stopsAt tagStr) with
    | none => simp
    | some line =>
        simp only [swapOutStop, Option.mem_some_iff, forall_eq']
        by_cases hLone : line = tagStr
        · simp [hLone]
        · simp [hLone]

/-- The number read is the number of the file in just the files where the first line of the tag
with more than one character behind its colon spells it. -/
theorem readsSwapOut_iff (content : List Char) (tagStr : Line) :
    ReadsSwapOut content tagStr ↔ SwapOutLine content tagStr := by
  constructor
  · intro hReads
    obtain ⟨hSome, hLone⟩ := readSwapOut_ok_iff.mp ⟨_, hReads 0⟩
    have hZero := hReads 0
    rw [readSwapOutKBSinceKernelBoot_eq hSome] at hZero
    cases hFind : (strtokLines content).find? (stopsAt tagStr) with
    | none =>
        rw [hFind] at hZero
        cases hNumber : (fileLines content).findSome? (swapOutNumber tagStr) with
        | none => exact .nothing hSome hFind hNumber
        | some number => simp [hNumber] at hZero
    | some line =>
        rw [hFind] at hZero
        simp only [swapOutStop, if_neg (hLone line hFind)] at hZero
        cases hNumber : (fileLines content).findSome? (swapOutNumber tagStr) with
        | none => simp [hNumber] at hZero
        | some number =>
            simp only [hNumber, Except.ok.injEq, Prod.mk.injEq, true_and] at hZero
            exact .spelled line number hFind (hLone line hFind) hNumber hZero
  · intro hLine ret
    cases hLine with
    | nothing hSome hFind hNumber => rw [readSwapOutKBSinceKernelBoot_eq hSome, hFind, hNumber]
    | spelled line number hFind hLone hNumber hValue =>
        have hSome : strtokLines content ≠ [] := List.ne_nil_of_mem (List.mem_of_find?_eq_some hFind)
        rw [readSwapOutKBSinceKernelBoot_eq hSome, hFind, hNumber]
        dsimp only
        rw [swapOutStop, if_neg hLone, hValue]

/-- A digit is no blank. -/
theorem isSpace_digit {c : Char} (hDigit : c.isDigit = true) : isSpace c = false := by
  rw [Char.isDigit, Bool.and_eq_true, decide_eq_true_iff, decide_eq_true_iff] at hDigit
  have hLow : 48 ≤ c.toNat := hDigit.1
  rw [isSpace, decide_eq_false_iff_not]
  simp only [List.mem_cons, List.not_mem_nil, or_false]
  omega

/-- A number that fits is what it spells. -/
theorem strtoull_of_decimalNumber {word : List Char} {number : Nat}
    (hNumber : decimalNumber word = some number) (hFits : number ≤ ullongMax) :
    (strtoull (String.ofList word)).1 = number := by
  rw [decimalNumber] at hNumber
  split at hNumber
  · rename_i hWord
    obtain ⟨hSome, hDigits⟩ := hWord
    cases hNumber
    obtain ⟨digit, rest, rfl⟩ := List.exists_cons_of_ne_nil hSome
    obtain ⟨hDigit, -⟩ := Bool.and_eq_true_iff.mp (List.all_cons.symm.trans hDigits)
    have hTake : (digit :: rest).takeWhile Char.isDigit = digit :: rest :=
      List.takeWhile_eq_self_iff.mpr (List.all_eq_true.mp hDigits)
    have hDrop : (digit :: rest).dropWhile isSpace = digit :: rest :=
      List.dropWhile_cons_of_neg (by simp [isSpace_digit hDigit])
    have hValue : (digit :: rest).foldl (fun value digit => 10 * value + (digit.toNat - 48)) 0 =
        Nat.ofDigitChars 10 (digit :: rest) 0 := Nat.ofDigitChars_eq_foldl.symm
    rw [strtoull, String.toList_ofList, hDrop]
    split
    · rename_i hList
      exact absurd ((List.cons.inj hList).1 ▸ hDigit) (by decide)
    · rename_i hList
      exact absurd ((List.cons.inj hList).1 ▸ hDigit) (by decide)
    · dsimp only
      rw [hTake, hValue, if_neg (Nat.not_lt.mpr hFits)]
      rfl
  · cases hNumber

/-- The line is found where the search stops at the first line that has a number, and the
number fits. -/
theorem swapOutLine_of_number {number : Nat}
    (hFind : (strtokLines content).find? (stopsAt tagStr) = some line)
    (hFirst : (fileLines content).findSome? (swapOutNumber tagStr) = swapOutNumber tagStr line)
    (hNumber : swapOutNumber tagStr line = some number) (hFits : number ≤ ullongMax) :
    SwapOutLine content tagStr := by
  rw [hNumber] at hFirst
  rw [swapOutNumber] at hNumber
  split at hNumber
  · rename_i hNamed
    refine .spelled line number hFind (fun hLone => ?_) hFirst (strtoull_of_decimalNumber hNumber hFits)
    have hMem : ':' ∈ line.takeWhile (· != ':') := by
      rw [hNamed.1, ← hLone]
      exact hNamed.2
    exact absurd (List.all_eq_true.mp List.all_takeWhile _ hMem) (by decide)
  · cases hNumber

/-- A file without a line, a number of one digit, and a value that is no number. -/
theorem not_readsSwapOut : ¬ ReadsSwapOut [] "Out".toList ∧ ¬ ReadsSwapOut "Out:5".toList "Out".toList ∧
    ¬ ReadsSwapOut "Out: kB".toList "Out".toList := by
  refine ⟨fun hReads => ?_, fun hReads => ?_, fun hReads => ?_⟩
  · exact absurd (hReads 0) (by decide)
  · exact absurd (hReads 0) (by decide)
  · exact absurd (hReads 0) (by decide)

/-- The pressure of zswapd is read without a fault when the file has a line. -/
theorem readZswapdPressureShow_ok_iff {result : ExtTreeMap String (List Char)} :
    (∃ r, readZswapdPressureShow (some content) result = .ok r) ↔ strtokLines content ≠ [] := by
  refine doWhile_ok_iff fun line result => ?_
  rw [blankColons_eq]
  exact ⟨_, rfl⟩

/-- An item of `/proc/meminfo` is read without a fault when the file has a line. -/
theorem parseMeminfo_ok_iff :
    (∃ r, parseMeminfo content itemName = .ok r) ↔ strtokLines content ≠ [] := by
  have hLoop : (∃ item, doWhile .nullLine (meminfoLine itemName) (strtokLines content)
      ⟨[], [], false⟩ = .ok item) ↔ strtokLines content ≠ [] := by
    refine doWhile_ok_iff fun line item => ?_
    rw [meminfoLine, blankColons_eq]
    simp only [bind, Except.bind, pure, Except.pure]
    split
    · exact ⟨_, rfl⟩
    · exact ⟨_, rfl⟩
  rw [← hLoop, parseMeminfo]
  cases doWhile .nullLine (meminfoLine itemName) (strtokLines content) ⟨[], [], false⟩ with
  | error fault => simp [bind, Except.bind]
  | ok item =>
      simp only [bind, Except.bind, pure, Except.pure, Except.ok.injEq, exists_eq', iff_true]
      split
      · exact ⟨_, rfl⟩
      · exact ⟨_, rfl⟩

/-- The loops are safe on just the files with a line, where a line that is nothing but the tag does
not come first among those at which the search for the tag stops. -/
theorem lineLoopsSafe_iff (content : List Char) (tagStr itemName : Line)
    (result : ExtTreeMap String (List Char)) :
    LineLoopsSafe content tagStr itemName result ↔
      strtokLines content ≠ [] ∧
        ∀ line ∈ (strtokLines content).find? (stopsAt tagStr), line ≠ tagStr := by
  constructor
  · intro hSafe
    exact readSwapOut_ok_iff.mp (hSafe.readSwapOut 0)
  · intro hLines
    exact
      { readZswapdPressureShow := readZswapdPressureShow_ok_iff.mpr hLines.1
        readSwapOut := fun _ => readSwapOut_ok_iff.mpr hLines
        parseMeminfo := parseMeminfo_ok_iff.mpr hLines.1 }

/-- A file without a line, and one whose first line is nothing but the tag. -/
theorem not_lineLoopsSafe : ¬ LineLoopsSafe ['\n'] ['T'] ['M'] ∅ ∧
    ¬ LineLoopsSafe ['T', '\n'] ['T'] ['M'] ∅ := by
  refine ⟨fun hSafe => ?_, fun hSafe => ?_⟩
  · obtain ⟨r, hRead⟩ := hSafe.readSwapOut 0
    have hFault : readSwapOutKBSinceKernelBoot (some ['\n']) ['T'] 0 = .error .nullLine := by decide
    cases hFault.symm.trans hRead
  · obtain ⟨r, hRead⟩ := hSafe.readSwapOut 0
    have hFault : readSwapOutKBSinceKernelBoot (some ['T', '\n']) ['T'] 0 = .error .outOfRange := by
      decide
    cases hFault.symm.trans hRead

end MemMgr
