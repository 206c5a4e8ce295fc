import MemMgr.ReclaimConfig

/-! The score and the ratios of a memory group, in memory and in the kernel. After a write they are
read again, and what the kernel holds wins. -/
namespace MemMgr

/-- Without ratios where their allocation has failed. -/
structure Memcg where
  score : Int
  reclaimRatios : Option ReclaimRatios
  deriving DecidableEq

/-- The files of a group that are written. -/
inductive MemcgFile where
  | appScore
  | zswapdSingleMemcgParam
  deriving DecidableEq

/-- How the kernel meets one request: whether a file can be written, and what the second then shows
if it can be read. -/
structure MemcgKernel where
  writeToFile : MemcgFile → Bool
  content : Option (List Char)

def ReclaimRatios.numsToString (ratios : ReclaimRatios) : String :=
  toString ratios.mem2zramRatio ++ " " ++ toString ratios.zram2ufsRatio ++ " " ++
    toString ratios.refaultThreshold

/-- What a request comes to: its result, the group after it, and the writes it has tried. -/
structure MemcgOutcome where
  ret : Bool
  memcg : Memcg
  writes : List (MemcgFile × String)
  deriving DecidableEq

namespace Memcg

def scoreLabel : List Char := "memcg score:".toList

def mem2zramLabel : List Char := "memcg ub_mem2zram_ratio:".toList

def zram2ufsLabel : List Char := "memcg ub_zram2ufs_ratio:".toList

def refaultLabel : List Char := "memcg refault_threshold:".toList

/-- One field of the pattern, with the blanks behind it. -/
def matchField (label text : List Char) : Option (List Char × List Char) :=
  (matchDigits label text).map fun found => (found.1, found.2.dropWhile isspace)

/-- `ReadScoreAndReclaimRatiosFromKernel_`. The pattern has to match the whole file. -/
def readScoreAndReclaimRatiosFromKernel (content : Option (List Char)) : Option (Int × ReclaimRatios) := do
  let (scoreText, text) ← matchField scoreLabel (replaceNewlines false (← content))
  let (mem2zramText, text) ← matchField mem2zramLabel text
  let (zram2ufsText, text) ← matchField zram2ufsLabel text
  let (refaultText, text) ← matchField refaultLabel text
  if text ≠ [] then none
  else
    let score ← stoi scoreText
    let mem2zramRatio ← stoi mem2zramText
    let zram2ufsRatio ← stoi zram2ufsText
    let refaultThreshold ← stoi refaultText
    some (score, ⟨mem2zramRatio.toNat, zram2ufsRatio.toNat, refaultThreshold.toNat⟩)

def setScoreAndReclaimRatiosToKernel (kernel : MemcgKernel) (memcg : Memcg) : MemcgOutcome :=
  match memcg.reclaimRatios with
  | none => ⟨false, memcg, []⟩
  | some ratios =>
      let ret := kernel.writeToFile .appScore
      let writes := [(MemcgFile.appScore, toString memcg.score)]
      let writes :=
        if ret then writes ++ [(MemcgFile.zswapdSingleMemcgParam, ratios.numsToString)] else writes
      let ret := ret && kernel.writeToFile .zswapdSingleMemcgParam
      match readScoreAndReclaimRatiosFromKernel kernel.content with
      | none => ⟨ret, memcg, writes⟩
      | some (score, kernelRatios) =>
          let ret := ret && memcg.score = score
          let ret := ret && ratios.mem2zramRatio = kernelRatios.mem2zramRatio
          let ret := ret && ratios.zram2ufsRatio = kernelRatios.zram2ufsRatio
          let ret := ret && ratios.refaultThreshold = kernelRatios.refaultThreshold
          -- if values of mem and kernel not matched, using kernel values
          if ret = false then ⟨ret, ⟨score, some kernelRatios⟩, writes⟩ else ⟨ret, memcg, writes⟩

variable {kernel : MemcgKernel} {memcg : Memcg} {score kernelScore : Int}
variable {ratios kernelRatios : ReclaimRatios}

/-- Whether all goes as asked for. -/
def asRequested (kernel : MemcgKernel) (score kernelScore : Int) (ratios kernelRatios : ReclaimRatios) :
    Bool :=
  kernel.writeToFile .appScore && kernel.writeToFile .zswapdSingleMemcgParam && score = kernelScore &&
    ratios.mem2zramRatio = kernelRatios.mem2zramRatio &&
    ratios.zram2ufsRatio = kernelRatios.zram2ufsRatio &&
    ratios.refaultThreshold = kernelRatios.refaultThreshold

/-- What was asked for is in place when both writes succeeded, and the kernel holds these values. -/
theorem asRequested_iff : asRequested kernel score kernelScore ratios kernelRatios = true ↔
    kernel.writeToFile .appScore = true ∧ kernel.writeToFile .zswapdSingleMemcgParam = true ∧
      kernelScore = score ∧ kernelRatios = ratios := by
  obtain ⟨mem2zramRatio, zram2ufsRatio, refaultThreshold⟩ := ratios
  obtain ⟨mem2zramRatio', zram2ufsRatio', refaultThreshold'⟩ := kernelRatios
  simp only [asRequested, Bool.and_eq_true, decide_eq_true_eq, ReclaimRatios.mk.injEq]
  constructor
  · rintro ⟨⟨⟨⟨⟨hScore, hParam⟩, rfl⟩, rfl⟩, rfl⟩, rfl⟩
    exact ⟨hScore, hParam, rfl, rfl, rfl, rfl⟩
  · rintro ⟨hScore, hParam, rfl, rfl, rfl, rfl⟩
    exact ⟨⟨⟨⟨⟨hScore, hParam⟩, rfl⟩, rfl⟩, rfl⟩, rfl⟩

/-- The group after a read, with the values of the kernel unless they are those of memory. -/
theorem set_of_read (hRead : readScoreAndReclaimRatiosFromKernel kernel.content =
    some (kernelScore, kernelRatios)) :
    (setScoreAndReclaimRatiosToKernel kernel ⟨score, some ratios⟩).ret =
        asRequested kernel score kernelScore ratios kernelRatios ∧
      (setScoreAndReclaimRatiosToKernel kernel ⟨score, some ratios⟩).memcg =
        if asRequested kernel score kernelScore ratios kernelRatios = false then
          ⟨kernelScore, some kernelRatios⟩
        else ⟨score, some ratios⟩ := by
  rw [setScoreAndReclaimRatiosToKernel]
  dsimp only
  rw [hRead]
  dsimp only
  split
  · rename_i hNot
    exact ⟨rfl, (if_pos hNot).symm⟩
  · rename_i hAll
    exact ⟨rfl, (if_neg hAll).symm⟩

/-- Either way the group holds what was read. -/
theorem memcg_of_read (hRead : readScoreAndReclaimRatiosFromKernel kernel.content =
    some (kernelScore, kernelRatios)) :
    (setScoreAndReclaimRatiosToKernel kernel ⟨score, some ratios⟩).memcg =
      ⟨kernelScore, some kernelRatios⟩ := by
  rw [(set_of_read hRead).2]
  cases hAll : asRequested kernel score kernelScore ratios kernelRatios with
  | false => rfl
  | true =>
      obtain ⟨-, -, rfl, rfl⟩ := asRequested_iff.mp hAll
      rfl

/-- The ratios are written only behind a score that could be. -/
theorem writes_set : (setScoreAndReclaimRatiosToKernel kernel ⟨score, some ratios⟩).writes =
    (.appScore, toString score) ::
      if kernel.writeToFile .appScore then [(.zswapdSingleMemcgParam, ratios.numsToString)] else [] := by
  rw [setScoreAndReclaimRatiosToKernel]
  dsimp only
  split
  · split_ifs <;> rfl
  · split_ifs <;> rfl

/-- A line of the file. -/
def fieldLine (label : List Char) (value : Nat) (rest : List Char) : List Char :=
  label ++ ([' '] ++ (value.repr.toList ++ ('\n' :: rest)))

/-- What the kernel shows of a score and of ratios. -/
def paramContent (score : Nat) (ratios : ReclaimRatios) : List Char :=
  fieldLine scoreLabel score (fieldLine mem2zramLabel ratios.mem2zramRatio
    (fieldLine zram2ufsLabel ratios.zram2ufsRatio (fieldLine refaultLabel ratios.refaultThreshold [])))

/-- A text that does not begin with a line break is read the same from the start of a line as from
within one. -/
theorem replaceNewlines_begun {text : List Char} (hText : ∀ c ∈ text.head?, c ≠ '\n') :
    replaceNewlines true text = replaceNewlines false text := by
  cases text with
  | nil => rfl
  | cons c rest => rw [replaceNewlines, replaceNewlines, if_neg (hText c rfl), if_neg (hText c rfl)]

/-- A line is matched with its value, and the next one is left. -/
theorem matchField_fieldLine {label rest : List Char} {value : Nat} (hLabel : '\n' ∉ label)
    (hRest : ∀ c ∈ (replaceNewlines false rest).head?, isspace c = false)
    (hLine : ∀ c ∈ rest.head?, c ≠ '\n') :
    matchField label (replaceNewlines false (fieldLine label value rest)) =
      some (value.repr.toList, replaceNewlines false rest) := by
  have hFront : '\n' ∉ label ++ ([' '] ++ value.repr.toList) := by
    simp only [List.mem_append, not_or]
    exact ⟨hLabel, by decide, not_mem_repr value (by decide)⟩
  have hReplaced : replaceNewlines false (fieldLine label value rest) =
      label ++ ([' '] ++ (value.repr.toList ++ (' ' :: replaceNewlines false rest))) := by
    have hAppend := @replaceNewlines_append _ ('\n' :: rest) hFront
    rw [replaceNewlines, if_pos rfl, if_neg Bool.false_ne_true, replaceNewlines_begun hLine] at hAppend
    simpa only [fieldLine, List.append_assoc] using hAppend
  have hMatch : matchDigits label
      (label ++ ([' '] ++ (value.repr.toList ++ (' ' :: replaceNewlines false rest)))) =
        some (value.repr.toList, ' ' :: replaceNewlines false rest) :=
    matchDigits_append (by decide) (repr_ne_nil value) (repr_all_isDigit value) (by simp)
  have hBlank : (' ' :: replaceNewlines false rest).dropWhile isspace = replaceNewlines false rest := by
    rw [List.dropWhile_cons_of_pos (by decide)]
    cases hText : replaceNewlines false rest with
    | nil => rfl
    | cons c text =>
        rw [hText] at hRest
        exact List.dropWhile_cons_of_neg (by simp [hRest c rfl])
  rw [hReplaced, matchField, hMatch, Option.map_some, hBlank]

/-- Each line starts with the `m` of its label. -/
structure StartsLine (text : List Char) : Prop where
  notEnd : ∀ c ∈ text.head?, c ≠ '\n'
  notBlank : ∀ c ∈ (replaceNewlines false text).head?, isspace c = false

theorem startsLine_nil : StartsLine [] := ⟨by simp, by simp [replaceNewlines]⟩

/-- A line of a field starts with its label. -/
theorem startsLine_fieldLine {label rest : List Char} {value : Nat} (hLabel : label.head? = some 'm') :
    StartsLine (fieldLine label value rest) := by
  obtain ⟨letters, rfl⟩ : ∃ letters, label = 'm' :: letters := by
    cases label with
    | nil => cases hLabel
    | cons c letters => exact ⟨letters, congrArg (· :: letters) (Option.some.inj hLabel)⟩
  constructor
  · simp [fieldLine]
  · rw [fieldLine, List.cons_append, replaceNewlines, if_neg (by decide)]
    rintro c hHead
    obtain rfl := Option.some.inj hHead
    decide

/-- Values that an `int` can hold. -/
structure ParamsFit (score : Nat) (ratios : ReclaimRatios) : Prop where
  score : score < 2 ^ 31
  mem2zramRatio : ratios.mem2zramRatio < 2 ^ 31
  zram2ufsRatio : ratios.zram2ufsRatio < 2 ^ 31
  refaultThreshold : ratios.refaultThreshold < 2 ^ 31

/-- What the kernel shows in its form is read as it is. -/
theorem readScore_paramContent {score : Nat} (hFits : ParamsFit score ratios) :
    readScoreAndReclaimRatiosFromKernel (some (paramContent score ratios)) =
      some ((score : Int), ratios) := by
  have hField : ∀ {label rest : List Char} {value : Nat}, '\n' ∉ label → StartsLine rest →
      matchField label (replaceNewlines false (fieldLine label value rest)) =
        some (value.repr.toList, replaceNewlines false rest) :=
    fun hLabel hStarts => matchField_fieldLine hLabel hStarts.notBlank hStarts.notEnd
  simp only [readScoreAndReclaimRatiosFromKernel, paramContent, bind, Option.bind]
  rw [hField (by decide) (startsLine_fieldLine (by decide))]
  dsimp only
  rw [hField (by decide) (startsLine_fieldLine (by decide))]
  dsimp only
  rw [hField (by decide) (startsLine_fieldLine (by decide))]
  dsimp only
  rw [hField (by decide) startsLine_nil]
  dsimp only
  rw [stoi_repr hFits.score, stoi_repr hFits.mem2zramRatio, stoi_repr hFits.zram2ufsRatio,
    stoi_repr hFits.refaultThreshold]
  rfl

/-- Memory agrees with the kernel wherever the kernel can be read, and success means that what was
asked for is there. -/
structure FollowsKernel (kernel : MemcgKernel) (score : Int) (ratios : ReclaimRatios) : Prop where
  writes : (setScoreAndReclaimRatiosToKernel kernel ⟨score, some ratios⟩).writes =
    (.appScore, toString score) ::
      if kernel.writeToFile .appScore then [(.zswapdSingleMemcgParam, ratios.numsToString)] else []
  parsed : ∀ kernelScore kernelRatios,
    readScoreAndReclaimRatiosFromKernel kernel.content = some (kernelScore, kernelRatios) →
      (setScoreAndReclaimRatiosToKernel kernel ⟨score, some ratios⟩).memcg =
          ⟨kernelScore, some kernelRatios⟩ ∧
        ((setScoreAndReclaimRatiosToKernel kernel ⟨score, some ratios⟩).ret = true ↔
          kernel.writeToFile .appScore = true ∧ kernel.writeToFile .zswapdSingleMemcgParam = true ∧
            kernelScore = score ∧ kernelRatios = ratios)
  unparsed : readScoreAndReclaimRatiosFromKernel kernel.content = none →
    (setScoreAndReclaimRatiosToKernel kernel ⟨score, some ratios⟩).memcg = ⟨score, some ratios⟩ ∧
      (setScoreAndReclaimRatiosToKernel kernel ⟨score, some ratios⟩).ret =
        (kernel.writeToFile .appScore && kernel.writeToFile .zswapdSingleMemcgParam)
  /-- What the kernel shows in its form is what memory holds then. -/
  shown : ∀ (kernelScore : Nat) kernelRatios, ParamsFit kernelScore kernelRatios →
    kernel.content = some (paramContent kernelScore kernelRatios) →
      (setScoreAndReclaimRatiosToKernel kernel ⟨score, some ratios⟩).memcg =
        ⟨kernelScore, some kernelRatios⟩

/-- Memory never disagrees with a kernel that can be read, whatever has failed before. -/
theorem followsKernel (kernel : MemcgKernel) (score : Int) (ratios : ReclaimRatios) :
    FollowsKernel kernel score ratios := by
  refine ⟨writes_set, ?_, ?_, ?_⟩
  · intro kernelScore kernelRatios hRead
    refine ⟨memcg_of_read hRead, ?_⟩
    rw [(set_of_read hRead).1]
    exact asRequested_iff
  · intro hRead
    rw [setScoreAndReclaimRatiosToKernel]
    dsimp only
    rw [hRead]
    exact ⟨rfl, rfl⟩
  · intro kernelScore kernelRatios hFits hShown
    apply memcg_of_read
    rw [hShown, readScore_paramContent hFits]

/-- The kernel keeps to a score of its own, so the group takes it over and the request has failed. -/
theorem followsKernel_ownScore :
    let kernel : MemcgKernel := ⟨fun _ => true, some (paramContent 300 ⟨60, 10, 50⟩)⟩
    (setScoreAndReclaimRatiosToKernel kernel ⟨400, some ⟨60, 10, 50⟩⟩).memcg = ⟨300, some ⟨60, 10, 50⟩⟩ ∧
      (setScoreAndReclaimRatiosToKernel kernel ⟨400, some ⟨60, 10, 50⟩⟩).ret ≠ true := by
  intro kernel
  have hFits : ParamsFit 300 ⟨60, 10, 50⟩ := ⟨by decide, by decide, by decide, by decide⟩
  have hParsed := (followsKernel kernel 400 ⟨60, 10, 50⟩).parsed 300 ⟨60, 10, 50⟩
    (readScore_paramContent hFits)
  refine ⟨hParsed.1, fun hRet => ?_⟩
  have hSame : (300 : Int) = 400 := (hParsed.2.mp hRet).2.2.1
  cases hSame

end Memcg
end MemMgr
