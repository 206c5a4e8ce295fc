import MemMgr.ConfigSections

/-! The buffer sizes that are handed to the kernel. They are configured in megabytes and checked
against the memory of the machine, which the kernel tells in kilobytes. -/
namespace MemMgr

structure AvailBufferManager where
  availBuffer : Nat
  minAvailBuffer : Nat
  highAvailBuffer : Nat
  swapReserve : Nat
  memTotal : Nat
  deriving DecidableEq

namespace AvailBufferManager

def memTotalLabel : List Char := "MemTotal:".toList

def kilobyteUnit : List Char := " kB".toList

/-- The pattern of `UpdateMemTotalFromKernel` at the start of a text. -/
def matchMemTotal (text : List Char) : Option (List Char) :=
  match matchDigits memTotalLabel text with
  | none => none
  | some (digits, rest) => if kilobyteUnit.isPrefixOf rest then some digits else none

/-- With the content of `/proc/meminfo` if it can be read. -/
def updateMemTotalFromKernel (content : Option (List Char)) (manager : AvailBufferManager) :
    AvailBufferManager :=
  match content with
  | none => manager
  | some content =>
      match regexSearch matchMemTotal (replaceNewlines false content) with
      | none => manager
      | some digits =>
          match stoi digits with
          | none => manager
          | some memTotal => { manager with memTotal := memTotal.toNat }

def checkAvailBuffer (config : AvailBufferConfig) (manager : AvailBufferManager) : Bool :=
  if config.availBuffer > manager.memTotal ∨ config.minAvailBuffer > manager.memTotal ∨
      config.highAvailBuffer > manager.memTotal ∨ config.swapReserve > manager.memTotal then false
  else if config.availBuffer < config.minAvailBuffer ∨ config.availBuffer > config.highAvailBuffer then
    false
  else true

def numsToString (manager : AvailBufferManager) : String :=
  toString manager.availBuffer ++ " " ++ toString manager.minAvailBuffer ++ " " ++
    toString manager.highAvailBuffer ++ " " ++ toString manager.swapReserve

/-- With whether the file of the kernel can be written, and what is written to it if anything is. -/
def setAvailBuffer (writeToFile : Bool) (config : AvailBufferConfig) (manager : AvailBufferManager) :
    Bool × AvailBufferManager × Option String :=
  if !checkAvailBuffer config manager then (false, manager, none)
  else
    let manager : AvailBufferManager :=
      { availBuffer := config.availBuffer
        minAvailBuffer := config.minAvailBuffer
        highAvailBuffer := config.highAvailBuffer
        swapReserve := config.swapReserve
        memTotal := manager.memTotal }
    (writeToFile, manager, some (numsToString manager))

/-- A file of the kernel's form. -/
def meminfoContent (width memTotalKB : Nat) (rest : List Char) : List Char :=
  memTotalLabel ++ (List.replicate width ' ' ++ (memTotalKB.repr.toList ++ (kilobyteUnit ++ rest)))

/-- The manager with the total of such a file, whatever it has stored before. -/
def measured (width memTotalKB : Nat) (rest : List Char) (stored : AvailBufferConfig) :
    AvailBufferManager :=
  updateMemTotalFromKernel (some (meminfoContent width memTotalKB rest))
    ⟨stored.availBuffer, stored.minAvailBuffer, stored.highAvailBuffer, stored.swapReserve, 0⟩

def values (config : AvailBufferConfig) : List Nat :=
  [config.availBuffer, config.minAvailBuffer, config.highAvailBuffer, config.swapReserve]

def InOrder (config : AvailBufferConfig) : Prop :=
  config.minAvailBuffer ≤ config.availBuffer ∧ config.availBuffer ≤ config.highAvailBuffer

/-- What is accepted is in order and fits into the machine, and is written as it is. What is not
leaves everything alone. -/
structure SetsWithinMemory (memTotalKB : Nat) (config : AvailBufferConfig)
    (manager : AvailBufferManager) : Prop where
  fits : checkAvailBuffer config manager = true →
    InOrder config ∧ ∀ value ∈ values config, kbPerMb * value ≤ memTotalKB
  rejected : checkAvailBuffer config manager = false → ∀ writeToFile,
    setAvailBuffer writeToFile config manager = (false, manager, none)
  accepted : checkAvailBuffer config manager = true → ∀ writeToFile,
    setAvailBuffer writeToFile config manager =
      (writeToFile, ⟨config.availBuffer, config.minAvailBuffer, config.highAvailBuffer,
        config.swapReserve, manager.memTotal⟩,
        some (String.intercalate " " ((values config).map toString)))

/-- The total is too large to be read, or the configuration is out of order, or has a value beyond
the number of kilobytes, or no value beyond the number of megabytes. -/
def UnitsTellApart (memTotalKB : Nat) (config : AvailBufferConfig) : Prop :=
  2 ^ 31 ≤ memTotalKB ∨ ¬ InOrder config ∨ (∃ value ∈ values config, memTotalKB < value) ∨
    ∀ value ∈ values config, kbPerMb * value ≤ memTotalKB

variable {rest : List Char} {width memTotalKB : Nat} {stored config : AvailBufferConfig}
variable {manager : AvailBufferManager}

/-- A configuration is accepted when its values rise in order and none exceeds the memory. -/
theorem checkAvailBuffer_iff : checkAvailBuffer config manager = true ↔
    InOrder config ∧ ∀ value ∈ values config, value ≤ manager.memTotal := by
  simp only [checkAvailBuffer, InOrder, values, List.forall_mem_cons, List.not_mem_nil, false_imp_iff,
    implies_true, and_true]
  split
  · simp only [Bool.false_eq_true, false_iff]
    omega
  · split
    · simp only [Bool.false_eq_true, false_iff]
      omega
    · simp only [true_iff]
      omega

/-- The file up to its first unit has no line end. -/
theorem not_mem_meminfo (width memTotalKB : Nat) : '\n' ∉ memTotalLabel ++
    (List.replicate width ' ' ++ (memTotalKB.repr.toList ++ kilobyteUnit)) := by
  simp only [List.mem_append, not_or]
  refine ⟨by decide, ?_, not_mem_repr memTotalKB (by decide), by decide⟩
  intro hMem
  exact absurd (List.eq_of_mem_replicate hMem) (by decide)

/-- The total stands at the front of the file. -/
theorem matchMemTotal_meminfoContent (width memTotalKB : Nat) (rest : List Char) :
    matchMemTotal (meminfoContent width memTotalKB rest) = some memTotalKB.repr.toList := by
  have hBlanks : (List.replicate width ' ').all isspace = true := by
    rw [List.all_eq_true]
    intro c hMem
    rw [List.eq_of_mem_replicate hMem]
    decide
  have hRest : ∀ c ∈ (kilobyteUnit ++ rest).head?, c.isDigit = false := by
    have hUnit : kilobyteUnit = [' ', 'k', 'B'] := by decide
    simp [hUnit]
  rw [matchMemTotal, meminfoContent,
    matchDigits_append hBlanks (repr_ne_nil memTotalKB) (repr_all_isDigit memTotalKB) hRest]
  dsimp only
  rw [if_pos (List.isPrefixOf_iff_prefix.mpr (List.prefix_append _ _))]

/-- The total of the file is kept if it is an `int`. -/
theorem measured_eq : measured width memTotalKB rest stored =
    ⟨stored.availBuffer, stored.minAvailBuffer, stored.highAvailBuffer, stored.swapReserve,
      if memTotalKB < 2 ^ 31 then memTotalKB else 0⟩ := by
  have hReplace : replaceNewlines false (meminfoContent width memTotalKB rest) =
      meminfoContent width memTotalKB (replaceNewlines false rest) := by
    have hAppend := @replaceNewlines_append _ rest (not_mem_meminfo width memTotalKB)
    simpa only [meminfoContent, List.append_assoc] using hAppend
  have hFirst : regexSearch matchMemTotal (meminfoContent width memTotalKB (replaceNewlines false rest)) =
      some memTotalKB.repr.toList :=
    regexSearch_of_match (matchMemTotal_meminfoContent width memTotalKB _)
  rw [measured, updateMemTotalFromKernel]
  dsimp only
  rw [hReplace, hFirst]
  dsimp only
  by_cases hFits : memTotalKB < 2 ^ 31
  · rw [stoi_repr hFits, if_pos hFits]
    rfl
  · rw [stoi_repr_of_le (Nat.not_lt.mp hFits), if_neg hFits]

/-- A configuration that is rejected changes nothing and writes nothing. -/
theorem setAvailBuffer_rejected (hRejected : checkAvailBuffer config manager = false) (writeToFile : Bool) :
    setAvailBuffer writeToFile config manager = (false, manager, none) := by
  rw [setAvailBuffer, hRejected]
  rfl

/-- A configuration that is accepted is stored and written, and the write decides the result. -/
theorem setAvailBuffer_accepted (hAccepted : checkAvailBuffer config manager = true) (writeToFile : Bool) :
    setAvailBuffer writeToFile config manager =
      (writeToFile, ⟨config.availBuffer, config.minAvailBuffer, config.highAvailBuffer,
        config.swapReserve, manager.memTotal⟩,
        some (String.intercalate " " ((values config).map toString))) := by
  rw [setAvailBuffer, hAccepted]
  rfl

/-- What is accepted fits into the machine for just the configurations that the units tell apart. -/
theorem setsWithinMemory_iff (width memTotalKB : Nat) (rest : List Char) (stored config : AvailBufferConfig) :
    SetsWithinMemory memTotalKB config (measured width memTotalKB rest stored) ↔
      UnitsTellApart memTotalKB config := by
  have hCheck : checkAvailBuffer config (measured width memTotalKB rest stored) = true ↔
      InOrder config ∧ ∀ value ∈ values config, value ≤ if memTotalKB < 2 ^ 31 then memTotalKB else 0 := by
    rw [checkAvailBuffer_iff, measured_eq]
  constructor
  · intro hSets
    by_cases hUnits : UnitsTellApart memTotalKB config
    · exact hUnits
    · have hApart := hUnits
      simp only [UnitsTellApart, not_or, not_exists, not_and, Nat.not_lt] at hApart
      obtain ⟨hTotal, hOrder, hBelow, hBeyond⟩ := hApart
      refine absurd (hSets.fits (hCheck.mpr ⟨Classical.not_not.mp hOrder, fun value hMem => ?_⟩)).2 hBeyond
      rw [if_pos (Nat.not_le.mp hTotal)]
      exact hBelow value hMem
  · intro hUnits
    refine ⟨fun hAccepted => ?_, setAvailBuffer_rejected, setAvailBuffer_accepted⟩
    obtain ⟨hOrder, hValues⟩ := hCheck.mp hAccepted
    refine ⟨hOrder, fun value hMem => ?_⟩
    have hValue := hValues value hMem
    rcases hUnits with hTotal | hNot | ⟨large, hLarge, hBeyond⟩ | hFits
    · rw [if_neg (Nat.not_lt.mpr hTotal), Nat.le_zero] at hValue
      simp [hValue]
    · exact absurd hOrder hNot
    · have hLow := hValues large hLarge
      split at hLow
      · omega
      · omega
    · exact hFits value hMem

/-- A machine of 4 GiB with buffers of 4 TiB. -/
theorem not_setsWithinMemory : ¬ SetsWithinMemory 4194304 ⟨4194304, 4194304, 4194304, 0⟩
    (measured 8 4194304 [] .default) := by
  intro hSets
  have hAccepted : checkAvailBuffer ⟨4194304, 4194304, 4194304, 0⟩ (measured 8 4194304 [] .default) = true := by
    rw [measured_eq]
    decide
  exact absurd ((hSets.fits hAccepted).2 4194304 (by decide)) (by decide)

end AvailBufferManager
end MemMgr
