import Std.Data.ExtTreeSet
import Mathlib.Data.List.Sort
import Mathlib.Algebra.Ring.Int.Defs
import MemMgr.Library.Budget
import MemMgr.LowMemoryKiller

/-! The purge of purgeable memory under pressure: the heap first, then shared memory,
then the subscribers. The target shrinks by what the earlier ones reported. -/
namespace MemMgr

open Std (ExtTreeSet)

inductive SystemMemoryLevel where
  | unknown
  | memoryLevelPurgeable
  | memoryLevelModerate
  | memoryLevelLow
  | memoryLevelCritical
  deriving DecidableEq

inductive PurgeableMemoryType where
  | unknown
  | purgeableHeap
  | purgeableAshmem
  | purgeableSubscriber
  | purgeableAll
  deriving DecidableEq

structure PurgeableAshmInfo where
  curAppName : String
  idWithTime : String
  minPriority : Int
  sizeKB : Int
  deriving DecidableEq

def triggerIntervalSecond : Int := 10
def memcgBasePath : String := "/dev/memcg"
def memcgPathOfUser (userId : Int) : String := memcgBasePath ++ "/" ++ toString userId

/-- A write that purges, and the memory it is counted with. -/
inductive PurgeWrite where
  | purgeHeapAll (reclaimableKB : Int)
  | purgeHeapMemcg (memcgPath : String) (sizeKB : Int)
  | purgeAshmByIdWithTime (block : PurgeableAshmInfo)
  deriving DecidableEq

def PurgeWrite.sizeKB : PurgeWrite → Int
  | .purgeHeapAll reclaimableKB => reclaimableKB
  | .purgeHeapMemcg _ sizeKB => sizeKB
  | .purgeAshmByIdWithTime block => block.sizeKB

/-- The writes of an event in order, each with its success. -/
abbrev PurgeLog := List (PurgeWrite × Bool)

/-- The memory reported for a write. -/
def reportedKB (entry : PurgeWrite × Bool) : Int := if entry.2 then entry.1.sizeKB else 0

def ashmReclaimPriorityCompare (left right : PurgeableAshmInfo) : Bool :=
  if left.minPriority ≠ right.minPriority then left.minPriority > right.minPriority
  else left.sizeKB > right.sizeKB

/-- `std::sort`, which leaves open how blocks of equal rank are arranged. -/
structure AshmSort where
  sort : List PurgeableAshmInfo → List PurgeableAshmInfo
  perm : ∀ blocks, (sort blocks).Perm blocks
  ordered : ∀ blocks, (sort blocks).Pairwise fun left right =>
    ashmReclaimPriorityCompare right left = false

/-- What is read during one event. The counters are those of `/proc/meminfo` and
`/proc/<pid>/status`, −1 where a line is missing; a memcg is read once in its turn. -/
structure PurgeableInventory where
  heapCounters : Option (Int × Int × Int)
  userIds : List Int
  memcgPids : Nat → String → Option (List Int)
  procHeapCounters : Nat → Int → Option (Int × Int)
  ashmBlocks : Option (List PurgeableAshmInfo)
  /-- Whether the write with this number succeeds. -/
  echoToPath : Nat → Bool

namespace PurgeableMemUtils

def intMax : Int := 2 ^ 31 - 1
def intMin : Int := -2 ^ 31

def getPurgeableHeapInfo (counters : Option (Int × Int × Int)) : Option Int :=
  match counters with
  | none => none
  | some (activeKB, inactiveKB, pinedKB) =>
      if activeKB < 0 ∨ inactiveKB < 0 ∨ pinedKB < 0 then none
      else if activeKB > intMax - inactiveKB ∨ activeKB + inactiveKB < intMin + pinedKB then none
      else if activeKB + inactiveKB - pinedKB ≥ 0 then some (activeKB + inactiveKB - pinedKB)
      else none

def getProcPurgeableHeapInfo (counters : Option (Int × Int)) : Option Int :=
  match counters with
  | none => none
  | some (purgSumKB, purgPinKB) =>
      if purgSumKB < 0 ∨ purgPinKB < 0 then none
      else if purgSumKB - purgPinKB ≥ 0 then some (purgSumKB - purgPinKB)
      else none

def getPurgeableAshmInfo (blocks : Option (List PurgeableAshmInfo)) :
    Option (Int × List PurgeableAshmInfo) :=
  blocks.map fun blocks =>
    let ashmInfoToReclaim := blocks.filter fun block => block.sizeKB > 0
    ((ashmInfoToReclaim.map (·.sizeKB)).sum, ashmInfoToReclaim)

end PurgeableMemUtils

namespace PurgeableMemManager

open PurgeableMemUtils

variable (purgeWhiteAppSet : ExtTreeSet String) (ashmSort : AshmSort) (kernel : PurgeableInventory)

def isPurgeWhiteApp (curAppName : String) : Bool := purgeWhiteAppSet.contains curAppName

def issue (write : PurgeWrite) (log : PurgeLog) : PurgeLog :=
  log ++ [(write, kernel.echoToPath log.length)]

/-- The unpinned memory of a memcg. -/
def unPinedSizeKB (turn : Nat) (memcgPids : List Int) : Int :=
  (memcgPids.filterMap fun pid => getProcPurgeableHeapInfo (kernel.procHeapCounters turn pid)).sum

/-- The result of a loop that adds to `reclaimResultKB`. -/
structure PurgeProgress where
  reclaimResultKB : Int
  log : PurgeLog

def purgHeapOneMemcg (turn : Nat) (memcgPids : List Int) (memcgPath : String) (reclaimTargetKB : Int)
    (progress : PurgeProgress) : Bool × PurgeProgress :=
  if progress.reclaimResultKB ≥ reclaimTargetKB then (true, progress)
  else
    let unPinedSizeKB := unPinedSizeKB kernel turn memcgPids
    let toReclaimSize :=
      if progress.reclaimResultKB + unPinedSizeKB ≤ reclaimTargetKB then unPinedSizeKB
      else reclaimTargetKB - progress.reclaimResultKB
    if toReclaimSize > 0 then
      let log := issue kernel (.purgeHeapMemcg memcgPath toReclaimSize) progress.log
      if kernel.echoToPath progress.log.length then
        (progress.reclaimResultKB + toReclaimSize ≥ reclaimTargetKB,
          ⟨progress.reclaimResultKB + toReclaimSize, log⟩)
      else (false, { progress with log })
    else (false, progress)

/-- One memcg, left out when it cannot be read or holds no process. -/
def purgHeapMemcg (turn : Nat) (memcgPath : String) (reclaimTargetKB : Int)
    (progress : PurgeProgress) : Bool × PurgeProgress :=
  match kernel.memcgPids turn memcgPath with
  | none => (false, progress)
  | some [] => (false, progress)
  | some memcgPids => purgHeapOneMemcg kernel turn memcgPids memcgPath reclaimTargetKB progress

/-- The loop over the users, and the base memcg after it. -/
def purgHeapMemcgs (reclaimTargetKB : Int) : Nat → List Int → PurgeProgress → PurgeProgress
  | turn, [], progress => (purgHeapMemcg kernel turn memcgBasePath reclaimTargetKB progress).2
  | turn, userId :: userIds, progress =>
      match purgHeapMemcg kernel turn (memcgPathOfUser userId) reclaimTargetKB progress with
      | (true, progress) => progress
      | (false, progress) => purgHeapMemcgs reclaimTargetKB (turn + 1) userIds progress

def purgHeapMemcgOneByOne (reclaimTargetKB : Int) (log : PurgeLog) : PurgeProgress :=
  purgHeapMemcgs kernel reclaimTargetKB 0 kernel.userIds ⟨0, log⟩

def purgAshmBlocks (reclaimTargetKB : Int) : List PurgeableAshmInfo → PurgeProgress → PurgeProgress
  | [], progress => progress
  | block :: blocks, progress =>
      if ¬ isPurgeWhiteApp purgeWhiteAppSet block.curAppName then
        purgAshmBlocks reclaimTargetKB blocks progress
      else
        let log := issue kernel (.purgeAshmByIdWithTime block) progress.log
        if kernel.echoToPath progress.log.length then
          let progress := ⟨progress.reclaimResultKB + block.sizeKB, log⟩
          if progress.reclaimResultKB ≥ reclaimTargetKB then progress
          else purgAshmBlocks reclaimTargetKB blocks progress
        else purgAshmBlocks reclaimTargetKB blocks { progress with log }

def purgAshmIdOneByOne (ashmInfoToReclaim : List PurgeableAshmInfo) (reclaimTargetKB : Int)
    (log : PurgeLog) : PurgeProgress :=
  purgAshmBlocks purgeWhiteAppSet kernel reclaimTargetKB (ashmSort.sort ashmInfoToReclaim) ⟨0, log⟩

/-- What can be reclaimed of a type. Nothing is known of the subscribers. -/
def getPurgeableInfo : PurgeableMemoryType → Option (Int × List PurgeableAshmInfo)
  | .purgeableHeap => (getPurgeableHeapInfo kernel.heapCounters).map fun reclaimableKB =>
      (reclaimableKB, [])
  | .purgeableAshmem => getPurgeableAshmInfo kernel.ashmBlocks
  | _ => none

def purgeByTypeAndTarget (type : PurgeableMemoryType) (reclaimTargetKB : Int) (log : PurgeLog) :
    PurgeProgress :=
  match getPurgeableInfo kernel type with
  | none => ⟨0, log⟩
  | some (reclaimableKB, ashmInfoToReclaim) =>
      if reclaimableKB ≤ 0 then ⟨0, log⟩
      else
        -- Only the heap is purged in one write.
        let all := decide (type = .purgeableHeap ∧ reclaimableKB ≤ reclaimTargetKB)
        let logAll := if all then issue kernel (.purgeHeapAll reclaimableKB) log else log
        if all ∧ kernel.echoToPath log.length then ⟨reclaimableKB, logAll⟩
        else
          match type with
          | .purgeableHeap => purgHeapMemcgOneByOne kernel reclaimTargetKB logAll
          | .purgeableAshmem =>
              purgAshmIdOneByOne purgeWhiteAppSet ashmSort kernel ashmInfoToReclaim reclaimTargetKB logAll
          | _ => ⟨0, logAll⟩

/-- The loop over the types, and whether the target was reached. -/
def purgeInSequence : List PurgeableMemoryType → Int → PurgeLog → Bool × PurgeLog
  | [], _, log => (false, log)
  | type :: types, reclaimTargetKB, log =>
      let progress := purgeByTypeAndTarget purgeWhiteAppSet ashmSort kernel type reclaimTargetKB log
      let reclaimTargetKB := reclaimTargetKB - progress.reclaimResultKB
      if reclaimTargetKB ≤ 0 then (true, progress.log)
      else purgeInSequence types reclaimTargetKB progress.log

/-- What one event leaves: its time, its writes, and the level the subscribers were told. -/
structure PurgeOutcome where
  lastTriggerTime : Int
  log : PurgeLog
  trimAllSubscribers : Option SystemMemoryLevel

/-- The difference of two `unsigned int` values, read as `int`. -/
def reclaimTargetKB (targetBuffer : Nat) (currentBuffer : Int) : Int :=
  Int.bmod (targetBuffer - toUnsigned currentBuffer) (2 ^ 32)

/-- An event comes too soon after the last one. -/
def TooSoon (lastTriggerTime now : Int) : Prop :=
  lastTriggerTime ≠ 0 ∧ now - lastTriggerTime < triggerIntervalSecond

instance (lastTriggerTime now : Int) : Decidable (TooSoon lastTriggerTime now) :=
  inferInstanceAs (Decidable (_ ∧ _))

/-- `TriggerByPsi`, at a buffer reading. Nothing is purged when no level is configured. -/
def triggerByPsi (level : SystemMemoryLevel) (now : Int) (currentBuffer : Int)
    (getPurgeable : Option Nat) (lastTriggerTime : Int) : PurgeOutcome :=
  if TooSoon lastTriggerTime now then ⟨lastTriggerTime, [], none⟩
  else
    match getPurgeable with
    | none => ⟨now, [], none⟩
    | some targetBuffer =>
        if reclaimTargetKB targetBuffer currentBuffer ≤ 0 then ⟨now, [], none⟩
        else
          let (reached, log) := purgeInSequence purgeWhiteAppSet ashmSort kernel
            [.purgeableHeap, .purgeableAshmem, .purgeableSubscriber]
            (reclaimTargetKB targetBuffer currentBuffer) []
          ⟨now, log, if reached then none else some level⟩

/-- The block an entry of the log is about. -/
def ashmBlock (entry : PurgeWrite × Bool) : Option PurgeableAshmInfo :=
  match entry.1 with
  | .purgeAshmByIdWithTime block => some block
  | _ => none

/-- The blocks that may be purged, in the order they are tried in. -/
def eligibleBlocks : List PurgeableAshmInfo :=
  (ashmSort.sort ((getPurgeableAshmInfo kernel.ashmBlocks).elim [] Prod.snd)).filter fun block =>
    isPurgeWhiteApp purgeWhiteAppSet block.curAppName

/-- The blocks of a log in the order they were written. -/
def ashmBlocksOf (log : PurgeLog) : List PurgeableAshmInfo := log.filterMap ashmBlock

/-- Blocks that are not behind others, as a total preorder. -/
def notBehind (left right : PurgeableAshmInfo) : Prop := ashmReclaimPriorityCompare right left = false

instance : DecidableRel notBehind := fun _ _ => inferInstanceAs (Decidable (_ = _))

/-- The order of the blocks: by the least priority of the users, and within it by size. -/
theorem notBehind_iff {left right : PurgeableAshmInfo} : notBehind left right ↔
    right.minPriority < left.minPriority ∨
      right.minPriority = left.minPriority ∧ right.sizeKB ≤ left.sizeKB := by
  rw [notBehind, ashmReclaimPriorityCompare]
  split_ifs <;> simp <;> omega

open Budget

/-- The log of an event with this target: heap writes that report no more than the target, then
the eligible blocks in order if anything is left, and no write once the target is reached. -/
structure Escalates (target : Int) (log : PurgeLog) : Prop where
  within : Within reportedKB target log
  phases : ∃ heap ashm, log = heap ++ ashm ∧ (∀ entry ∈ heap, ashmBlock entry = none) ∧
    spent reportedKB heap ≤ target ∧ (ashm ≠ [] → spent reportedKB heap < target) ∧
    ashm.map ashmBlock <+: (eligibleBlocks purgeWhiteAppSet ashmSort kernel).map some
  descending : (ashmBlocksOf log).Pairwise fun first second =>
    second.minPriority < first.minPriority ∨
      second.minPriority = first.minPriority ∧ second.sizeKB ≤ first.sizeKB
  whitelisted : ∀ block ∈ ashmBlocksOf log, block.curAppName ∈ purgeWhiteAppSet

/-- What a loop adds to its progress. -/
structure Advances (target : Int) (progress : PurgeProgress) (new : PurgeLog)
    (progress' : PurgeProgress) : Prop where
  log : progress'.log = progress.log ++ new
  result : progress'.reclaimResultKB = progress.reclaimResultKB + spent reportedKB new
  within : Within reportedKB (target - progress.reclaimResultKB) new

variable {purgeWhiteAppSet} {ashmSort} {kernel} {target : Int}
variable {progress progress' last : PurgeProgress} {new more : PurgeLog}

/-- Without a block the progress stays. -/
theorem Advances.refl (target : Int) (progress : PurgeProgress) : Advances target progress [] progress where
  log := by simp
  result := by simp
  within := within_nil

theorem Advances.trans (first : Advances target progress new progress')
    (second : Advances target progress' more last) : Advances target progress (new ++ more) last where
  log := by rw [second.log, first.log, List.append_assoc]
  result := by
    rw [second.result, first.result, spent_append]
    omega
  within := by
    apply first.within.append
    have hSecond := second.within
    rw [first.result] at hSecond
    convert hSecond using 1
    omega

/-- One write, while the target is not reached. -/
theorem advances_issue (kernel : PurgeableInventory) (write : PurgeWrite)
    (h : progress.reclaimResultKB < target) :
    Advances target progress [(write, kernel.echoToPath progress.log.length)]
      ⟨progress.reclaimResultKB + if kernel.echoToPath progress.log.length then write.sizeKB else 0,
        issue kernel write progress.log⟩ where
  log := rfl
  result := by
    rw [spent_singleton]
    rfl
  within := within_singleton (by omega)

/-- The writes of the heap phase. -/
def HeapAdvances (target : Int) (progress progress' : PurgeProgress) : Prop :=
  ∃ new, Advances target progress new progress' ∧ (∀ entry ∈ new, ashmBlock entry = none) ∧
    (progress.reclaimResultKB ≤ target → progress'.reclaimResultKB ≤ target)

theorem HeapAdvances.refl (target : Int) (progress : PurgeProgress) :
    HeapAdvances target progress progress :=
  ⟨[], .refl target progress, by simp, id⟩

theorem HeapAdvances.trans (first : HeapAdvances target progress progress')
    (second : HeapAdvances target progress' last) : HeapAdvances target progress last := by
  obtain ⟨new, hFirst, hHeap, hBound⟩ := first
  obtain ⟨more, hSecond, hMore, hLast⟩ := second
  refine ⟨new ++ more, hFirst.trans hSecond, ?_, fun h => hLast (hBound h)⟩
  intro entry hEntry
  rcases List.mem_append.mp hEntry with hNew | hNew
  · exact hHeap entry hNew
  · exact hMore entry hNew

/-- Purging the heap of one group advances within the target. -/
theorem purgHeapOneMemcg_advances (turn : Nat) (memcgPids : List Int) (memcgPath : String) :
    HeapAdvances target progress
      (purgHeapOneMemcg kernel turn memcgPids memcgPath target progress).2 := by
  rw [purgHeapOneMemcg]
  split
  · exact .refl target progress
  · rename_i hLeft
    dsimp only
    generalize hSize : (if progress.reclaimResultKB + unPinedSizeKB kernel turn memcgPids ≤ target then
      unPinedSizeKB kernel turn memcgPids else target - progress.reclaimResultKB) = toReclaimSize
    have hFits : progress.reclaimResultKB + toReclaimSize ≤ target := by
      rw [← hSize]
      split_ifs <;> omega
    have hIssue := advances_issue kernel (.purgeHeapMemcg memcgPath toReclaimSize) (not_le.mp hLeft)
    have hHeap : ∀ succeeded, ∀ entry ∈ [(PurgeWrite.purgeHeapMemcg memcgPath toReclaimSize, succeeded)],
        ashmBlock entry = none := by
      simp [ashmBlock]
    split
    · cases hSucceeds : kernel.echoToPath progress.log.length with
      | true =>
          rw [hSucceeds] at hIssue
          exact ⟨_, hIssue, hHeap true, fun _ => hFits⟩
      | false =>
          rw [hSucceeds] at hIssue
          simp only [Bool.false_eq_true, ↓reduceIte, add_zero] at hIssue ⊢
          exact ⟨_, hIssue, hHeap false, id⟩
    · exact .refl target progress

/-- Purging a group advances within the target, whether or not its processes are read. -/
theorem purgHeapMemcg_advances (turn : Nat) (memcgPath : String) :
    HeapAdvances target progress (purgHeapMemcg kernel turn memcgPath target progress).2 := by
  rw [purgHeapMemcg]
  split
  · exact .refl target progress
  · exact .refl target progress
  · exact purgHeapOneMemcg_advances turn _ memcgPath

/-- Purging one group after the other advances within the target. -/
theorem purgHeapMemcgs_advances (turn : Nat) (userIds : List Int) :
    HeapAdvances target progress (purgHeapMemcgs kernel target turn userIds progress) := by
  induction userIds generalizing turn progress with
  | nil => exact purgHeapMemcg_advances turn memcgBasePath
  | cons userId userIds ih =>
      have hUser := @purgHeapMemcg_advances kernel target progress turn (memcgPathOfUser userId)
      rw [purgHeapMemcgs]
      split
      · rename_i hReached
        rw [hReached] at hUser
        exact hUser
      · rename_i hMore
        rw [hMore] at hUser
        exact hUser.trans (ih (turn + 1))

/-- The blocks are tried in order, and none once the target is reached. -/
theorem purgAshmBlocks_advances (blocks : List PurgeableAshmInfo) (h : progress.reclaimResultKB < target) :
    ∃ new, Advances target progress new (purgAshmBlocks purgeWhiteAppSet kernel target blocks progress) ∧
      new.map ashmBlock <+: (blocks.filter fun block =>
        isPurgeWhiteApp purgeWhiteAppSet block.curAppName).map some := by
  induction blocks generalizing progress with
  | nil => exact ⟨[], .refl target progress, List.nil_prefix⟩
  | cons block blocks ih =>
      rw [purgAshmBlocks, List.filter_cons]
      cases hWhite : isPurgeWhiteApp purgeWhiteAppSet block.curAppName with
      | false => simpa [hWhite] using ih h
      | true =>
          have hIssue := advances_issue kernel (.purgeAshmByIdWithTime block) h
          simp only [not_true_eq_false, ↓reduceIte, List.map_cons]
          cases hSucceeds : kernel.echoToPath progress.log.length with
          | false =>
              rw [hSucceeds] at hIssue
              simp only [Bool.false_eq_true, ↓reduceIte, add_zero] at hIssue ⊢
              obtain ⟨new, hRest, hPrefix⟩ := @ih ⟨progress.reclaimResultKB,
                issue kernel (.purgeAshmByIdWithTime block) progress.log⟩ h
              exact ⟨_, hIssue.trans hRest, List.cons_prefix_cons.mpr ⟨rfl, hPrefix⟩⟩
          | true =>
              rw [hSucceeds] at hIssue
              simp only [↓reduceIte] at hIssue ⊢
              split_ifs with hReached
              · exact ⟨_, hIssue, List.cons_prefix_cons.mpr ⟨rfl, List.nil_prefix⟩⟩
              · obtain ⟨new, hRest, hPrefix⟩ := @ih ⟨progress.reclaimResultKB + block.sizeKB,
                  issue kernel (.purgeAshmByIdWithTime block) progress.log⟩ (not_le.mp hReached)
                exact ⟨_, hIssue.trans hRest, List.cons_prefix_cons.mpr ⟨rfl, hPrefix⟩⟩

/-- The heap phase reports no more than the target. -/
theorem purgeHeap_advances (hTarget : 0 < target) (log : PurgeLog) :
    HeapAdvances target ⟨0, log⟩
      (purgeByTypeAndTarget purgeWhiteAppSet ashmSort kernel .purgeableHeap target log) := by
  rw [purgeByTypeAndTarget]
  split
  · exact .refl target _
  · rename_i reclaimableKB ashmInfoToReclaim hInfo
    split
    · exact .refl target _
    · by_cases hAll : reclaimableKB ≤ target
      · have hIssue := @advances_issue target ⟨0, log⟩ kernel (.purgeHeapAll reclaimableKB) hTarget
        have hHeap : ∀ succeeded, ∀ entry ∈ [(PurgeWrite.purgeHeapAll reclaimableKB, succeeded)],
            ashmBlock entry = none := by
          simp [ashmBlock]
        simp only [hAll, and_self, decide_true, ↓reduceIte, true_and]
        cases hSucceeds : kernel.echoToPath log.length with
        | true =>
            simp only [hSucceeds, ↓reduceIte, zero_add] at hIssue ⊢
            exact ⟨_, hIssue, hHeap true, fun _ => hAll⟩
        | false =>
            simp only [hSucceeds, Bool.false_eq_true, ↓reduceIte, add_zero] at hIssue ⊢
            have hFailed : HeapAdvances target ⟨0, log⟩
                ⟨0, issue kernel (.purgeHeapAll reclaimableKB) log⟩ := ⟨_, hIssue, hHeap false, id⟩
            exact hFailed.trans (purgHeapMemcgs_advances 0 kernel.userIds)
      · simp only [hAll, and_false, decide_false, Bool.false_eq_true, ↓reduceIte, false_and]
        exact purgHeapMemcgs_advances 0 kernel.userIds

/-- The second phase tries the eligible blocks. -/
theorem purgeAshm_advances (hTarget : 0 < target) (log : PurgeLog) :
    ∃ new, Advances target ⟨0, log⟩ new
        (purgeByTypeAndTarget purgeWhiteAppSet ashmSort kernel .purgeableAshmem target log) ∧
      new.map ashmBlock <+: (eligibleBlocks purgeWhiteAppSet ashmSort kernel).map some := by
  rw [purgeByTypeAndTarget, getPurgeableInfo, eligibleBlocks]
  split
  · exact ⟨[], .refl target _, List.nil_prefix⟩
  · rename_i reclaimableKB ashmInfoToReclaim hInfo
    split
    · exact ⟨[], .refl target _, List.nil_prefix⟩
    · rw [hInfo]
      exact purgAshmBlocks_advances _ hTarget

/-- Nothing is purged of the subscribers. -/
theorem purgeSubscriber_eq (log : PurgeLog) :
    purgeByTypeAndTarget purgeWhiteAppSet ashmSort kernel .purgeableSubscriber target log = ⟨0, log⟩ :=
  rfl

/-- The phase of the heap purges no block, so that the blocks are those of the second phase. -/
theorem ashmBlocksOf_phases {heap ashm : PurgeLog} {blocks : List PurgeableAshmInfo}
    (hKind : ∀ entry ∈ heap, ashmBlock entry = none) (hOrder : ashm.map ashmBlock <+: blocks.map some) :
    ashmBlocksOf (heap ++ ashm) <+: blocks := by
  have hHeap : heap.filterMap ashmBlock = [] := List.filterMap_eq_nil_iff.mpr hKind
  have hKept := hOrder.filterMap id
  rw [List.filterMap_map, List.filterMap_map, Function.id_comp, Function.id_comp] at hKept
  rw [ashmBlocksOf, List.filterMap_append, hHeap, List.nil_append]
  simpa using hKept

/-- The eligible blocks are sorted. -/
theorem eligibleBlocks_pairwise :
    (eligibleBlocks purgeWhiteAppSet ashmSort kernel).Pairwise notBehind :=
  (ashmSort.ordered _).filter _

/-- Two phases, each within its target, of which the second begins only when the first left
something to do. -/
theorem escalates_phases {heap ashm : PurgeLog} (hHeap : Within reportedKB target heap)
    (hKind : ∀ entry ∈ heap, ashmBlock entry = none) (hBound : spent reportedKB heap ≤ target)
    (hAshm : Within reportedKB (target - spent reportedKB heap) ashm)
    (hLeft : ashm ≠ [] → spent reportedKB heap < target)
    (hOrder : ashm.map ashmBlock <+: (eligibleBlocks purgeWhiteAppSet ashmSort kernel).map some) :
    Escalates purgeWhiteAppSet ashmSort kernel target (heap ++ ashm) where
  within := hHeap.append hAshm
  phases := ⟨heap, ashm, rfl, hKind, hBound, hLeft, hOrder⟩
  descending := by
    have hPrefix := ashmBlocksOf_phases hKind hOrder
    exact (eligibleBlocks_pairwise.sublist hPrefix.sublist).imp notBehind_iff.mp
  whitelisted := by
    intro block hBlock
    have hEligible := (ashmBlocksOf_phases hKind hOrder).subset hBlock
    rw [eligibleBlocks, List.mem_filter, isPurgeWhiteApp] at hEligible
    simpa using hEligible.2

/-- The event ends early exactly when what was reported reaches the target. -/
theorem purgeInSequence_escalates (hTarget : 0 < target) {reached : Bool} {log : PurgeLog}
    (hPurge : purgeInSequence purgeWhiteAppSet ashmSort kernel
      [.purgeableHeap, .purgeableAshmem, .purgeableSubscriber] target [] = (reached, log)) :
    Escalates purgeWhiteAppSet ashmSort kernel target log ∧
      (reached = true ↔ target ≤ spent reportedKB log) := by
  obtain ⟨heap, hHeap, hKind, hBound⟩ := @purgeHeap_advances purgeWhiteAppSet ashmSort kernel target
    hTarget []
  have hHeapLog := hHeap.log
  have hHeapResult := hHeap.result
  have hHeapBound := hBound hTarget.le
  have hHeapWithin := hHeap.within
  rw [List.nil_append] at hHeapLog
  simp only [zero_add, sub_zero] at hHeapResult hHeapWithin
  rw [hHeapResult] at hHeapBound
  rw [purgeInSequence, hHeapResult, hHeapLog] at hPurge
  split at hPurge
  · rename_i hReached
    obtain ⟨rfl, rfl⟩ := Prod.mk.inj hPurge
    have hEscalates := @escalates_phases purgeWhiteAppSet ashmSort kernel target heap [] hHeapWithin
      hKind hHeapBound within_nil (fun h => absurd rfl h) List.nil_prefix
    rw [List.append_nil] at hEscalates
    exact ⟨hEscalates, by simp; omega⟩
  · rename_i hLeft
    have hRest : 0 < target - spent reportedKB heap := not_le.mp hLeft
    obtain ⟨ashm, hAshm, hOrder⟩ := @purgeAshm_advances purgeWhiteAppSet ashmSort kernel
      (target - spent reportedKB heap) hRest heap
    have hAshmWithin := hAshm.within
    have hAshmResult := hAshm.result
    simp only [zero_add, sub_zero] at hAshmWithin hAshmResult
    have hEscalates := escalates_phases hHeapWithin hKind hHeapBound hAshmWithin (fun _ => by omega) hOrder
    rw [purgeInSequence, hAshmResult, hAshm.log] at hPurge
    split at hPurge
    · rename_i hReached
      cases hPurge
      exact ⟨hEscalates, by rw [spent_append]; simp; omega⟩
    · rename_i hMore
      rw [purgeInSequence, purgeSubscriber_eq, sub_zero, if_neg hMore] at hPurge
      cases hPurge
      exact ⟨hEscalates, by rw [spent_append]; simp; omega⟩

/-- An event with a positive target purges in order and within it, and the subscribers are
told to trim exactly when less than the target was reported. -/
theorem triggerByPsi_escalates (level : SystemMemoryLevel) (now currentBuffer lastTriggerTime : Int)
    (targetBuffer : Nat) (hDue : ¬ TooSoon lastTriggerTime now)
    (hTarget : 0 < reclaimTargetKB targetBuffer currentBuffer) :
    let outcome := triggerByPsi purgeWhiteAppSet ashmSort kernel level now currentBuffer
      (some targetBuffer) lastTriggerTime
    Escalates purgeWhiteAppSet ashmSort kernel (reclaimTargetKB targetBuffer currentBuffer) outcome.log ∧
      (outcome.trimAllSubscribers = some level ↔
        spent reportedKB outcome.log < reclaimTargetKB targetBuffer currentBuffer) := by
  rw [triggerByPsi, if_neg hDue]
  dsimp only
  rw [if_neg (not_le.mpr hTarget)]
  cases hPurge : purgeInSequence purgeWhiteAppSet ashmSort kernel
    [.purgeableHeap, .purgeableAshmem, .purgeableSubscriber]
    (reclaimTargetKB targetBuffer currentBuffer) [] with
  | mk reached log =>
      obtain ⟨hEscalates, hReached⟩ := purgeInSequence_escalates hTarget hPurge
      refine ⟨hEscalates, ?_⟩
      rw [← not_le, ← hReached]
      cases reached <;> simp

instance : Std.Total notBehind where
  total left right := by
    rw [notBehind_iff, notBehind_iff]
    omega

instance : IsTrans PurgeableAshmInfo notBehind where
  trans first second third h h' := by
    rw [notBehind_iff] at h h' ⊢
    omega

/-- One way to arrange blocks of equal rank. -/
def stableSort : AshmSort where
  sort := List.insertionSort notBehind
  perm := List.perm_insertionSort notBehind
  ordered := List.pairwise_insertionSort notBehind

/-- A user holds 40 KB that are not pinned, and two applications of three may be purged. -/
def twoPhases (echoToPath : Nat → Bool) : PurgeableInventory where
  heapCounters := some (90, 90, 30)
  userIds := [100]
  memcgPids turn _ := if turn = 0 then some [1] else none
  procHeapCounters _ _ := some (60, 20)
  ashmBlocks := some [⟨"kept", "1 5", 500, 30⟩, ⟨"photos", "2 5", 400, 70⟩, ⟨"music", "3 5", 600, 10⟩]
  echoToPath := echoToPath

theorem triggerByPsi_escalates_twoPhases :
    let outcome := triggerByPsi (ExtTreeSet.ofList ["photos", "music"]) stableSort
      (twoPhases fun index => index != 2) .memoryLevelLow 20 900 (some 1000) 5
    outcome.log.map (fun entry => (entry.1.sizeKB, entry.2)) = [(40, true), (10, true), (70, false)] ∧
      (Escalates (ExtTreeSet.ofList ["photos", "music"]) stableSort
          (twoPhases fun index => index != 2) (reclaimTargetKB 1000 900) outcome.log ∧
        (outcome.trimAllSubscribers = some .memoryLevelLow ↔
          spent reportedKB outcome.log < reclaimTargetKB 1000 900)) :=
  ⟨by decide, triggerByPsi_escalates .memoryLevelLow 20 900 5 1000 (by decide) (by decide)⟩

end PurgeableMemManager
end MemMgr
