import Mathlib.Algebra.GroupWithZero.Nat
import Mathlib.Order.Bounds.Basic
import MemMgr.NandLifeQuota

/-! The accounts of the controller. What is swapped out between two accepted readings of
the counter enters each total once, whichever ticks fail in between. -/
namespace MemMgr.NandLifeController

open Execution

variable {answers : NandLifeAnswers} {controller start : NandLifeController} {config : NandLifeConfig}
  {ticks : List NandLifeAnswers}

/-- What a start finds stored for the day. -/
def storedToday (controller : NandLifeController) : Nat :=
  (strtoull (controller.getParameter .swapOutKBToday)).1

/-- Equal counters count the same. -/
theorem SameCounters.counts {before after : NandLifeController} (h : SameCounters before after) :
    after.lastSwapOutKB = before.lastSwapOutKB ∧ after.swapOutKBToday = before.swapOutKBToday ∧
      after.swapOutKBSinceBirth = before.swapOutKBSinceBirth := by
  obtain ⟨_, _, rfl⟩ := h
  exact ⟨rfl, rfl, rfl⟩

/-- Parameters that are valid set the counters to what was stored. -/
theorem loadNandLifeParam_valid (hValid : (controller.loadNandLifeParam answers).2 = true) :
    ∃ minsToday minsSinceBirth, (controller.loadNandLifeParam answers).1 = { controller with
      minsToday := minsToday
      swapOutKBToday := controller.storedToday
      minsSinceBirth := minsSinceBirth
      swapOutKBSinceBirth := controller.storedSinceBirth } := by
  revert hValid
  simp only [loadNandLifeParam]
  split_ifs
  · intro hValid
    cases hValid
  · intro hValid
    cases hValid
  · intro hValid
    cases hValid
  · exact fun _ => ⟨_, _, rfl⟩

theorem sameCounters_startCheckLoop (answers : NandLifeAnswers) (controller : NandLifeController)
    (swapOutKB : Nat) :
    SameCounters { controller with lastSwapOutKB := swapOutKB, nowSwapOutKB := swapOutKB }.setTimer
      (controller.startCheckLoop answers swapOutKB).1 := by
  simp only [startCheckLoop]
  split_ifs
  · exact sameCounters_checkReachedTotalLimit
  · exact sameCounters_checkReachedTotalLimit.trans sameCounters_checkReachedDailyLimit
  · exact (sameCounters_checkReachedTotalLimit.trans sameCounters_checkReachedDailyLimit).trans
      (sameCounters_echo _)

theorem startCheckLoop_counts (answers : NandLifeAnswers) (controller : NandLifeController)
    (swapOutKB : Nat) :
    (controller.startCheckLoop answers swapOutKB).1.swapOutKBToday = controller.swapOutKBToday ∧
      (controller.startCheckLoop answers swapOutKB).1.swapOutKBSinceBirth =
        controller.swapOutKBSinceBirth ∧
      (controller.startCheckLoop answers swapOutKB).1.lastSwapOutKB = swapOutKB := by
  obtain ⟨_, _, hStart⟩ := sameCounters_startCheckLoop answers controller swapOutKB
  rw [hStart]
  exact ⟨rfl, rfl, rfl⟩

/-- Closing the swap leaves the timer alone. -/
theorem timers_closeSwapOutTemporarily :
    (controller.closeSwapOutTemporarily answers).timers = controller.timers := by
  obtain ⟨_, _, hEcho⟩ := @sameCounters_echo answers controller .disableEswap
  rw [closeSwapOutTemporarily, hEcho]

/-- Opening the swap leaves the timer alone. -/
theorem timers_openSwapOut :
    ((controller.openSwapOutPermanently answers).openSwapOutTemporarily answers).timers =
      controller.timers := by
  obtain ⟨_, _, hOpen⟩ := (@sameCounters_setParameterRetry answers controller .permanentlyClosedStatus
    notPermanentlyClosed).trans (sameCounters_echo .enableEswap)
  rw [openSwapOutTemporarily, openSwapOutPermanently, hOpen]

/-- A start that sets the timer takes the stored totals and the first reading. -/
theorem init_loaded (hTimer : (controller.restarted.init answers config).1.timers ≠ 0) :
    (controller.restarted.init answers config).1.swapOutKBToday = controller.storedToday ∧
      (controller.restarted.init answers config).1.swapOutKBSinceBirth = controller.storedSinceBirth ∧
      getSwapOutKBSinceKernelBoot answers =
        some (controller.restarted.init answers config).1.lastSwapOutKB := by
  revert hTimer
  rw [init]
  simp only [getEventHandler, getAndValidateNandLifeConfig, restarted, Bool.false_eq_true, ↓reduceIte,
    Nat.zero_le, decide_true, Bool.and_self, Bool.not_true]
  split_ifs with hMade hUnlimited hLoaded hClosed
  · intro hTimer
    exact absurd timers_closeSwapOutTemporarily hTimer
  · intro hTimer
    exact absurd timers_openSwapOut hTimer
  · intro hTimer
    rw [timers_closeSwapOutTemporarily] at hTimer
    obtain ⟨_, _, _, _, _, hLoad, -⟩ := loadNandLifeParam_eq _ answers
    rw [hLoad] at hTimer
    exact absurd rfl hTimer
  · intro hTimer
    rw [timers_closeSwapOutTemporarily] at hTimer
    obtain ⟨_, _, _, _, _, hLoad, -⟩ := loadNandLifeParam_eq _ answers
    rw [hLoad] at hTimer
    exact absurd rfl hTimer
  · rw [Bool.not_eq_true, Bool.not_eq_false'] at hLoaded
    obtain ⟨_, _, hLoad⟩ := loadNandLifeParam_valid hLoaded
    rw [hLoad]
    cases getSwapOutKBSinceKernelBoot answers with
    | none =>
        intro hTimer
        exact absurd timers_closeSwapOutTemporarily hTimer
    | some swapOutKB =>
        intro _
        have hCounts := fun loaded => startCheckLoop_counts answers loaded swapOutKB
        exact ⟨(hCounts _).1, (hCounts _).2.1, congrArg some (hCounts _).2.2.symm⟩

/-- One reading that was accepted. -/
structure Reading where
  swapOutKB : Nat
  increasedSwapOutKB : Nat
  newDay : Bool

/-- The reading a tick accepts, with the increase it counts and whether it ends a day. -/
def reading (answers : NandLifeAnswers) (controller : NandLifeController) : Option Reading :=
  (acceptedReading answers controller).map fun nowSwapOutKB =>
    ⟨nowSwapOutKB, nowSwapOutKB - controller.lastSwapOutKB,
      24 * 60 ≤ wrapULL (controller.minsToday + timerPeroidMin)⟩

/-- The state after some ticks, latest first. -/
def afterTicks (start : NandLifeController) : List NandLifeAnswers → NandLifeController
  | [] => start
  | answers :: earlier => (afterTicks start earlier).checkSwapOut answers

/-- The readings some ticks accept, latest first. -/
def readings (start : NandLifeController) : List NandLifeAnswers → List Reading
  | [] => []
  | answers :: earlier => (reading answers (afterTicks start earlier)).toList ++ readings start earlier

/-- No total passes the largest number. -/
def NoOverflow (start : NandLifeController) : List NandLifeAnswers → Prop
  | [] => True
  | answers :: earlier => NoOverflow start earlier ∧
      ∀ read ∈ reading answers (afterTicks start earlier),
        (afterTicks start earlier).swapOutKBToday + read.increasedSwapOutKB < 2 ^ 64 ∧
          (afterTicks start earlier).swapOutKBSinceBirth + read.increasedSwapOutKB < 2 ^ 64

/-- A tick keeps the timer running. -/
theorem timers_checkSwapOut (hTimer : controller.timers ≠ 0) (answers : NandLifeAnswers) :
    (controller.checkSwapOut answers).timers = controller.timers := by
  have hSet : controller.timers - 1 + 1 = controller.timers := by omega
  cases hAccepted : acceptedReading answers controller with
  | none =>
      obtain ⟨_, _, _, hTick⟩ := checkSwapOut_idle hAccepted
      rw [hTick, setTimer, timers_closeSwapOutTemporarily]
      exact hSet
  | some nowSwapOutKB => exact (counted_checkSwapOut hAccepted).timers.trans hSet

/-- The timer runs on through any number of ticks. -/
theorem timers_afterTicks (hTimer : start.timers ≠ 0) (ticks : List NandLifeAnswers) :
    (afterTicks start ticks).timers ≠ 0 := by
  induction ticks with
  | nil => exact hTimer
  | cons answers earlier ih =>
      rw [afterTicks, timers_checkSwapOut ih]
      exact ih

instance instDecidableNoOverflow : (ticks : List NandLifeAnswers) → Decidable (NoOverflow start ticks)
  | [] => isTrue trivial
  | answers :: earlier =>
      have : Decidable (NoOverflow start earlier) := instDecidableNoOverflow earlier
      inferInstanceAs (Decidable (NoOverflow start earlier ∧
        ∀ read ∈ reading answers (afterTicks start earlier), _))

/-- Ticks run one after the other while a timer is set, which every tick sets again. -/
theorem run_ticks_iff (hTimer : start.timers ≠ 0) {sys : NandLifeController} :
    Run (Step config) (fun _ op => ∃ answers, op = .tick answers) start sys ↔
      ∃ ticks, sys = afterTicks start ticks := by
  constructor
  · intro run
    induction run with
    | zero => exact ⟨[], rfl⟩
    | succ prior hTick last ih =>
        obtain ⟨answers, rfl⟩ := hTick
        obtain ⟨earlier, rfl⟩ := ih
        cases last
        exact ⟨answers :: earlier, rfl⟩
  · intro hTicks
    obtain ⟨ticks, rfl⟩ := hTicks
    induction ticks with
    | nil => exact .zero
    | cons answers earlier ih =>
        exact .succ ih ⟨answers, rfl⟩ (.tick _ _ (timers_afterTicks hTimer earlier))

/-- The increases of some readings. -/
def increase (reads : List Reading) : Nat := (reads.map Reading.increasedSwapOutKB).sum

/-- What the totals are in terms of the accepted readings. -/
structure Accounted (start : NandLifeController) (reads : List Reading) (finish : NandLifeController) :
    Prop where
  /-- The last reading is the largest. -/
  largest : IsGreatest {swapOutKB | swapOutKB = start.lastSwapOutKB ∨
    ∃ read ∈ reads, read.swapOutKB = swapOutKB} finish.lastSwapOutKB
  /-- The increases add up to what the counter has grown. -/
  increases : increase reads = finish.lastSwapOutKB - start.lastSwapOutKB
  sinceBirth : finish.swapOutKBSinceBirth =
    start.swapOutKBSinceBirth + (finish.lastSwapOutKB - start.lastSwapOutKB)
  today : finish.swapOutKBToday = (if reads.any Reading.newDay then 0 else start.swapOutKBToday) +
    increase (reads.takeWhile fun read => !read.newDay)

theorem Accounted.refl (start : NandLifeController) : Accounted start [] start := by
  refine ⟨⟨Or.inl rfl, ?_⟩, ?_, ?_, ?_⟩
  · intro swapOutKB hMem
    rcases hMem with hStart | ⟨_, hRead, -⟩
    · exact hStart.le
    · cases hRead
  · exact (Nat.sub_self _).symm
  · rw [Nat.sub_self, Nat.add_zero]
  · rfl

/-- The counters a tick without an accepted reading leaves alone. -/
theorem checkSwapOut_counters (hNone : reading answers controller = none) :
    (controller.checkSwapOut answers).lastSwapOutKB = controller.lastSwapOutKB ∧
      (controller.checkSwapOut answers).swapOutKBToday = controller.swapOutKBToday ∧
      (controller.checkSwapOut answers).swapOutKBSinceBirth = controller.swapOutKBSinceBirth := by
  obtain ⟨_, _, _, hTick⟩ := checkSwapOut_idle (Option.map_eq_none_iff.mp hNone)
  have hEcho := fun before => (@sameCounters_echo answers before .disableEswap).counts
  rw [hTick]
  exact hEcho _

/-- One more reading is accounted for. -/
theorem Accounted.cons {reads : List Reading} {before after : NandLifeController} {read : Reading}
    (h : Accounted start reads before) (hLast : after.lastSwapOutKB = read.swapOutKB)
    (hGrows : before.lastSwapOutKB ≤ read.swapOutKB)
    (hIncrease : read.increasedSwapOutKB = read.swapOutKB - before.lastSwapOutKB)
    (hToday : after.swapOutKBToday =
      if read.newDay then 0 else before.swapOutKBToday + read.increasedSwapOutKB)
    (hSinceBirth : after.swapOutKBSinceBirth = before.swapOutKBSinceBirth + read.increasedSwapOutKB) :
    Accounted start (read :: reads) after := by
  have hStart : start.lastSwapOutKB ≤ before.lastSwapOutKB := h.largest.2 (Or.inl rfl)
  refine ⟨⟨Or.inr ⟨read, List.mem_cons_self, hLast.symm⟩, ?_⟩, ?_, ?_, ?_⟩
  · intro swapOutKB hMem
    rw [hLast]
    rcases hMem with hEq | ⟨earlier, hEarlier, hEq⟩
    · exact hEq ▸ hStart.trans hGrows
    · rcases List.mem_cons.mp hEarlier with hSame | hEarlier
      · rw [← hEq, hSame]
      · exact (h.largest.2 (Or.inr ⟨earlier, hEarlier, hEq⟩)).trans hGrows
  · have hIncreases := h.increases
    rw [increase] at hIncreases
    rw [increase, List.map_cons, List.sum_cons, hIncreases, hIncrease, hLast]
    omega
  · rw [hSinceBirth, h.sinceBirth, hIncrease, hLast]
    omega
  · rw [hToday]
    cases hDay : read.newDay with
    | true => simp [hDay, increase]
    | false =>
        rw [h.today]
        simp [hDay, increase]
        omega

/-- As long as no counter overflows, any number of ticks account for what was read. -/
theorem accounted_afterTicks (hFits : NoOverflow start ticks) :
    Accounted start (readings start ticks) (afterTicks start ticks) := by
  induction ticks with
  | nil => exact .refl start
  | cons answers earlier ih =>
      rw [NoOverflow] at hFits
      have h := ih hFits.1
      rw [afterTicks, readings]
      cases hReading : reading answers (afterTicks start earlier) with
      | none =>
          obtain ⟨hLast, hToday, hSinceBirth⟩ := checkSwapOut_counters hReading
          refine ⟨?_, ?_, ?_, ?_⟩
          · rw [hLast]
            exact h.largest
          · rw [hLast]
            exact h.increases
          · rw [hLast, hSinceBirth]
            exact h.sinceBirth
          · rw [hToday]
            exact h.today
      | some read =>
          obtain ⟨hToday, hSinceBirth⟩ := hFits.2 read hReading
          obtain ⟨nowSwapOutKB, hAccepted, hRead⟩ := Option.map_eq_some_iff.mp hReading
          have hCounted := counted_checkSwapOut hAccepted
          subst hRead
          apply h.cons
          · exact hCounted.last
          · exact (checkSwapOut_counting hAccepted).2.1
          · rfl
          · rw [hCounted.today]
            simp only [ticked, decide_eq_true_eq]
            split_ifs with hDay
            · exact if_pos hDay
            · exact (if_neg hDay).trans (Nat.mod_eq_of_lt hToday)
          · rw [hCounted.sinceBirth]
            exact Nat.mod_eq_of_lt hSinceBirth

/-- The accounts after one start and any number of ticks. -/
theorem init_accounted {before : NandLifeController}
    (hFits : NoOverflow (before.restarted.init answers config).1 ticks) :
    let started := (before.restarted.init answers config).1
    Accounted started (readings started ticks) (afterTicks started ticks) ∧
      (started.timers ≠ 0 → started.swapOutKBToday = before.storedToday) :=
  ⟨accounted_afterTicks hFits, fun hTimer => (init_loaded hTimer).1⟩

/-- The readings after a start at zero: twenty, which ends the day, ten, and thirty. -/
def threeReadings : List NandLifeAnswers := [answersReading 30, answersReading 10, answersReading 20]

/-- The second falls behind and is not accepted. -/
theorem init_accounted_threeReadings :
    let started := (endingDay.restarted.init (answersReading 0) ⟨1, 1⟩).1
    Accounted started (readings started threeReadings) (afterTicks started threeReadings) ∧
      (afterTicks started threeReadings).swapOutKBToday = 10 ∧
      (afterTicks started threeReadings).swapOutKBSinceBirth = 30 := by
  exact ⟨(init_accounted (by decide +kernel)).1, by decide +kernel, by decide +kernel⟩

end MemMgr.NandLifeController
