import Mathlib.Tactic.Common
import MemMgr.Library.Execution
import MemMgr.NandLifeController

/-! The quotas of the controller: while a quota is used up the swap device is off, and
once the total quota is used up it stays off, whoever restarts the service. -/
namespace MemMgr.NandLifeController

open Execution

variable {answers : NandLifeAnswers} {controller : NandLifeController} {config : NandLifeConfig}

/-! What the helpers do while every write succeeds. -/

theorem closeSwapOutTemporarily_eq (hWrites : answers.WritesSucceed) :
    controller.closeSwapOutTemporarily answers =
      { controller with enableWrites := .disableEswap :: controller.enableWrites } := by
  rw [closeSwapOutTemporarily, echoToEnablePath, if_pos hWrites.1]

theorem openSwapOutTemporarily_eq (hWrites : answers.WritesSucceed) :
    controller.openSwapOutTemporarily answers =
      { controller with enableWrites := .enableEswap :: controller.enableWrites } := by
  rw [openSwapOutTemporarily, echoToEnablePath, if_pos hWrites.1]

theorem setParameterRetry_eq (hWrites : answers.WritesSucceed) (param : NandLifeParam) (value : String) :
    controller.setParameterRetry answers param value =
      ({ controller with params := Function.update controller.params param (some value) }, true) := by
  rw [setParameterRetry, if_pos (hWrites.2 param)]

theorem closeSwapOutPermanently_eq (hWrites : answers.WritesSucceed) :
    controller.closeSwapOutPermanently answers = { controller with
      enableWrites := .disableEswap :: controller.enableWrites
      params := Function.update controller.params .permanentlyClosedStatus (some permanentlyClosed) } := by
  rw [closeSwapOutPermanently, closeSwapOutTemporarily_eq hWrites, setParameterRetry_eq hWrites]

/-- The bookkeeping of a tick reaches the parameters. -/
def persisted (controller : NandLifeController) : NandLifeParam → Option String
  | .permanentlyClosedStatus => controller.params .permanentlyClosedStatus
  | .minsToday => some (toString controller.minsToday)
  | .swapOutKBToday => some (toString controller.swapOutKBToday)
  | .minsFromBirth => some (toString controller.minsSinceBirth)
  | .swapOutKBFromBirth => some (toString controller.swapOutKBSinceBirth)

theorem updateNandLifeParam_eq (hWrites : answers.WritesSucceed) :
    controller.updateNandLifeParam answers = ({ controller with params := controller.persisted }, true) := by
  simp only [updateNandLifeParam, setParameterRetry_eq hWrites, Bool.not_true, Bool.false_eq_true,
    ↓reduceIte, Prod.mk.injEq, and_true]
  congr 1
  funext param
  cases param <;> rfl

/-- The latest write switched the device on. -/
def SwapOutEnabled (controller : NandLifeController) : Prop :=
  controller.enableWrites.head? = some .enableEswap

instance : Decidable controller.SwapOutEnabled :=
  inferInstanceAs (Decidable (controller.enableWrites.head? = some .enableEswap))

/-- While the device is on, neither quota is used up. -/
def QuotaKept (controller : NandLifeController) : Prop :=
  controller.SwapOutEnabled → controller.swapOutKBToday < controller.dailySwapOutQuotaKB ∧
    controller.swapOutKBSinceBirth < controller.totalSwapOutQuotaKB

/-- The swapped out memory since birth that was stored. -/
def storedSinceBirth (controller : NandLifeController) : Nat :=
  (strtoull (controller.getParameter .swapOutKBFromBirth)).1

def dailyQuotaKB (config : NandLifeConfig) : Nat := wrapULL (config.dailySwapOutQuotaMb * 1024)
def totalQuotaKB (config : NandLifeConfig) : Nat := wrapULL (config.totalSwapOutQuotaMb * 1024)

def Limited (config : NandLifeConfig) : Prop :=
  ¬ (config.dailySwapOutQuotaMb = 0 ∧ config.totalSwapOutQuotaMb = 0)

instance : Decidable (Limited config) :=
  inferInstanceAs (Decidable (¬ (config.dailySwapOutQuotaMb = 0 ∧ config.totalSwapOutQuotaMb = 0)))

/-- Loading stores what the parameters say, up to the first that is not valid. -/
theorem loadNandLifeParam_eq (controller : NandLifeController) (answers : NandLifeAnswers) :
    ∃ minsToday swapOutKBToday minsSinceBirth swapOutKBSinceBirth valid,
      controller.loadNandLifeParam answers = ({ controller with
        minsToday := minsToday
        swapOutKBToday := swapOutKBToday
        minsSinceBirth := minsSinceBirth
        swapOutKBSinceBirth := swapOutKBSinceBirth }, valid) ∧
      (swapOutKBSinceBirth = controller.storedSinceBirth ∨
        valid = false ∧ swapOutKBSinceBirth = controller.swapOutKBSinceBirth) := by
  simp only [loadNandLifeParam]
  split_ifs
  · exact ⟨_, _, _, _, _, rfl, Or.inr ⟨rfl, rfl⟩⟩
  · exact ⟨_, _, _, _, _, rfl, Or.inr ⟨rfl, rfl⟩⟩
  · exact ⟨_, _, _, _, _, rfl, Or.inr ⟨rfl, rfl⟩⟩
  · exact ⟨_, _, _, _, _, rfl, Or.inl rfl⟩

/-- A start that sets no timer. -/
structure StartsIdle (before after : NandLifeController) : Prop where
  timers : after.timers = 0
  params : after.params = before.params
  enableWrites : after.enableWrites = .disableEswap :: before.enableWrites
  total : after.isSwapOutClosedPermently = true ∨ after.swapOutKBSinceBirth = 0 ∨
    after.swapOutKBSinceBirth = before.storedSinceBirth

/-- A start that sets one, and switches the device on below both quotas. -/
structure StartsTicking (config : NandLifeConfig) (before after : NandLifeController) : Prop where
  opened : before.isSwapOutClosedPermently = false
  timers : after.timers = 1
  daily : after.dailySwapOutQuotaKB = dailyQuotaKB config
  total : after.totalSwapOutQuotaKB = totalQuotaKB config
  stored : after.swapOutKBSinceBirth = before.storedSinceBirth
  params : after.params = if totalQuotaKB config ≤ after.swapOutKBSinceBirth then
      Function.update before.params .permanentlyClosedStatus (some permanentlyClosed)
    else before.params
  enableWrites : after.enableWrites =
    (if totalQuotaKB config ≤ after.swapOutKBSinceBirth ∨ dailyQuotaKB config ≤ after.swapOutKBToday then
      .disableEswap
    else .enableEswap) :: before.enableWrites

/-- The checks at the end of a start. -/
theorem startCheckLoop_outcome (hWrites : answers.WritesSucceed) {before : NandLifeController}
    (hOpen : before.isSwapOutClosedPermently = false) (hTimers : controller.timers = 0)
    (hDaily : controller.dailySwapOutQuotaKB = dailyQuotaKB config)
    (hTotal : controller.totalSwapOutQuotaKB = totalQuotaKB config)
    (hStored : controller.swapOutKBSinceBirth = before.storedSinceBirth)
    (hParams : controller.params = before.params) (hEnable : controller.enableWrites = before.enableWrites)
    (swapOutKB : Nat) : StartsTicking config before (controller.startCheckLoop answers swapOutKB).1 := by
  simp only [startCheckLoop, setTimer, checkReachedTotalLimit, checkReachedDailyLimit,
    closeSwapOutPermanently_eq hWrites, closeSwapOutTemporarily_eq hWrites,
    openSwapOutTemporarily_eq hWrites, ge_iff_le, hTotal, hDaily]
  by_cases hReachedTotal : totalQuotaKB config ≤ controller.swapOutKBSinceBirth
  · simp only [hReachedTotal, ↓reduceIte]
    refine ⟨hOpen, by simp [hTimers], rfl, rfl, hStored, ?_, ?_⟩
    · rw [if_pos hReachedTotal, hParams]
    · rw [if_pos (Or.inl hReachedTotal), hEnable]
  · simp only [hReachedTotal, Bool.false_eq_true, ↓reduceIte]
    by_cases hReachedDaily : dailyQuotaKB config ≤ controller.swapOutKBToday
    · simp only [hReachedDaily, ↓reduceIte]
      refine ⟨hOpen, by simp [hTimers], rfl, rfl, hStored, ?_, ?_⟩
      · rw [if_neg hReachedTotal, hParams]
      · rw [if_pos (Or.inr hReachedDaily), hEnable]
    · simp only [hReachedDaily, Bool.false_eq_true, ↓reduceIte]
      refine ⟨hOpen, by simp [hTimers], rfl, rfl, hStored, ?_, ?_⟩
      · rw [if_neg hReachedTotal, hParams]
      · rw [if_neg (not_or.mpr ⟨hReachedTotal, hReachedDaily⟩), hEnable]

/-- A limited configuration starts either without a timer, with the swap closed, or ticking with its
own quotas. -/
theorem init_outcome (hWrites : answers.WritesSucceed) (hLimited : Limited config)
    (controller : NandLifeController) :
    StartsIdle controller (controller.restarted.init answers config).1 ∨
      StartsTicking config controller (controller.restarted.init answers config).1 := by
  rw [init]
  simp only [getEventHandler, restarted, Bool.false_eq_true, ↓reduceIte]
  cases answers.makeHandler with
  | false =>
      simp only [Bool.not_false, ↓reduceIte, closeSwapOutTemporarily_eq hWrites]
      exact Or.inl ⟨rfl, rfl, rfl, Or.inr (Or.inl rfl)⟩
  | true =>
      rw [Limited] at hLimited
      simp only [Bool.not_true, Bool.false_eq_true, ↓reduceIte, getAndValidateNandLifeConfig,
        Nat.zero_le, decide_true, Bool.and_self, hLimited]
      obtain ⟨minsToday, swapOutKBToday, minsSinceBirth, swapOutKBSinceBirth, valid, hLoad, hStored⟩ :=
        loadNandLifeParam_eq { controller with
          handler := true
          config := config
          dailySwapOutQuotaKB := dailyQuotaKB config
          totalSwapOutQuotaKB := totalQuotaKB config
          lastSwapOutKB := 0
          nowSwapOutKB := 0
          minsToday := 0
          swapOutKBToday := 0
          minsSinceBirth := 0
          swapOutKBSinceBirth := 0
          timers := 0 } answers
      rw [dailyQuotaKB, totalQuotaKB] at hLoad
      rw [hLoad]
      cases valid with
      | false =>
          simp only [Bool.not_false, ↓reduceIte, closeSwapOutTemporarily_eq hWrites]
          refine Or.inl ⟨rfl, rfl, rfl, Or.inr ?_⟩
          exact hStored.symm.imp And.right id
      | true =>
          replace hStored := hStored.resolve_right fun hInvalid => Bool.noConfusion hInvalid.1
          simp only [Bool.not_true, Bool.false_eq_true, ↓reduceIte]
          split_ifs with hClosed
          · simp only [closeSwapOutTemporarily_eq hWrites]
            exact Or.inl ⟨rfl, rfl, rfl, Or.inl hClosed⟩
          · cases getSwapOutKBSinceKernelBoot answers with
            | none =>
                simp only [closeSwapOutTemporarily_eq hWrites]
                exact Or.inl ⟨rfl, rfl, rfl, Or.inr (Or.inr hStored)⟩
            | some swapOutKB =>
                refine Or.inr ?_
                show StartsTicking config controller (startCheckLoop answers _ swapOutKB).1
                apply startCheckLoop_outcome hWrites
                case hStored => exact hStored
                case hOpen => exact Bool.eq_false_iff.mpr hClosed
                all_goals rfl

/-! A tick either accepts a reading of the counter or leaves the totals alone. -/

/-- The reading a tick accepts: one that does not fall behind the last. -/
def acceptedReading (answers : NandLifeAnswers) (controller : NandLifeController) : Option Nat :=
  if controller.isSwapOutClosedPermently then none
  else (getSwapOutKBSinceKernelBoot answers).filter fun nowSwapOutKB =>
    controller.lastSwapOutKB ≤ nowSwapOutKB

/-- A tick whose reading is not accepted switches the device off, and counts nothing but minutes. -/
theorem checkSwapOut_idle (hNone : acceptedReading answers controller = none) :
    ∃ minsToday minsSinceBirth nowSwapOutKB, controller.checkSwapOut answers =
      ({ controller with
        timers := controller.timers - 1
        minsToday := minsToday
        minsSinceBirth := minsSinceBirth
        nowSwapOutKB := nowSwapOutKB }.closeSwapOutTemporarily answers).setTimer := by
  rw [acceptedReading] at hNone
  rw [checkSwapOut]
  by_cases hClosed : controller.isSwapOutClosedPermently = true
  · exact ⟨_, _, _, if_pos hClosed⟩
  · rw [if_neg hClosed] at hNone
    have hOpen : ¬ { controller with timers := controller.timers - 1 }.isSwapOutClosedPermently = true :=
      hClosed
    simp only [hOpen, Bool.false_eq_true, ↓reduceIte]
    cases hReading : getSwapOutKBSinceKernelBoot answers with
    | none => exact ⟨_, _, _, rfl⟩
    | some nowSwapOutKB =>
        rw [hReading] at hNone
        have hBehind : nowSwapOutKB < controller.lastSwapOutKB := by simpa using hNone
        exact ⟨_, _, _, if_pos hBehind⟩

/-- The controller when a tick has accepted a reading. -/
def ticked (controller : NandLifeController) (nowSwapOutKB : Nat) : NandLifeController :=
  { controller with
    timers := controller.timers - 1
    minsToday := wrapULL (controller.minsToday + timerPeroidMin)
    minsSinceBirth := wrapULL (controller.minsSinceBirth + timerPeroidMin)
    nowSwapOutKB := nowSwapOutKB }

/-- A tick counts when the swap is open and the reading is no smaller than the one before. -/
theorem checkSwapOut_counting {nowSwapOutKB : Nat}
    (hAccepted : acceptedReading answers controller = some nowSwapOutKB) :
    controller.isSwapOutClosedPermently = false ∧ controller.lastSwapOutKB ≤ nowSwapOutKB ∧
      controller.checkSwapOut answers = (controller.ticked nowSwapOutKB).countSwapOut answers := by
  rw [acceptedReading] at hAccepted
  rw [checkSwapOut]
  split_ifs at hAccepted with hClosed
  have hOpen : ¬ { controller with timers := controller.timers - 1 }.isSwapOutClosedPermently = true :=
    hClosed
  obtain ⟨hReading, hLast⟩ := Option.filter_eq_some_iff.mp hAccepted
  have hLast : controller.lastSwapOutKB ≤ nowSwapOutKB := by simpa using hLast
  refine ⟨by simpa using hClosed, hLast, ?_⟩
  simp only [hOpen, Bool.false_eq_true, ↓reduceIte, hReading, Nat.not_lt.mpr hLast, ticked]

/-- The same counters, whatever was written. -/
def SameCounters (before after : NandLifeController) : Prop :=
  ∃ params enableWrites, after = { before with params := params, enableWrites := enableWrites }

theorem SameCounters.refl (controller : NandLifeController) : SameCounters controller controller :=
  ⟨_, _, rfl⟩

theorem SameCounters.trans {first second third : NandLifeController} (left : SameCounters first second)
    (right : SameCounters second third) : SameCounters first third := by
  obtain ⟨_, _, rfl⟩ := left
  obtain ⟨_, _, rfl⟩ := right
  exact ⟨_, _, rfl⟩

theorem sameCounters_echo (content : EswapSwitch) :
    SameCounters controller (controller.echoToEnablePath answers content) := by
  rw [echoToEnablePath]
  split_ifs
  · exact ⟨_, _, rfl⟩
  · exact .refl controller

theorem sameCounters_setParameterRetry (param : NandLifeParam) (value : String) :
    SameCounters controller (controller.setParameterRetry answers param value).1 := by
  rw [setParameterRetry]
  split_ifs
  · exact ⟨_, _, rfl⟩
  · exact .refl controller

/-- Storing the parameters changes no counter. -/
theorem sameCounters_updateNandLifeParam :
    SameCounters controller (controller.updateNandLifeParam answers).1 := by
  simp only [updateNandLifeParam]
  split_ifs
  · exact sameCounters_setParameterRetry _ _
  · exact (sameCounters_setParameterRetry _ _).trans (sameCounters_setParameterRetry _ _)
  · exact ((sameCounters_setParameterRetry _ _).trans (sameCounters_setParameterRetry _ _)).trans
      (sameCounters_setParameterRetry _ _)
  · exact (((sameCounters_setParameterRetry _ _).trans (sameCounters_setParameterRetry _ _)).trans
      (sameCounters_setParameterRetry _ _)).trans (sameCounters_setParameterRetry _ _)

/-- The check of the daily limit changes no counter. -/
theorem sameCounters_checkReachedDailyLimit :
    SameCounters controller (controller.checkReachedDailyLimit answers).1 := by
  rw [checkReachedDailyLimit]
  split_ifs
  · exact sameCounters_echo _
  · exact .refl controller

/-- The check of the total limit changes no counter. -/
theorem sameCounters_checkReachedTotalLimit :
    SameCounters controller (controller.checkReachedTotalLimit answers).1 := by
  rw [checkReachedTotalLimit]
  split_ifs
  · exact (sameCounters_echo _).trans (sameCounters_setParameterRetry _ _)
  · exact .refl controller

/-- What a tick with an accepted reading leaves, whether or not its writes succeed. -/
structure Counted (before after : NandLifeController) : Prop where
  timers : after.timers = before.timers + 1
  daily : after.dailySwapOutQuotaKB = before.dailySwapOutQuotaKB
  total : after.totalSwapOutQuotaKB = before.totalSwapOutQuotaKB
  last : after.lastSwapOutKB = before.nowSwapOutKB
  today : after.swapOutKBToday = if 24 * 60 ≤ before.minsToday then 0
    else wrapULL (before.swapOutKBToday + (before.nowSwapOutKB - before.lastSwapOutKB))
  sinceBirth : after.swapOutKBSinceBirth =
    wrapULL (before.swapOutKBSinceBirth + (before.nowSwapOutKB - before.lastSwapOutKB))

/-- The counters after the end of a day. -/
theorem enterNewDay_counters (answers : NandLifeAnswers) (controller : NandLifeController) :
    SameCounters (if 24 * 60 ≤ controller.minsToday then
        { controller with minsToday := 0, swapOutKBToday := 0 }
      else controller) (controller.enterNewDay answers) := by
  simp only [enterNewDay, ge_iff_le]
  split_ifs
  · exact sameCounters_echo _
  · exact .refl _
  · exact .refl _

theorem counted_countSwapOut (answers : NandLifeAnswers) (controller : NandLifeController) :
    Counted controller (controller.countSwapOut answers) := by
  obtain ⟨_, _, hDaily⟩ := @sameCounters_checkReachedDailyLimit answers controller.countIncrease
  have hEnd : ∀ before : NandLifeController, ∃ params enableWrites,
      (((if (before.updateNandLifeParam answers).2 then (before.updateNandLifeParam answers).1
        else (before.updateNandLifeParam answers).1.closeSwapOutTemporarily answers).checkReachedTotalLimit
          answers).1) = { before with params := params, enableWrites := enableWrites } := by
    intro before
    apply SameCounters.trans _ sameCounters_checkReachedTotalLimit
    split_ifs
    · exact sameCounters_updateNandLifeParam
    · exact sameCounters_updateNandLifeParam.trans (sameCounters_echo _)
  obtain ⟨_, _, hRolled⟩ := enterNewDay_counters answers (controller.countIncrease.checkReachedDailyLimit answers).1
  obtain ⟨_, _, hTotal⟩ := hEnd ((controller.countIncrease.checkReachedDailyLimit answers).1.enterNewDay answers)
  simp only [countSwapOut, hTotal]
  rw [hRolled, hDaily]
  by_cases hDay : 24 * 60 ≤ controller.countIncrease.minsToday
  · simp only [hDay, ↓reduceIte]
    exact ⟨rfl, rfl, rfl, rfl, (if_pos hDay).symm, rfl⟩
  · simp only [hDay, ↓reduceIte]
    exact ⟨rfl, rfl, rfl, rfl, (if_neg hDay).symm, rfl⟩

theorem counted_checkSwapOut {nowSwapOutKB : Nat}
    (hAccepted : acceptedReading answers controller = some nowSwapOutKB) :
    Counted (controller.ticked nowSwapOutKB) (controller.checkSwapOut answers) := by
  rw [(checkSwapOut_counting hAccepted).2.2]
  exact counted_countSwapOut answers _

/-! The quotas along a run. -/

/-- At the total quota the swap is closed for good. -/
theorem checkReachedTotalLimit_reached (hWrites : answers.WritesSucceed)
    (hReached : controller.totalSwapOutQuotaKB ≤ controller.swapOutKBSinceBirth) :
    (controller.checkReachedTotalLimit answers).1.isSwapOutClosedPermently = true ∧
      ¬ (controller.checkReachedTotalLimit answers).1.SwapOutEnabled := by
  rw [checkReachedTotalLimit, if_pos hReached, closeSwapOutPermanently_eq hWrites]
  constructor
  · simp [isSwapOutClosedPermently, getParameter]
  · simp [SwapOutEnabled]

/-- A tick that uses the total quota up closes for good. -/
theorem closed_countSwapOut (hWrites : answers.WritesSucceed)
    (hReached : controller.totalSwapOutQuotaKB ≤ (controller.countSwapOut answers).swapOutKBSinceBirth) :
    (controller.countSwapOut answers).isSwapOutClosedPermently = true ∧
      ¬ (controller.countSwapOut answers).SwapOutEnabled := by
  obtain ⟨_, _, hDaily⟩ := @sameCounters_checkReachedDailyLimit answers controller.countIncrease
  have hRolled := enterNewDay_counters answers (controller.countIncrease.checkReachedDailyLimit answers).1
  rw [(counted_countSwapOut answers controller).sinceBirth] at hReached
  simp only [countSwapOut, updateNandLifeParam_eq hWrites, ↓reduceIte]
  apply checkReachedTotalLimit_reached hWrites
  obtain ⟨_, _, hRolled⟩ := hRolled
  rw [hRolled, hDaily]
  split_ifs <;> exact hReached

/-- A tick that leaves the device on is below the total quota, and below that of the day
unless it starts a new one. -/
theorem enabled_countSwapOut (hWrites : answers.WritesSucceed)
    (hEnabled : (controller.countSwapOut answers).SwapOutEnabled) :
    (controller.countSwapOut answers).swapOutKBSinceBirth < controller.totalSwapOutQuotaKB ∧
      (24 * 60 ≤ controller.minsToday ∨
        (controller.countSwapOut answers).swapOutKBToday < controller.dailySwapOutQuotaKB) := by
  have hTotal : ¬ controller.totalSwapOutQuotaKB ≤
      (controller.countSwapOut answers).swapOutKBSinceBirth := fun hReached =>
    (closed_countSwapOut hWrites hReached).2 hEnabled
  refine ⟨Nat.not_le.mp hTotal, ?_⟩
  by_cases hDay : 24 * 60 ≤ controller.minsToday
  · exact Or.inl hDay
  · -- Within the day, the daily check is the last to write.
    refine Or.inr (Nat.not_le.mp fun hDaily => ?_)
    rw [(counted_countSwapOut answers controller).today, if_neg hDay] at hDaily
    rw [(counted_countSwapOut answers controller).sinceBirth] at hTotal
    have hReached : controller.countIncrease.dailySwapOutQuotaKB ≤
      controller.countIncrease.swapOutKBToday := hDaily
    have hNotTotal : ¬ controller.countIncrease.totalSwapOutQuotaKB ≤
      controller.countIncrease.swapOutKBSinceBirth := hTotal
    have hSameDay : ¬ 24 * 60 ≤ controller.countIncrease.minsToday := hDay
    simp [countSwapOut, checkReachedDailyLimit, closeSwapOutTemporarily_eq hWrites, enterNewDay,
      updateNandLifeParam_eq hWrites, checkReachedTotalLimit, SwapOutEnabled, setTimer, hReached,
      hNotTotal, hSameDay] at hEnabled

/-- A tick without a reading keeps the quota. -/
theorem quotaKept_idle (hWrites : answers.WritesSucceed)
    (hNone : acceptedReading answers controller = none) :
    (controller.checkSwapOut answers).QuotaKept := by
  obtain ⟨_, _, _, hTick⟩ := checkSwapOut_idle hNone
  intro hEnabled
  rw [hTick, closeSwapOutTemporarily_eq hWrites] at hEnabled
  cases hEnabled

/-- A tick that completes a day below the total quota switches the device on last. -/
theorem enabled_of_newDay (hWrites : answers.WritesSucceed) (hDay : 24 * 60 ≤ controller.minsToday)
    (hTotal : (controller.countSwapOut answers).swapOutKBSinceBirth < controller.totalSwapOutQuotaKB) :
    (controller.countSwapOut answers).SwapOutEnabled := by
  rw [(counted_countSwapOut answers controller).sinceBirth] at hTotal
  obtain ⟨_, _, hDaily⟩ := @sameCounters_checkReachedDailyLimit answers controller.countIncrease
  have hNewDay : 24 * 60 ≤ controller.countIncrease.minsToday := hDay
  have hBelow : controller.countIncrease.swapOutKBSinceBirth <
    controller.countIncrease.totalSwapOutQuotaKB := hTotal
  simp only [countSwapOut, hDaily]
  simp [enterNewDay, hNewDay, hBelow, openSwapOutTemporarily_eq hWrites, updateNandLifeParam_eq hWrites,
    checkReachedTotalLimit, Nat.not_le.mpr hBelow, SwapOutEnabled, setTimer]

/-- The tick completes a day and stays below the total quota, so that the new day
switches the device on. The quota of the new day is not looked at. -/
def NewDayOpens (answers : NandLifeAnswers) (controller : NandLifeController) : Prop :=
  ∃ nowSwapOutKB ∈ acceptedReading answers controller,
    24 * 60 ≤ wrapULL (controller.minsToday + timerPeroidMin) ∧
      wrapULL (controller.swapOutKBSinceBirth + (nowSwapOutKB - controller.lastSwapOutKB)) <
        controller.totalSwapOutQuotaKB

/-- A tick keeps the quotas, unless a day without quota begins. -/
theorem quotaKept_checkSwapOut_iff (hWrites : answers.WritesSucceed) :
    (controller.checkSwapOut answers).QuotaKept ↔
      (0 < controller.dailySwapOutQuotaKB ∨ ¬ NewDayOpens answers controller) := by
  cases hAccepted : acceptedReading answers controller with
  | none =>
      apply iff_of_true (quotaKept_idle hWrites hAccepted)
      apply Or.inr
      intro hOpens
      obtain ⟨_, hMem, -⟩ := hOpens
      cases hAccepted.symm.trans hMem
  | some nowSwapOutKB =>
      have hTick := (checkSwapOut_counting hAccepted).2.2
      have hCounted := counted_checkSwapOut hAccepted
      constructor
      · intro hKept
        by_contra hNot
        rw [not_or, not_not] at hNot
        obtain ⟨hDaily, _, hMem, hDay, hTotal⟩ := hNot
        cases hAccepted.symm.trans hMem
        have hEnabled : (controller.checkSwapOut answers).SwapOutEnabled := by
          rw [hTick]
          apply enabled_of_newDay hWrites hDay
          rw [← hTick, hCounted.sinceBirth]
          exact hTotal
        have hToday := (hKept hEnabled).1
        replace hDay : 24 * 60 ≤ (controller.ticked nowSwapOutKB).minsToday := hDay
        rw [hCounted.daily, hCounted.today, if_pos hDay] at hToday
        exact hDaily hToday
      · intro hDaily hEnabled
        obtain ⟨hTotal, hToday⟩ := enabled_countSwapOut hWrites (hTick ▸ hEnabled)
        rw [← hTick] at hTotal hToday
        constructor
        · rw [hCounted.daily]
          rcases hToday with hDay | hToday
          · rw [hCounted.today, if_pos hDay]
            rcases hDaily with hDaily | hOpens
            · exact hDaily
            · rw [hCounted.sinceBirth] at hTotal
              exact absurd ⟨nowSwapOutKB, hAccepted, hDay, hTotal⟩ hOpens
          · exact hToday
        · rw [hCounted.total]
          exact hTotal

/-! Runs of one start followed by ticks. -/

/-- A tick that meets no failing write. -/
def WritingTick : NandLifeOp → Prop
  | .restart _ => False
  | .tick answers => answers.WritesSucceed

/-- The quotas in force are the configured ones. -/
def Configured (config : NandLifeConfig) (controller : NandLifeController) : Prop :=
  controller.timers ≠ 0 → controller.dailySwapOutQuotaKB = dailyQuotaKB config ∧
    controller.totalSwapOutQuotaKB = totalQuotaKB config

/-- A tick leaves the configured quotas in place. -/
theorem Configured.checkSwapOut (h : Configured config controller) (hTimer : controller.timers ≠ 0)
    (answers : NandLifeAnswers) : Configured config (controller.checkSwapOut answers) := by
  intro _
  cases hAccepted : acceptedReading answers controller with
  | none =>
      obtain ⟨_, _, _, hTick⟩ := checkSwapOut_idle hAccepted
      obtain ⟨_, _, hEcho⟩ : SameCounters _ (closeSwapOutTemporarily answers _) := sameCounters_echo _
      rw [hTick, hEcho]
      exact h hTimer
  | some nowSwapOutKB =>
      have hCounted := counted_checkSwapOut hAccepted
      rw [hCounted.daily, hCounted.total]
      exact h hTimer

/-- A start sets the configured quotas. -/
theorem Configured.of_init (hWrites : answers.WritesSucceed) (hLimited : Limited config)
    (before : NandLifeController) : Configured config (before.restarted.init answers config).1 := by
  intro hTimer
  rcases init_outcome hWrites hLimited before with hIdle | hTicking
  · exact absurd hIdle.timers hTimer
  · exact ⟨hTicking.daily, hTicking.total⟩

/-- A start keeps the quota. -/
theorem QuotaKept.of_init (hWrites : answers.WritesSucceed) (hLimited : Limited config)
    (before : NandLifeController) : (before.restarted.init answers config).1.QuotaKept := by
  intro hEnabled
  rcases init_outcome hWrites hLimited before with hIdle | hTicking
  · rw [SwapOutEnabled, hIdle.enableWrites] at hEnabled
    cases hEnabled
  · rw [SwapOutEnabled, hTicking.enableWrites] at hEnabled
    split_ifs at hEnabled with hReached
    · cases hEnabled
    · rw [not_or, Nat.not_le, Nat.not_le] at hReached
      rw [hTicking.daily, hTicking.total]
      exact ⟨hReached.2, hReached.1⟩

/-- What a tick needs to keep the quotas. -/
def KeepsQuota (config : NandLifeConfig) (controller : NandLifeController) : NandLifeOp → Prop
  | .restart _ => False
  | .tick answers => 0 < config.dailySwapOutQuotaMb ∨ ¬ NewDayOpens answers controller

/-- A daily quota that fits is positive when the configured one is. -/
theorem dailyQuotaKB_pos_iff (hFits : config.dailySwapOutQuotaMb * 1024 < 2 ^ 64) :
    0 < dailyQuotaKB config ↔ 0 < config.dailySwapOutQuotaMb := by
  rw [dailyQuotaKB, wrapULL, Nat.mod_eq_of_lt hFits]
  omega

theorem Configured.quotaKept_iff (h : Configured config controller)
    (hFits : config.dailySwapOutQuotaMb * 1024 < 2 ^ 64) {op : NandLifeOp} {after : NandLifeController}
    (hTick : WritingTick op) (hStep : Step config controller op after) :
    after.QuotaKept ↔ KeepsQuota config controller op := by
  cases hStep with
  | restart answers => exact hTick.elim
  | tick answers hTimer =>
      rw [quotaKept_checkSwapOut_iff hTick, (h hTimer).1, dailyQuotaKB_pos_iff hFits]
      rfl

/-- The configured quotas stay in place through a run. -/
theorem configured_of_run {start sys : NandLifeController} {allowed : NandLifeController → NandLifeOp → Prop}
    (run : Run (Step config) allowed start sys) (hStart : Configured config start)
    (hTicks : ∀ controller op, allowed controller op → WritingTick op) : Configured config sys := by
  apply run.invariant _ hStart
  intro controller op after h hAllowed hStep
  cases hStep with
  | restart answers => exact (hTicks _ _ hAllowed).elim
  | tick answers hTimer => exact h.checkSwapOut hTimer answers

/-- The start keeps the quotas, and so does a run whose ticks begin no day without quota.
A tick that begins one breaks them. -/
theorem quotaKept_run {before : NandLifeController} (hWrites : answers.WritesSucceed)
    (hLimited : Limited config) (hFits : config.dailySwapOutQuotaMb * 1024 < 2 ^ 64) :
    (∀ sys, Run (Step config) (fun controller op => WritingTick op ∧ KeepsQuota config controller op)
      (before.restarted.init answers config).1 sys → sys.QuotaKept) ∧
    ∀ sys op after, Run (Step config) (fun _ op => WritingTick op)
      (before.restarted.init answers config).1 sys → WritingTick op → Step config sys op after →
      (after.QuotaKept ↔ KeepsQuota config sys op) := by
  have hConfigured := Configured.of_init hWrites hLimited before
  constructor
  · intro sys run
    cases run with
    | zero => exact .of_init hWrites hLimited before
    | succ prior hAllowed last =>
        have h := configured_of_run prior hConfigured fun _ _ h => h.1
        exact (h.quotaKept_iff hFits hAllowed.1 last).mpr hAllowed.2
  · intro sys op after run hTick hStep
    have h := configured_of_run run hConfigured fun _ _ h => h
    exact h.quotaKept_iff hFits hTick hStep

/-- Every write succeeds, and the counter reads the same number each time. -/
def answersReading (swapOutKB : Nat) : NandLifeAnswers :=
  ⟨true, fun _ => some swapOutKB, fun _ _ => true, fun _ => true, fun _ => false⟩

theorem writesSucceed_answersReading (swapOutKB : Nat) : (answersReading swapOutKB).WritesSucceed :=
  ⟨rfl, fun _ => rfl⟩

/-- A device whose day has its last quarter of an hour left. -/
def endingDay : NandLifeController :=
  ⟨false, ⟨0, 0⟩, 0, 0, 0, 0, 0, 0, 0, 0, 0, fun param => some (if param = .minsToday then "1425" else "0"), []⟩

/-- The end of that day, after a start. -/
def newDay (config : NandLifeConfig) : NandLifeController :=
  (endingDay.restarted.init (answersReading 0) config).1.checkSwapOut (answersReading 0)

/-- A tick after the end of a day. -/
theorem step_newDay {config : NandLifeConfig}
    (hTimer : (endingDay.restarted.init (answersReading 0) config).1.timers ≠ 0) :
    Step config (endingDay.restarted.init (answersReading 0) config).1 (.tick (answersReading 0))
      (newDay config) :=
  .tick _ _ hTimer

/-- With a quota for the day, the new day switches the device on and keeps the quotas. -/
theorem quotaKept_newDay : (newDay ⟨1, 1⟩).SwapOutEnabled ∧ (newDay ⟨1, 1⟩).QuotaKept := by
  constructor
  · decide +kernel
  · have hRun := (@quotaKept_run (answersReading 0) ⟨1, 1⟩ endingDay (writesSucceed_answersReading 0)
      (by decide) (by decide)).1
    apply hRun
    apply Run.succ .zero _ (step_newDay (by decide +kernel))
    exact ⟨writesSucceed_answersReading 0, Or.inl (by decide)⟩

/-- Without one it switches the device on all the same. -/
theorem quotaKept_fails_for_newDay :
    Limited ⟨0, 1⟩ ∧ Run (Step ⟨0, 1⟩) (fun _ op => WritingTick op)
      (endingDay.restarted.init (answersReading 0) ⟨0, 1⟩).1 (newDay ⟨0, 1⟩) ∧
      ¬ (newDay ⟨0, 1⟩).QuotaKept := by
  refine ⟨by decide, ?_, ?_⟩
  · apply Run.succ .zero _ (step_newDay (by decide +kernel))
    exact writesSucceed_answersReading 0
  · intro hKept
    have hEnabled : (newDay ⟨0, 1⟩).SwapOutEnabled := by decide +kernel
    exact absurd (hKept hEnabled).1 (by decide +kernel)

end MemMgr.NandLifeController
