import MemMgr.NandLifeQuota

/-! The total quota across restarts. Once it is used up, every start and every tick
leaves the swap device off. -/
namespace MemMgr.NandLifeController

open Execution

variable {answers : NandLifeAnswers} {controller after : NandLifeController} {config : NandLifeConfig}
  {op : NandLifeOp}

/-- An operation that meets no failing write. -/
def WritingOp : NandLifeOp → Prop
  | .restart answers | .tick answers => answers.WritesSucceed

/-- The end is recorded, or it is due at the next start and no tick comes before it. -/
def ClosedForGood (config : NandLifeConfig) (controller : NandLifeController) : Prop :=
  controller.isSwapOutClosedPermently = true ∨
    controller.timers = 0 ∧ totalQuotaKB config ≤ controller.storedSinceBirth

theorem isSwapOutClosedPermently_congr (hParams : after.params = controller.params) :
    after.isSwapOutClosedPermently = controller.isSwapOutClosedPermently := by
  rw [isSwapOutClosedPermently, isSwapOutClosedPermently, getParameter, getParameter, hParams]

theorem storedSinceBirth_congr (hParams : after.params = controller.params) :
    after.storedSinceBirth = controller.storedSinceBirth := by
  rw [storedSinceBirth, storedSinceBirth, getParameter, getParameter, hParams]

/-- A start with the total quota used up records the end. -/
theorem StartsTicking.closed (hStart : StartsTicking config controller after)
    (hReached : totalQuotaKB config ≤ after.swapOutKBSinceBirth) :
    after.isSwapOutClosedPermently = true := by
  have hParams := hStart.params
  rw [if_pos hReached] at hParams
  simp [isSwapOutClosedPermently, getParameter, hParams]

/-- Closed for good, the swap stays so after a step, and the step writes that it is closed. -/
theorem ClosedForGood.step (h : ClosedForGood config controller) (hLimited : Limited config)
    (hWrites : WritingOp op) (hStep : Step config controller op after) :
    ClosedForGood config after ∧ after.enableWrites = .disableEswap :: controller.enableWrites := by
  cases hStep with
  | restart answers =>
      rcases init_outcome hWrites hLimited controller with hIdle | hTicking
      · refine ⟨?_, hIdle.enableWrites⟩
        rw [ClosedForGood, isSwapOutClosedPermently_congr hIdle.params, storedSinceBirth_congr hIdle.params]
        rcases h with hClosed | hDue
        · exact Or.inl hClosed
        · exact Or.inr ⟨hIdle.timers, hDue.2⟩
      · -- The recorded end stops a start before the first timer.
        rcases h with hClosed | hDue
        · exact absurd (hTicking.opened.symm.trans hClosed) Bool.false_ne_true
        · have hReached := hDue.2
          rw [← hTicking.stored] at hReached
          refine ⟨Or.inl (hTicking.closed hReached), ?_⟩
          rw [hTicking.enableWrites, if_pos (Or.inl hReached)]
  | tick answers hTimer =>
      have hClosed := h.resolve_right fun hDue => hTimer hDue.1
      have hNone : acceptedReading answers controller = none := by rw [acceptedReading, if_pos hClosed]
      obtain ⟨_, _, _, hTick⟩ := checkSwapOut_idle hNone
      rw [hTick, closeSwapOutTemporarily_eq hWrites]
      exact ⟨Or.inl hClosed, rfl⟩

/-- While the timer runs, the quotas in force are the configured ones, and the end is
recorded or not reached. -/
structure EndWatched (config : NandLifeConfig) (controller : NandLifeController) : Prop where
  configured : Configured config controller
  recorded : controller.timers ≠ 0 → controller.isSwapOutClosedPermently = true ∨
    controller.swapOutKBSinceBirth < totalQuotaKB config

/-- The end of the life stays watched after a step. -/
theorem EndWatched.step (h : EndWatched config controller) (hLimited : Limited config)
    (hWrites : WritingOp op) (hStep : Step config controller op after) :
    EndWatched config after := by
  cases hStep with
  | restart answers =>
      refine ⟨.of_init hWrites hLimited controller, fun hTimer => ?_⟩
      rcases init_outcome hWrites hLimited controller with hIdle | hTicking
      · exact absurd hIdle.timers hTimer
      · rcases Nat.lt_or_ge (controller.restarted.init answers config).1.swapOutKBSinceBirth
          (totalQuotaKB config) with hBelow | hReached
        · exact Or.inr hBelow
        · exact Or.inl (hTicking.closed hReached)
  | tick answers hTimer =>
      refine ⟨h.configured.checkSwapOut hTimer answers, fun _ => ?_⟩
      cases hAccepted : acceptedReading answers controller with
      | none =>
          obtain ⟨_, _, _, hTick⟩ := checkSwapOut_idle hAccepted
          rw [hTick, closeSwapOutTemporarily_eq hWrites]
          exact h.recorded hTimer
      | some nowSwapOutKB =>
          have hCounted := counted_checkSwapOut hAccepted
          have hTotal := (h.configured.checkSwapOut hTimer answers (by simp [hCounted.timers])).2
          rcases Nat.lt_or_ge (controller.checkSwapOut answers).swapOutKBSinceBirth
            (totalQuotaKB config) with hBelow | hReached
          · exact Or.inr hBelow
          · apply Or.inl
            rw [← hTotal, hCounted.total, (checkSwapOut_counting hAccepted).2.2] at hReached
            rw [(checkSwapOut_counting hAccepted).2.2]
            exact (closed_countSwapOut hWrites hReached).1

/-- An operation that leaves the total quota used up closes for good. -/
theorem EndWatched.closedForGood (h : EndWatched config controller) (hLimited : Limited config)
    (hWrites : WritingOp op) (hStep : Step config controller op after)
    (hReached : totalQuotaKB config ≤ after.swapOutKBSinceBirth) : ClosedForGood config after := by
  have hAfter := h.step hLimited hWrites hStep
  by_cases hTimer : after.timers = 0
  · cases hStep with
    | restart answers =>
        rcases init_outcome hWrites hLimited controller with hIdle | hTicking
        · rcases hIdle.total with hClosed | hZero | hStored
          · exact Or.inl hClosed
          · rw [hZero] at hReached
            exact Or.inr ⟨hTimer, Nat.le_trans hReached (Nat.zero_le _)⟩
          · rw [hStored] at hReached
            rw [← storedSinceBirth_congr hIdle.params] at hReached
            exact Or.inr ⟨hTimer, hReached⟩
        · exact Or.inl (hTicking.closed hReached)
    | tick answers hPosted =>
        -- A tick sets the timer again.
        cases hAccepted : acceptedReading answers controller with
        | none =>
            obtain ⟨_, _, _, hTick⟩ := checkSwapOut_idle hAccepted
            rw [hTick, closeSwapOutTemporarily_eq hWrites] at hTimer
            cases hTimer
        | some nowSwapOutKB =>
            rw [(counted_checkSwapOut hAccepted).timers] at hTimer
            cases hTimer
  · rcases hAfter.recorded hTimer with hClosed | hBelow
    · exact Or.inl hClosed
    · exact absurd hReached (Nat.not_le.mpr hBelow)

/-- Closed for good, the swap stays so through every run of ticks and restarts. -/
theorem ClosedForGood.run {start finish : NandLifeController} (h : ClosedForGood config start)
    (hLimited : Limited config)
    (run : Run (Step config) (fun _ op => WritingOp op) start finish) :
    ClosedForGood config finish ∧ ∃ writes, finish.enableWrites = writes ++ start.enableWrites ∧
      .enableEswap ∉ writes := by
  induction run with
  | zero => exact ⟨h, [], rfl, List.not_mem_nil⟩
  | succ prior hWrites last ih =>
      obtain ⟨hClosed, writes, hSame, hNot⟩ := ih
      obtain ⟨hAfter, hWritten⟩ := hClosed.step hLimited hWrites last
      refine ⟨hAfter, .disableEswap :: writes, ?_, ?_⟩
      · rw [hWritten, hSame, List.cons_append]
      · intro hMem
        rcases List.mem_cons.mp hMem with hEq | hMem
        · cases hEq
        · exact hNot hMem

/-- After an operation that leaves the total quota used up, no tick and no start of the
service switches the device on. -/
theorem never_reopens {start prior sys later : NandLifeController} (hStart : start.timers = 0)
    (hLimited : Limited config)
    (run : Run (Step config) (fun _ op => WritingOp op) start prior)
    (hWrites : WritingOp op) (last : Step config prior op sys)
    (hReached : totalQuotaKB config ≤ sys.swapOutKBSinceBirth)
    (rest : Run (Step config) (fun _ op => WritingOp op) sys later) :
    ∃ writes, later.enableWrites = writes ++ sys.enableWrites ∧ .enableEswap ∉ writes := by
  have hWatched : EndWatched config prior := by
    apply run.invariant
    · exact ⟨fun hTimer => absurd hStart hTimer, fun hTimer => absurd hStart hTimer⟩
    · intro controller op after h hWrites hStep
      exact h.step hLimited hWrites hStep
  exact ((hWatched.closedForGood hLimited hWrites last hReached).run hLimited rest).2

/-- A tick beyond the quota, and a start after it. -/
theorem never_reopens_restarted :
    let started := (endingDay.restarted.init (answersReading 0) ⟨1, 1⟩).1
    let reached := started.checkSwapOut (answersReading 2000)
    let later := (reached.restarted.init (answersReading 2000) ⟨1, 1⟩).1
    started.SwapOutEnabled ∧ ∃ writes, later.enableWrites = writes ++ reached.enableWrites ∧
      .enableEswap ∉ writes := by
  intro started reached later
  refine ⟨by decide +kernel, ?_⟩
  have hWrites : ∀ swapOutKB, (answersReading swapOutKB).WritesSucceed := writesSucceed_answersReading
  apply @never_reopens ⟨1, 1⟩ (.tick (answersReading 2000)) endingDay started reached later rfl (by decide)
  · apply Run.succ .zero _ (.restart _ _)
    exact hWrites 0
  · exact hWrites 2000
  · exact .tick _ _ (by decide +kernel)
  · decide +kernel
  · apply Run.succ .zero _ (.restart _ _)
    exact hWrites 2000

end MemMgr.NandLifeController
