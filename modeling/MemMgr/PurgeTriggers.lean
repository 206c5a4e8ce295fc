import MemMgr.SubscriberMessages

/-! How often pressure is acted on. The limit is on the events of pressure alone, and everything else
that the handler does comes in between. -/
namespace MemMgr.PurgeableMemManager

/-- The time of an event of pressure that writes something, or has all subscribers trim. -/
def triggerTime (m : PurgeableMemManager) : Op → Option Int
  | .runTask reading =>
      match m.broadcast, m.handler with
      | none, .notifyMemoryLevelInner info :: _ =>
          if info.source ≠ .manualDump ∧ ((m.runTask reading).2 ≠ [] ∨ (m.runTask reading).1.broadcast ≠ none)
          then some reading.now
          else none
      | _, _ => none
  | _ => none

def triggerStep (m : PurgeableMemManager) (op : Op) : PurgeableMemManager × List Int :=
  ((step m op).1, (triggerTime m op).toList)

/-- The times of the events of pressure that are acted on, in order. -/
abbrev triggerTimes (ops : List Op) : List Int := Transducer.outputs triggerStep init ops

/-- The clock is past its origin. -/
def ClockRuns (ops : List Op) : Prop := ∀ reading, .runTask reading ∈ ops → 0 < reading.now

variable {m : PurgeableMemManager} {op : Op} {reading : TaskReading} {ops : List Op}

/-- An event too soon after the last one does nothing. -/
theorem runTriggerByPsi_tooSoon (info : SystemMemoryInfo) (h : TooSoon m.lastTriggerTime reading.now) :
    m.runTriggerByPsi info reading = (m, []) := by
  rw [runTriggerByPsi, triggerByPsi.eq_def, if_pos h]
  rfl

/-- Any other event sets the time of the last one. -/
theorem lastTriggerTime_runTriggerByPsi (info : SystemMemoryInfo)
    (h : ¬ TooSoon m.lastTriggerTime reading.now) :
    (m.runTriggerByPsi info reading).1.lastTriggerTime = reading.now := by
  have hOutcome : (triggerByPsi reading.purgeWhiteAppSet reading.ashmSort reading.kernel info.level
      reading.now reading.currentBuffer reading.getPurgeable m.lastTriggerTime).lastTriggerTime =
        reading.now := by
    rw [triggerByPsi.eq_def, if_neg h]
    split
    · rfl
    · split_ifs <;> rfl
  rw [runTriggerByPsi, hOutcome]
  dsimp only
  split <;> rfl

/-- What an event of pressure comes to, seen from the limit. -/
inductive PsiEffect (m : PurgeableMemManager) (now : Int) (after : PurgeableMemManager × List Output) : Prop where
  | tooSoon (hSame : after = (m, []))
  | due (hDue : ¬ TooSoon m.lastTriggerTime now) (hTime : after.1.lastTriggerTime = now)

theorem psiEffect_runTriggerByPsi (info : SystemMemoryInfo) :
    PsiEffect m reading.now (m.runTriggerByPsi info reading) := by
  by_cases hSoon : TooSoon m.lastTriggerTime reading.now
  · exact .tooSoon (runTriggerByPsi_tooSoon info hSoon)
  · exact .due hSoon (lastTriggerTime_runTriggerByPsi info hSoon)

/-- A task that is not an event of pressure neither writes nor moves the last trigger. -/
theorem perform_quiet (reading : TaskReading) (task : PurgeableTask)
    (h : ∀ info, task = .notifyMemoryLevelInner info → info.source = .manualDump) :
    (m.perform reading task).1.lastTriggerTime = m.lastTriggerTime ∧
      ∀ write done, Output.wrote write done ∉ (m.perform reading task).2 := by
  cases task with
  | addSubscriberInner subscriber => exact ⟨rfl, by simp [perform, inner]⟩
  | registerActiveAppsInner pid uid =>
      refine ⟨?_, by simp [perform]⟩
      rw [perform, registerActiveAppsInner]
      split_ifs <;> rfl
  | deregisterActiveAppsInner pid uid =>
      refine ⟨?_, by simp [perform]⟩
      rw [perform, deregisterActiveAppsInner]
      split
      · rfl
      · split_ifs <;> rfl
  | changeAppStateInner pid uid state =>
      refine ⟨?_, by simp [perform]⟩
      rw [perform, changeAppStateInner]
      split
      · rfl
      · split_ifs <;> rfl
  | notifyMemoryLevelInner info =>
      rw [perform, notifyMemoryLevelInner, h info rfl]
      refine ⟨?_, by simp⟩
      dsimp only
      rw [triggerByManualDump]
      split_ifs <;> rfl

theorem triggerTime_event {info : SystemMemoryInfo} {handler : List PurgeableTask}
    (hIdle : m.broadcast = none) (hHandler : m.handler = .notifyMemoryLevelInner info :: handler) :
    triggerTime m (.runTask reading) =
      if info.source ≠ .manualDump ∧ ((m.runTask reading).2 ≠ [] ∨ (m.runTask reading).1.broadcast ≠ none)
      then some reading.now
      else none := by
  rw [triggerTime, hIdle, hHandler]

/-- A task that is no event of pressure triggers nothing. -/
theorem triggerTime_quiet {task : PurgeableTask} {handler : List PurgeableTask}
    (hIdle : m.broadcast = none) (hHandler : m.handler = task :: handler)
    (h : ∀ info, task = .notifyMemoryLevelInner info → info.source = .manualDump) :
    triggerTime m (.runTask reading) = none := by
  cases task with
  | notifyMemoryLevelInner info =>
      rw [triggerTime_event hIdle hHandler, if_neg (fun hActs => hActs.1 (h info rfl))]
  | _ => rw [triggerTime, hIdle, hHandler]

/-- What a step does to the last trigger, and when it acts. -/
inductive TriggerEffect (m : PurgeableMemManager) (op : Op) : Prop where
  | quiet (hTime : (step m op).1.lastTriggerTime = m.lastTriggerTime) (hNone : triggerTime m op = none)
      (hWrites : ∀ write done, Output.wrote write done ∉ (step m op).2)
  | due (reading : TaskReading) (hOp : op = .runTask reading) (hDue : ¬ TooSoon m.lastTriggerTime reading.now)
      (hTime : (step m op).1.lastTriggerTime = reading.now)
      (hActs : triggerTime m op = none ∨ triggerTime m op = some reading.now)
      (hWrites : ∀ write done, Output.wrote write done ∈ (step m op).2 → triggerTime m op ≠ none)

theorem triggerEffect_event {info : SystemMemoryInfo} {handler : List PurgeableTask}
    (hIdle : m.broadcast = none) (hHandler : m.handler = .notifyMemoryLevelInner info :: handler)
    (hSource : info.source ≠ .manualDump) : TriggerEffect m (.runTask reading) := by
  have hRun := runTask_begin hIdle hHandler reading
  have hTrigger := @triggerTime_event m reading info handler hIdle hHandler
  have hEffect : PsiEffect { m with handler } reading.now (m.runTask reading) := by
    rw [hRun, perform]
    obtain ⟨source, level⟩ := info
    cases source with
    | unknown => exact .tooSoon rfl
    | psiMemory => exact psiEffect_runTriggerByPsi _
    | kswapd => exact psiEffect_runTriggerByPsi _
    | manualDump => exact absurd rfl hSource
  cases hEffect with
  | tooSoon hSame =>
      rw [hSame] at hTrigger
      apply TriggerEffect.quiet
      · rw [step, hSame]
      · rw [hTrigger, if_neg (by simp [hIdle])]
      · rw [step, hSame]
        simp
  | due hDue hTime =>
      refine .due reading rfl hDue hTime ?_ ?_
      · rw [hTrigger]
        split_ifs
        · exact Or.inr rfl
        · exact Or.inl rfl
      · intro write done hWrote
        have hActs : (m.runTask reading).2 ≠ [] := List.ne_nil_of_mem hWrote
        rw [hTrigger, if_pos ⟨hSource, Or.inl hActs⟩]
        exact Option.some_ne_none _

/-- One step triggers at most once, and no sooner than the interval allows. -/
theorem triggerEffect_step (hInitialized : m.initialized = true) (op : Op) : TriggerEffect m op := by
  cases hOp : isRunTask op with
  | false =>
      refine .quiet (posts_step hOp hInitialized).lastTriggerTime ?_ ?_
      · cases op with
        | runTask reading => cases hOp
        | _ => rfl
      · exact wrote_not_mem_step hOp
  | true =>
      cases op with
      | runTask reading =>
          rcases runTask_cases m reading with
            ⟨message, hMessage, hRun⟩ | ⟨hIdle, hNil, hRun⟩ | ⟨hIdle, task, handler, hHandler, hRun⟩
          · refine .quiet ?_ ?_ ?_
            · rw [step, hRun]
            · rw [triggerTime, hMessage]
            · rw [step, hRun]
              simp [tellAll]
          · refine .quiet ?_ ?_ ?_
            · rw [step, hRun]
            · rw [triggerTime, hIdle, hNil]
            · rw [step, hRun]
              simp
          · by_cases hQuiet : ∀ info, task = .notifyMemoryLevelInner info → info.source = .manualDump
            · obtain ⟨hTime, hWrites⟩ := @perform_quiet { m with handler } reading task hQuiet
              refine .quiet ?_ (triggerTime_quiet hIdle hHandler hQuiet) ?_
              · rw [step, hRun]
                exact hTime
              · rw [step, hRun]
                exact hWrites
            · push Not at hQuiet
              obtain ⟨info, rfl, hSource⟩ := hQuiet
              exact triggerEffect_event hIdle hHandler hSource
      | _ => cases hOp

/-- Each time so far is at least the interval before the next, and the last trigger is no earlier. -/
structure Spaced (times : List Int) (m : PurgeableMemManager) : Prop where
  apart : times.Pairwise fun earlier later => earlier + triggerIntervalSecond ≤ later
  before : ∀ time ∈ times, 0 < time ∧ time ≤ m.lastTriggerTime

/-- A step keeps the times of the triggers apart. -/
theorem Spaced.step {times : List Int} (h : Spaced times m) (hInitialized : m.initialized = true)
    (hClock : ∀ reading, op = .runTask reading → 0 < reading.now) :
    Spaced (times ++ (triggerTime m op).toList) (step m op).1 := by
  cases triggerEffect_step hInitialized op with
  | quiet hTime hNone hWrites =>
      rw [hNone, Option.toList_none, List.append_nil]
      exact ⟨h.apart, by rw [hTime]; exact h.before⟩
  | due reading hOp hDue hTime hActs hWrites =>
      have hNow := hClock reading hOp
      have hLate : ∀ time ∈ times, time + triggerIntervalSecond ≤ reading.now := by
        intro time hMem
        obtain ⟨hPositive, hBefore⟩ := h.before time hMem
        rw [TooSoon] at hDue
        omega
      have hBefore : ∀ time ∈ times, 0 < time ∧ time ≤ reading.now := by
        intro time hMem
        have hInterval : (0 : Int) ≤ triggerIntervalSecond := by decide
        exact ⟨(h.before time hMem).1, by have := hLate time hMem; omega⟩
      rcases hActs with hNone | hSome
      · rw [hNone, Option.toList_none, List.append_nil]
        exact ⟨h.apart, by rw [hTime]; exact hBefore⟩
      · rw [hSome, Option.toList_some]
        constructor
        · rw [List.pairwise_append]
          exact ⟨h.apart, List.pairwise_singleton _ _, by simpa using hLate⟩
        · rw [hTime]
          intro time hMem
          rcases List.mem_append.mp hMem with hOld | hNew
          · exact hBefore time hOld
          · obtain rfl := List.mem_singleton.mp hNew
            exact ⟨hNow, le_refl _⟩

/-- In a run whose clock goes on, the times of the triggers are apart. -/
theorem spaced_run {ops : List Op} (hClock : ClockRuns ops) : Spaced (triggerTimes ops) (run ops) := by
  induction ops using List.reverseRecOn with
  | nil => exact ⟨List.Pairwise.nil, by simp [triggerTimes]⟩
  | append_singleton ops op ih =>
      have hBefore : ClockRuns ops := fun reading hMem => hClock reading (List.mem_append_left _ hMem)
      have hSpaced := @Spaced.step _ op _ (ih hBefore) (@initialized_finalState init rfl ops)
      rw [triggerTimes, Transducer.outputs_concat, run, Transducer.finalState_concat]
      apply hSpaced
      rintro reading rfl
      exact hClock reading (by simp)

/-- The events of pressure that are acted on are at least the interval apart, whatever else the handler
does, and nothing is written but by them. -/
theorem triggerTimes_apart (ops : List Op) (hClock : ClockRuns ops) :
    (triggerTimes ops).Pairwise (fun earlier later => earlier + triggerIntervalSecond ≤ later) ∧
      ∀ before op, before ++ [op] <+: ops → ∀ write done,
        Output.wrote write done ∈ (step (run before) op).2 → triggerTime (run before) op ≠ none := by
  refine ⟨(spaced_run hClock).apart, ?_⟩
  intro before op hPrefix write done hWrote
  cases triggerEffect_step (@initialized_finalState init rfl before) op with
  | quiet hTime hNone hWrites => exact absurd hWrote (hWrites write done)
  | due reading hOp hDue hTime hActs hWrites => exact hWrites write done hWrote

/-- A low buffer, and what can be purged at that time. -/
def pressureReading (now : Int) : TaskReading where
  makeRecipient := true
  now := now
  currentBuffer := 900
  getPurgeable := some 1000
  purgeWhiteAppSet := Std.ExtTreeSet.ofList ["photos", "music"]
  ashmSort := stableSort
  kernel := twoPhases fun index => index != 2

/-- Three events of which the second comes too soon. The first has the subscribers trim. -/
def pressed : List Op :=
  [.notifyMemoryLevel ⟨.psiMemory, .memoryLevelLow⟩, .notifyMemoryLevel ⟨.kswapd, .memoryLevelLow⟩,
    .notifyMemoryLevel ⟨.psiMemory, .memoryLevelCritical⟩, .runTask (pressureReading 20),
    .runTask (pressureReading 21), .runTask (pressureReading 25), .runTask (pressureReading 30)]

theorem triggerTimes_apart_pressed : triggerTimes pressed = [20, 30] ∧
    (triggerTimes pressed).Pairwise fun earlier later => earlier + triggerIntervalSecond ≤ later := by
  have hClock : ClockRuns pressed := by
    intro reading hReading
    simp only [pressed, List.mem_cons, reduceCtorEq, Op.runTask.injEq, List.not_mem_nil, false_or,
      or_false] at hReading
    rcases hReading with rfl | rfl | rfl | rfl <;> decide
  exact ⟨by decide, (triggerTimes_apart pressed hClock).1⟩

end MemMgr.PurgeableMemManager
