import MemMgr.EventRegistrations

/-! When nothing waits any more in the event center, what it registers is registered. A connection of
extensions is tried until it stands, the account until it has been tried often enough. -/
namespace MemMgr.MemMgrEventCenter

def lastAnswer (observer : EventObserver) (log : List Output) : Option Int32 :=
  (log.filterMap (answered observer)).getLast?

/-- The account cannot be tried again without a pointer. -/
def CanMake (observer : EventObserver) (answers : RegisterAnswers) : Prop :=
  observer = .account → answers.makePointer .account = true

/-- A task that will try to register an observer. -/
def Owes (observer : EventObserver) (center : MemMgrEventCenter) (task : RegisterTask) : Prop :=
  task = .register observer ∨ task = .registerEventObserver ∧ center.observer observer = false

inductive Progress (observer : EventObserver) (center : MemMgrEventCenter) (log : List Output) : Prop where
  | waiting (task : RegisterTask) (hTask : task ∈ center.handler ∨ task ∈ center.delayed)
      (hOwes : Owes observer center task)
  | done (hAnswer : lastAnswer observer log = some errOk)
  | givenUp (hAccount : observer = .account) (hOften : accountMaxRetryTimes ≤ center.regAccountObsRetry)

variable {answers : RegisterAnswers} {center : MemMgrEventCenter} {observer other : EventObserver}
variable {log : List Output} {after : MemMgrEventCenter × List Output}

theorem answered_of_ne {output : Output} (h : attempted output = some other) (hOther : other ≠ observer) :
    answered observer output = none := by
  cases output with
  | registerObserver ret =>
      obtain rfl := Option.some.inj h
      exact if_neg hOther.symm
  | subscribeOsAccount errCode =>
      obtain rfl := Option.some.inj h
      exact if_neg hOther.symm
  | _ => rfl

theorem lastAnswer_append_of_none {outputs : List Output}
    (h : outputs.filterMap (answered observer) = []) :
    lastAnswer observer (log ++ outputs) = lastAnswer observer log := by
  rw [lastAnswer, List.filterMap_append, h, List.append_nil, lastAnswer]

theorem Outcome.answered_of_ne {after : MemMgrEventCenter} {outputs : List Output}
    (h : Outcome answers other after outputs) (hOther : other ≠ observer) :
    outputs.filterMap (answered observer) = [] := by
  cases h with
  | called output hAttempted =>
      rw [List.filterMap_cons_none (MemMgrEventCenter.answered_of_ne hAttempted hOther)]
      rfl
  | putOff output delay hAttempted =>
      rw [List.filterMap_cons_none (MemMgrEventCenter.answered_of_ne hAttempted hOther)]
      rfl
  | _ => rfl

theorem Progress.append (h : Progress observer center log) {outputs : List Output}
    (hNone : outputs.filterMap (answered observer) = []) : Progress observer center (log ++ outputs) := by
  cases h with
  | waiting task hTask hOwes => exact .waiting task hTask hOwes
  | done hAnswer => exact .done ((lastAnswer_append_of_none hNone).trans hAnswer)
  | givenUp hAccount hOften => exact .givenUp hAccount hOften

/-- A registration of another observer takes nothing away. -/
theorem Progress.registers_of_ne (h : Progress observer center log)
    (hRegisters : Registers answers other center after) (hOther : other ≠ observer) :
    Progress observer after.1 (log ++ after.2) := by
  cases h with
  | waiting task hTask hOwes =>
      refine .waiting task ?_ ?_
      · rw [hRegisters.handler, hRegisters.delayed]
        exact hTask.imp_right (List.mem_append_left _)
      · rw [Owes, hRegisters.observer_of_ne observer hOther.symm]
        exact hOwes
  | done hAnswer =>
      refine .done ?_
      rw [lastAnswer_append_of_none (hRegisters.outcome.answered_of_ne hOther)]
      exact hAnswer
  | givenUp hAccount hOften =>
      refine .givenUp hAccount ?_
      rw [hRegisters.retry]
      omega

/-- After a registration it is registered, or tried again, or has been tried often enough. -/
theorem progress_registers (hRegisters : Registers answers observer center after)
    (hRetried : isRetried observer = true) (hMake : CanMake observer answers) :
    Progress observer after.1 (log ++ after.2) := by
  have hOutcome := hRegisters.outcome
  have hDelayed := hRegisters.delayed
  have hMade := hRegisters.made
  generalize after.2 = outputs at hOutcome hDelayed ⊢
  have hAgain : .register observer ∈ posted outputs → Progress observer after.1 (log ++ outputs) := by
    intro hMem
    refine .waiting (.register observer) (.inr ?_) (.inl rfl)
    rw [hDelayed]
    exact List.mem_append_right _ hMem
  cases hOutcome with
  | notMade hNone hOther =>
      have hAccount : observer = .account := by
        cases observer with
        | account => rfl
        | extConn => exact absurd rfl hOther
        | _ => cases hRetried
      subst hAccount
      rcases hNone with hNone | ⟨hApp, -⟩
      · rw [hMade (by simp) (hMake rfl)] at hNone
        cases hNone
      · cases hApp
  | setUpLater hPressure =>
      cases observer with
      | memoryPressure => cases hRetried
      | kswapd => cases hRetried
      | _ => cases hPressure
  | called output hAttempted hPressure hDone =>
      obtain ⟨ret, hAnswer, hRegistered | ⟨hAccount, hOften⟩⟩ := hDone hRetried
      · refine .done ?_
        rw [lastAnswer, List.filterMap_append, List.filterMap_cons_some hAnswer, hRegistered]
        simp
      · exact .givenUp hAccount hOften
  | putOff output delay hAttempted => exact hAgain (by rw [posted_cons hAttempted]; exact List.mem_cons_self)
  | notMadeYet hNone hExt => exact hAgain (by simp [posted, postedTask])

theorem Progress.registers (h : Progress observer center log)
    (hRegisters : Registers answers other center after) (hRetried : isRetried observer = true)
    (hMake : CanMake observer answers) : Progress observer after.1 (log ++ after.2) := by
  by_cases hOther : other = observer
  · subst hOther
    exact progress_registers hRegisters hRetried hMake
  · exact h.registers_of_ne hRegisters hOther

theorem Progress.registerMissing (h : Progress observer center log) (other : EventObserver)
    (hRetried : isRetried observer = true) (hMake : CanMake observer answers) :
    Progress observer (center.registerMissing answers other).1
      (log ++ (center.registerMissing answers other).2) := by
  rcases registerMissing_cases answers center other with ⟨-, hSame⟩ | ⟨-, hRegisters⟩
  · rw [hSame, List.append_nil]
    exact h
  · exact h.registers hRegisters hRetried hMake

/-- Going through the observers without a pointer reaches each of them. -/
theorem progress_registerAll (hRetried : isRetried observer = true) (hMake : CanMake observer answers)
    (observers : List EventObserver)
    (h : Progress observer center log ∨ observer ∈ observers ∧ center.observer observer = false) :
    Progress observer (Transducer.finalState (MemMgrEventCenter.registerMissing answers) center observers)
      (log ++ Transducer.outputs (MemMgrEventCenter.registerMissing answers) center observers) := by
  induction observers generalizing center log with
  | nil =>
      rw [Transducer.outputs_nil, List.append_nil]
      exact h.resolve_right (by simp)
  | cons other observers ih =>
      rw [Transducer.outputs, ← List.append_assoc]
      apply ih
      rcases h with h | ⟨hMem, hNull⟩
      · exact .inl (h.registerMissing other hRetried hMake)
      · by_cases hOther : other = observer
        · subst hOther
          left
          rcases registerMissing_cases answers center other with ⟨hMade, -⟩ | ⟨-, hRegisters⟩
          · simp [hMade] at hNull
          · exact progress_registers hRegisters hRetried hMake
        · right
          refine ⟨(List.mem_cons.mp hMem).resolve_left (Ne.symm hOther), ?_⟩
          rcases registerMissing_cases answers center other with ⟨-, hSame⟩ | ⟨-, hRegisters⟩
          · dsimp only
            rw [hSame]
            exact hNull
          · dsimp only
            rw [hRegisters.observer_of_ne observer (Ne.symm hOther)]
            exact hNull

theorem mem_allObservers (observer : EventObserver) : observer ∈ allObservers := by
  cases observer <;> decide

/-- Running a task that owes a registration comes to it, and any other task leaves it to the rest. -/
theorem progress_perform {task : RegisterTask} (hRetried : isRetried observer = true)
    (hMake : CanMake observer answers) (h : Progress observer center log ∨ Owes observer center task) :
    Progress observer (center.perform answers task).1 (log ++ (center.perform answers task).2) := by
  cases task with
  | registerEventObserver =>
      refine progress_registerAll hRetried hMake allObservers (h.imp_right fun hOwes => ?_)
      rcases hOwes with hTask | ⟨-, hNull⟩
      · cases hTask
      · exact ⟨mem_allObservers observer, hNull⟩
  | register other =>
      have hRegisters := registers_register answers center other
      rcases h with h | hTask | ⟨hTask, -⟩
      · exact h.registers hRegisters hRetried hMake
      · obtain rfl := RegisterTask.register.inj hTask
        exact progress_registers hRegisters hRetried hMake
      · cases hTask
  | init other =>
      rcases h with h | hTask | ⟨hTask, -⟩
      · rw [perform]
        refine h.append ?_
        split_ifs <;> rfl
      · cases hTask
      · cases hTask

/-- Taking a task leaves the progress to it or to the rest. -/
theorem Progress.take {task : RegisterTask} {handler delayed : List RegisterTask}
    (h : Progress observer center log)
    (hTask : ∀ waiting, waiting ∈ center.handler ∨ waiting ∈ center.delayed →
      waiting = task ∨ waiting ∈ handler ∨ waiting ∈ delayed) :
    Progress observer { center with handler, delayed } log ∨
      Owes observer { center with handler, delayed } task := by
  cases h with
  | waiting waiting hWaiting hOwes =>
      rcases hTask waiting hWaiting with rfl | hRest
      · exact .inr hOwes
      · exact .inl (.waiting waiting hRest hOwes)
  | done hAnswer => exact .inl (.done hAnswer)
  | givenUp hAccount hOften => exact .inl (.givenUp hAccount hOften)

/-- What the platform may answer while a step is done. -/
def Op.Makes (observer : EventObserver) : Op → Prop
  | .runTask answers => CanMake observer answers
  | .runDelayed _ answers => CanMake observer answers
  | _ => True

theorem Progress.step (h : Progress observer center log) (ids : SystemAbilityIds) {op : Op}
    (hRetried : isRetried observer = true) (hMakes : op.Makes observer) :
    Progress observer (center.step ids op).1 (log ++ (center.step ids op).2) := by
  cases op with
  | onAddSystemAbility systemAbilityId =>
      rw [MemMgrEventCenter.step, List.append_nil, retryRegisterEventObserver_eq]
      cases h with
      | waiting task hTask hOwes => exact .waiting task (hTask.imp_left (List.mem_append_left _)) hOwes
      | done hAnswer => exact .done hAnswer
      | givenUp hAccount hOften => exact .givenUp hAccount hOften
  | onRemoveSystemAbility systemAbilityId =>
      refine h.append ?_
      rw [MemMgrEventCenter.step, removeEventObserver]
      split_ifs <;> rfl
  | onExtensionServiceDied =>
      rw [MemMgrEventCenter.step, List.append_nil]
      cases h with
      | waiting task hTask hOwes =>
          refine .waiting task hTask (hOwes.imp_right fun hAll => ⟨hAll.1, ?_⟩)
          rw [onExtensionServiceDied]
          by_cases hExt : observer = .extConn
          · dsimp only
            rw [hExt, Function.update_self]
          · exact (Function.update_of_ne hExt _ _).trans hAll.2
      | done hAnswer => exact .done hAnswer
      | givenUp hAccount hOften => exact .givenUp hAccount hOften
  | runTask answers =>
      rw [MemMgrEventCenter.step]
      split
      · rw [List.append_nil]
        exact h
      case h_2 task handler hHandler =>
        refine progress_perform hRetried hMakes (h.take fun waiting hWaiting => ?_)
        rw [hHandler, List.mem_cons, or_assoc] at hWaiting
        exact hWaiting
  | runDelayed turn answers =>
      rw [MemMgrEventCenter.step]
      split
      · rw [List.append_nil]
        exact h
      case h_2 task hTask =>
        refine progress_perform hRetried hMakes (h.take fun waiting hWaiting => ?_)
        rw [← (delayed_perm hTask).mem_iff, List.mem_cons] at hWaiting
        tauto

theorem progress_run (ids : SystemAbilityIds) {ops : List Op} (hRetried : isRetried observer = true)
    (hMakes : ∀ op ∈ ops, op.Makes observer) : Progress observer (run ids ops) (called ids ops) := by
  apply Transducer.invariant (fun _ outputs center => Progress observer center outputs)
    (fun _ op => op.Makes observer)
  · exact .waiting .registerEventObserver (.inl List.mem_cons_self) (.inr ⟨rfl, rfl⟩)
  · exact fun _ outputs center op h hOp => h.step ids hRetried hOp
  · exact fun before op hPrefix => hMakes op (hPrefix.subset (by simp))

/-- No task waits. -/
def Quiet (center : MemMgrEventCenter) : Prop := center.handler = [] ∧ center.delayed = []

theorem settled_of_quiet (ids : SystemAbilityIds) {ops : List Op} (hRetried : isRetried observer = true)
    (hMakes : ∀ op ∈ ops, op.Makes observer) (hQuiet : Quiet (run ids ops)) :
    lastAnswer observer (called ids ops) = some errOk ∨
      observer = .account ∧ accountMaxRetryTimes ≤ (run ids ops).regAccountObsRetry := by
  cases progress_run ids hRetried hMakes with
  | waiting task hTask => simp [hQuiet.1, hQuiet.2] at hTask
  | done hAnswer => exact .inl hAnswer
  | givenUp hAccount hOften => exact .inr ⟨hAccount, hOften⟩

/-- The observers of the kernel are set up once at most, the account is put off nine times at most and no
missing observer is used, in whichever order tasks run and whatever fails. When nothing waits, the
connections of extensions are watched, and the account is as well or has been tried ten times. -/
theorem registrations_settle (ids : SystemAbilityIds) (ops : List Op) :
    (∀ observer, isPressure observer = true → attempts observer (called ids ops) ≤ 1) ∧
      retries .account (called ids ops) ≤ 9 ∧ .nullPointer ∉ called ids ops ∧
      (Quiet (run ids ops) →
        lastAnswer .extConn (called ids ops) = some errOk ∧
          ((∀ op ∈ ops, op.Makes .account) → lastAnswer .account (called ids ops) = some errOk ∨
            accountMaxRetryTimes ≤ (run ids ops).regAccountObsRetry)) := by
  have hOnce := pressureOnce_run ids ops
  refine ⟨fun observer hPressure => ?_, hOnce.retries_le_nine, hOnce.nullPointer, fun hQuiet =>
    ⟨?_, fun hMakes => ?_⟩⟩
  · have hAttempts := hOnce.once observer hPressure
    split_ifs at hAttempts <;> omega
  · have hMakes : ∀ op ∈ ops, op.Makes .extConn := by
      intro op _
      cases op <;> first | trivial | exact fun hExt => by cases hExt
    exact (settled_of_quiet ids rfl hMakes hQuiet).resolve_right (by simp)
  · exact (settled_of_quiet ids rfl hMakes hQuiet).imp_right And.right

def someIds : SystemAbilityIds where
  abilityMgrServiceId := 180
  appMgrServiceId := 501
  backgroundTaskManagerServiceId := 1903
  subsysAccountSysAbilityIdBegin := 200
  commonEventServiceId := 3299
  commonEventServiceAbilityId := 3299

/-- All is made and answered, but for two answers. -/
def someAnswers (registerObserver subscribeOsAccount : Int32) : RegisterAnswers where
  makePointer _ := true
  makeAppMgrClient := true
  connectAppMgrServiceFailures := 2
  registerApplicationStateObserver := some 0
  registerObserver := registerObserver
  subscribeOsAccount := subscribeOsAccount
  subscribeCommonEvent := true
  subscribeBackgroundTask := 0

/-- The account and the extensions fail at first, and the account service comes up in between. -/
def retried : List Op :=
  [.runTask (someAnswers 1 1), .onAddSystemAbility 200, .runTask (someAnswers 1 1),
    .runTask (someAnswers 1 1), .runDelayed 2 (someAnswers 1 1), .runDelayed 0 (someAnswers 0 0),
    .runDelayed 2 (someAnswers 0 0), .runDelayed 2 (someAnswers 0 0), .runDelayed 0 (someAnswers 0 0),
    .runDelayed 0 (someAnswers 0 0)]

theorem registrations_settle_retried :
    attempts .memoryPressure (called someIds retried) ≤ 1 ∧
      lastAnswer .extConn (called someIds retried) = some errOk :=
  have h := registrations_settle someIds retried
  ⟨h.1 .memoryPressure rfl, (h.2.2.2 ⟨by decide, by decide⟩).1⟩

end MemMgr.MemMgrEventCenter
