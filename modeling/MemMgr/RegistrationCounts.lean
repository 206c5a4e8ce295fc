import MemMgr.SettledRegistrations

/-! How often everything is registered. As long as there is memory and the service of the extensions
lives, each observer is registered once, once more for every time that its service comes up, and once
more for every time that it was put off. -/
namespace MemMgr.MemMgrEventCenter

/-- The observers that a service has registered again when it comes up. -/
def watches (ids : SystemAbilityIds) : EventObserver → Int32 → Bool
  | .bgTask => isBgTaskService ids
  | .appState => isAppService ids
  | .account => isAccountService ids
  | .commonEvent => isCommonEventService ids
  | .memoryPressure | .kswapd | .extConn => fun _ => false

/-- How often a service of an observer came up. -/
def added (ids : SystemAbilityIds) (observer : EventObserver) (ops : List Op) : Nat :=
  ops.countP fun
    | .onAddSystemAbility systemAbilityId => watches ids observer systemAbilityId
    | _ => false

/-- There is memory for every pointer. -/
structure HealthyAnswers (answers : RegisterAnswers) : Prop where
  makePointer : ∀ observer, answers.makePointer observer = true
  makeAppMgrClient : answers.makeAppMgrClient = true

def Op.Healthy : Op → Prop
  | .runTask answers => HealthyAnswers answers
  | .runDelayed _ answers => HealthyAnswers answers
  | .onExtensionServiceDied => False
  | .onAddSystemAbility _ | .onRemoveSystemAbility _ => True

/-- A task that comes to a call for the observer. -/
def tries (observer : EventObserver) (task : RegisterTask) : Bool :=
  task = .register observer ∨ task = .init observer

def waiting (observer : EventObserver) (center : MemMgrEventCenter) : Nat :=
  center.handler.countP (tries observer) + center.delayed.countP (tries observer)

def successes (outputs : List Output) : Nat := (outputs.filterMap (answered .extConn)).count errOk

/-- Every task that is performed comes to a call, now or when it is tried again. -/
structure Balanced (tried : EventObserver → Nat) (outputs : List Output) : Prop where
  attempts : ∀ observer, attempts observer outputs + (posted outputs).countP (tries observer) =
    tried observer + retries observer outputs
  successes : successes outputs + (posted outputs).countP (tries .extConn) = tried .extConn

variable {answers : RegisterAnswers} {center : MemMgrEventCenter} {observer other : EventObserver}
variable {tried more : EventObserver → Nat} {log outputs : List Output} {ids : SystemAbilityIds}

theorem successes_append (first second : List Output) :
    successes (first ++ second) = successes first + successes second := by
  rw [successes, List.filterMap_append, List.count_append, successes, successes]

theorem posted_postTask (task : RegisterTask) (delay : Nat) : posted [.postTask task delay] = [task] := rfl

theorem attempts_postTask (task : RegisterTask) (delay : Nat) :
    attempts observer [.postTask task delay] = 0 :=
  rfl

theorem successes_postTask (task : RegisterTask) (delay : Nat) : successes [.postTask task delay] = 0 := rfl

theorem Balanced.nil : Balanced (fun _ => 0) [] := ⟨fun _ => rfl, rfl⟩

/-- Two balanced parts of a log are balanced together. -/
theorem Balanced.append (hFirst : Balanced tried log) (hSecond : Balanced more outputs) :
    Balanced (fun observer => tried observer + more observer) (log ++ outputs) where
  attempts observer := by
    have h₁ := hFirst.attempts observer
    have h₂ := hSecond.attempts observer
    rw [attempts_append, posted_append, List.countP_append, retries_append]
    omega
  successes := by
    have h₁ := hFirst.successes
    have h₂ := hSecond.successes
    rw [successes_append, posted_append, List.countP_append]
    omega

/-- One try of one observer. -/
def once (observer other : EventObserver) : Nat := if observer = other then 1 else 0

theorem countP_tries_register (observer other : EventObserver) :
    List.countP (tries other) [.register observer] = once observer other := by
  simp [tries, once, List.countP_cons]

theorem countP_tries_init (observer other : EventObserver) :
    List.countP (tries other) [.init observer] = once observer other := by
  simp [tries, once, List.countP_cons]

theorem count_register (observer other : EventObserver) :
    List.count (.register other) [RegisterTask.register observer] = once observer other := by
  simp [once, List.count_cons]

theorem count_init (observer other : EventObserver) :
    List.count (.register other) [RegisterTask.init observer] = 0 := by
  simp

theorem attempts_call {output : Output} (h : attempted output = some observer) (outputs : List Output) :
    attempts other (output :: outputs) = once observer other + attempts other outputs :=
  attempts_cons h outputs

theorem successes_of_ne {output : Output} (h : attempted output = some observer)
    (hOther : observer ≠ .extConn) (outputs : List Output) :
    successes (output :: outputs) = successes outputs := by
  rw [successes, List.filterMap_cons_none (answered_of_ne h hOther), successes]

/-- The set-up of an observer of the kernel is left to a task. -/
theorem balanced_setUpLater (observer : EventObserver) (delay : Nat) :
    Balanced (once observer) [.postTask (.init observer) delay] where
  attempts other := by
    rw [retries, posted_postTask, countP_tries_init, count_init, attempts_postTask, Nat.zero_add,
      Nat.add_zero]
  successes := by
    rw [posted_postTask, countP_tries_init, successes_postTask, Nat.zero_add]

/-- A call that is not put off makes up the whole of what was to be tried. -/
theorem balanced_called {output : Output} (hAttempted : attempted output = some observer)
    (hDone : observer = .extConn → answered .extConn output = some errOk) :
    Balanced (once observer) [output] where
  attempts other := by
    rw [attempts_call hAttempted, retries, posted_cons hAttempted]
    rfl
  successes := by
    rw [posted_cons hAttempted]
    by_cases hExt : observer = .extConn
    · rw [successes, List.filterMap_cons_some (hDone hExt), hExt]
      rfl
    · rw [successes_of_ne hAttempted hExt, once, if_neg hExt]
      rfl

/-- A call that failed is balanced by the task for the next one. -/
theorem balanced_putOff {output : Output} (hAttempted : attempted output = some observer)
    (hFailed : ∃ ret, answered observer output = some ret ∧ ret ≠ errOk) (delay : Nat) :
    Balanced (once observer) [output, .postTask (.register observer) delay] where
  attempts other := by
    rw [attempts_call hAttempted, retries, posted_cons hAttempted, posted_postTask,
      countP_tries_register, count_register, attempts_postTask, Nat.add_zero]
  successes := by
    rw [posted_cons hAttempted, posted_postTask, countP_tries_register]
    by_cases hExt : observer = .extConn
    · subst hExt
      obtain ⟨ret, hAnswer, hFailed⟩ := hFailed
      have hNone : successes [output, .postTask (.register .extConn) delay] = 0 := by
        rw [successes, List.filterMap_cons_some hAnswer]
        exact List.count_eq_zero_of_not_mem (by simp [answered, hFailed.symm])
      rw [hNone, Nat.zero_add]
    · rw [successes_of_ne hAttempted hExt, successes_postTask, Nat.zero_add]

/-- With memory a registration is one try. -/
theorem Outcome.balanced {after : MemMgrEventCenter} (h : Outcome answers observer after outputs)
    (hMade : after.observer observer = true) (hHealthy : HealthyAnswers answers) :
    Balanced (once observer) outputs := by
  cases h with
  | notMade hNone =>
      rcases hNone with hNone | ⟨-, hClient⟩
      · simp [hMade] at hNone
      · simp [hHealthy.makeAppMgrClient] at hClient
  | setUpLater hPressure => exact balanced_setUpLater observer _
  | called output hAttempted hPressure hDone =>
      refine balanced_called hAttempted fun hExt => ?_
      subst hExt
      obtain ⟨ret, hAnswer, rfl | ⟨hAccount, -⟩⟩ := hDone rfl
      · exact hAnswer
      · cases hAccount
  | putOff output delay hAttempted hPressure hFailed => exact balanced_putOff hAttempted hFailed delay
  | notMadeYet hNone => simp [hMade] at hNone

/-- What performing a task comes to when every pointer is made, at the end. -/
structure Performs (tried : EventObserver → Nat) (before : MemMgrEventCenter)
    (after : MemMgrEventCenter × List Output) : Prop where
  handler : after.1.handler = before.handler
  delayed : after.1.delayed = before.delayed ++ posted after.2
  made : ∀ observer, after.1.observer observer = true
  balanced : Balanced tried after.2

theorem Registers.made_of_healthy {after : MemMgrEventCenter × List Output}
    (h : Registers answers observer center after) (hHealthy : HealthyAnswers answers) :
    after.1.observer observer = true :=
  h.made (fun _ => .inr hHealthy.makeAppMgrClient) (hHealthy.makePointer observer)

/-- A registration is tried once for each observer. -/
theorem performs_register (hHealthy : HealthyAnswers answers)
    (hMade : ∀ observer, center.observer observer = true) (observer : EventObserver) :
    Performs (once observer) center (center.register answers observer) := by
  have hRegisters := registers_register answers center observer
  have hSelf := hRegisters.made_of_healthy hHealthy
  refine ⟨hRegisters.handler, hRegisters.delayed, fun other => ?_,
    hRegisters.outcome.balanced hSelf hHealthy⟩
  by_cases hOther : other = observer
  · rw [hOther]
    exact hSelf
  · rw [hRegisters.observer_of_ne other hOther]
    exact hMade other

theorem registerMissing_of_made (hMade : center.observer observer = true) :
    center.registerMissing answers observer = (center, []) := by
  simp [registerMissing, hMade]

/-- With every pointer made there is nothing to do. -/
theorem registerEventObserver_of_made (hMade : ∀ observer, center.observer observer = true) :
    center.registerEventObserver answers = (center, []) := by
  have hAll : ∀ observers, Transducer.finalState (registerMissing answers) center observers = center ∧
      Transducer.outputs (registerMissing answers) center observers = [] := by
    intro observers
    induction observers with
    | nil => exact ⟨rfl, rfl⟩
    | cons observer observers ih =>
        have hSame := @registerMissing_of_made answers center observer (hMade observer)
        rw [Transducer.outputs, hSame]
        refine ⟨?_, ih.2⟩
        rw [Transducer.finalState, List.foldl_cons, hSame]
        exact ih.1
  rw [registerEventObserver, (hAll allObservers).1, (hAll allObservers).2]

def triedBy (task : RegisterTask) (observer : EventObserver) : Nat := if tries observer task then 1 else 0

/-- A task tries what it was posted for. -/
theorem performs_perform {task : RegisterTask} (hHealthy : HealthyAnswers answers)
    (hMade : ∀ observer, center.observer observer = true)
    (hInit : ∀ observer, task = .init observer → isPressure observer = true) :
    Performs (triedBy task) center (center.perform answers task) := by
  cases task with
  | registerEventObserver =>
      rw [perform, registerEventObserver_of_made hMade]
      exact ⟨rfl, (List.append_nil _).symm, hMade, Balanced.nil⟩
  | register observer =>
      have hTried : triedBy (.register observer) = once observer := by
        funext other
        simp [triedBy, tries, once]
      rw [hTried]
      exact performs_register hHealthy hMade observer
  | init observer =>
      have hTried : triedBy (.init observer) = once observer := by
        funext other
        simp [triedBy, tries, once]
      rw [hTried, perform, if_pos (hMade observer)]
      refine ⟨rfl, (List.append_nil _).symm, hMade, balanced_called rfl ?_⟩
      rintro rfl
      cases hInit .extConn rfl

/-- Going through all observers when none is there. -/
theorem performs_registerAll (hHealthy : HealthyAnswers answers) (observers : List EventObserver)
    (hNodup : observers.Nodup) (hNull : ∀ observer, center.observer observer = !observers.contains observer) :
    Performs (fun observer => if observer ∈ observers then 1 else 0) center
      (Transducer.finalState (registerMissing answers) center observers,
        Transducer.outputs (registerMissing answers) center observers) := by
  induction observers generalizing center with
  | nil => exact ⟨rfl, (List.append_nil _).symm, fun observer => by simp [hNull], Balanced.nil⟩
  | cons observer observers ih =>
      obtain ⟨hNew, hNodup⟩ := List.nodup_cons.mp hNodup
      have hFirst : center.registerMissing answers observer = center.register answers observer := by
        simp [registerMissing, hNull]
      have hRegisters := registers_register answers center observer
      rw [← hFirst] at hRegisters
      have hSelf := hRegisters.made_of_healthy hHealthy
      have hRest := @ih (center.registerMissing answers observer).1 hNodup fun other => by
        by_cases hOther : other = observer
        · subst hOther
          simp [hSelf, hNew]
        · simp [hRegisters.observer_of_ne other hOther, hNull, hOther]
      have hTried : (fun other => if other ∈ observer :: observers then 1 else 0) =
          fun other => once observer other + if other ∈ observers then 1 else 0 := by
        funext other
        by_cases hOther : observer = other
        · subst hOther
          simp [once, hNew]
        · simp [once, hOther, Ne.symm hOther]
      rw [hTried]
      refine ⟨hRest.handler.trans hRegisters.handler, ?_, hRest.made,
        (hRegisters.outcome.balanced hSelf hHealthy).append hRest.balanced⟩
      refine hRest.delayed.trans ?_
      rw [hRegisters.delayed, List.append_assoc, ← posted_append]
      rfl

/-- The first registration tries each observer once. -/
theorem performs_registerEventObserver (hHealthy : HealthyAnswers answers)
    (hNull : ∀ observer, center.observer observer = false) :
    Performs (fun _ => 1) center (center.registerEventObserver answers) := by
  have hAll := @performs_registerAll answers center hHealthy allObservers (by decide) fun observer => by
    simp [hNull, mem_allObservers]
  rw [registerEventObserver]
  simpa only [mem_allObservers, if_true] using hAll

/-- Before the first task, and from then on. -/
inductive Counted (ids : SystemAbilityIds) (ops : List Op) (center : MemMgrEventCenter)
    (log : List Output) : Prop where
  | before (handler : List RegisterTask) (hHandler : center.handler = .registerEventObserver :: handler)
      (hDelayed : center.delayed = []) (hNull : ∀ observer, center.observer observer = false)
      (hAdded : ∀ observer, handler.countP (tries observer) = added ids observer ops)
      (hLog : Balanced (fun _ => 0) log) (hPosted : posted log = [])
  | after (hMade : ∀ observer, center.observer observer = true)
      (hAttempts : ∀ observer, attempts observer log + waiting observer center =
        1 + added ids observer ops + retries observer log)
      (hSuccesses : successes log + waiting .extConn center = 1)

variable {ops : List Op} {op : Op}

theorem added_concat (ids : SystemAbilityIds) (observer : EventObserver) (ops : List Op) (op : Op) :
    added ids observer (ops ++ [op]) = added ids observer ops + added ids observer [op] :=
  List.countP_append

theorem added_extConn (ids : SystemAbilityIds) (ops : List Op) : added ids .extConn ops = 0 := by
  rw [added, List.countP_eq_zero]
  intro op _
  cases op <;> simp [watches]

theorem countP_ite {c : Bool} (observer other : EventObserver) :
    (if c = true then [RegisterTask.register observer] else []).countP (tries other) =
      if c = true then once observer other else 0 := by
  split_ifs
  · exact countP_tries_register observer other
  · rfl

theorem countP_addedTasks (ids : SystemAbilityIds) (observer : EventObserver) (systemAbilityId : Int32) :
    (addedTasks ids systemAbilityId).countP (tries observer) =
      added ids observer [.onAddSystemAbility systemAbilityId] := by
  have hAll : List.countP (tries observer) [.registerEventObserver] = 0 := by simp [tries]
  rw [addedTasks, List.countP_append, List.countP_append, List.countP_append, List.countP_append, hAll,
    countP_ite, countP_ite, countP_ite, countP_ite, added]
  cases observer <;> simp [once, watches, List.countP_cons]

/-- A task that was waiting is performed. -/
theorem Counted.perform {task : RegisterTask} {handler delayed : List RegisterTask}
    (hMade : ∀ observer, center.observer observer = true)
    (hAttempts : ∀ observer, attempts observer log + waiting observer center =
      1 + added ids observer ops + retries observer log)
    (hSuccesses : successes log + waiting .extConn center = 1)
    (hWaiting : ∀ observer, waiting observer center =
      triedBy task observer + waiting observer { center with handler, delayed })
    (hInit : ∀ observer, task = .init observer → isPressure observer = true)
    (hHealthy : HealthyAnswers answers) :
    Counted ids ops ({ center with handler, delayed }.perform answers task).1
      (log ++ ({ center with handler, delayed }.perform answers task).2) := by
  have hPerforms := @performs_perform answers { center with handler, delayed } task hHealthy hMade hInit
  have hAfter : ∀ observer, waiting observer ({ center with handler, delayed }.perform answers task).1 =
      waiting observer { center with handler, delayed } +
        (posted ({ center with handler, delayed }.perform answers task).2).countP (tries observer) := by
    intro observer
    rw [waiting, hPerforms.handler, hPerforms.delayed, List.countP_append, ← Nat.add_assoc]
    rfl
  refine .after hPerforms.made (fun observer => ?_) ?_
  · have hOld := hAttempts observer
    have hNew := hPerforms.balanced.attempts observer
    have hTaken := hWaiting observer
    rw [attempts_append, retries_append, hAfter]
    omega
  · have hNew := hPerforms.balanced.successes
    have hTaken := hWaiting .extConn
    rw [successes_append, hAfter]
    omega

/-- The first task finds nothing registered. -/
theorem Counted.first {handler : List RegisterTask} (hDelayed : center.delayed = [])
    (hNull : ∀ observer, center.observer observer = false)
    (hAdded : ∀ observer, handler.countP (tries observer) = added ids observer ops)
    (hLog : Balanced (fun _ => 0) log) (hPosted : posted log = []) (hHealthy : HealthyAnswers answers) :
    Counted ids ops ({ center with handler }.registerEventObserver answers).1
      (log ++ ({ center with handler }.registerEventObserver answers).2) := by
  have hPerforms := @performs_registerEventObserver answers { center with handler } hHealthy hNull
  have hAfter : ∀ observer,
      waiting observer ({ center with handler }.registerEventObserver answers).1 =
        added ids observer ops +
          (posted ({ center with handler }.registerEventObserver answers).2).countP (tries observer) := by
    intro observer
    rw [waiting, hPerforms.handler, hPerforms.delayed, hDelayed, List.nil_append]
    exact congrArg (· + _) (hAdded observer)
  refine .after hPerforms.made (fun observer => ?_) ?_
  · have hOld := hLog.attempts observer
    have hNew := hPerforms.balanced.attempts observer
    rw [hPosted, List.countP_nil] at hOld
    rw [attempts_append, retries_append, hAfter]
    omega
  · have hOld := hLog.successes
    have hNew := hPerforms.balanced.successes
    rw [hPosted, List.countP_nil] at hOld
    rw [successes_append, hAfter, added_extConn]
    omega

/-- What is no call and posts nothing does not count. -/
theorem Counted.quiet {before : MemMgrEventCenter} (h : Counted ids ops center log)
    (hSame : before = center) (hAdded : ∀ observer, added ids observer [op] = 0)
    (hOutputs : Balanced (fun _ => 0) outputs) (hPosted : posted outputs = []) :
    Counted ids (ops ++ [op]) before (log ++ outputs) := by
  subst hSame
  have hNone : ∀ observer, attempts observer outputs = 0 ∧ retries observer outputs = 0 := by
    intro observer
    have hAttempts := hOutputs.attempts observer
    rw [hPosted, List.countP_nil, retries, hPosted, List.count_nil] at hAttempts
    exact ⟨by omega, by rw [retries, hPosted, List.count_nil]⟩
  have hSuccess : successes outputs = 0 := by
    have hSuccesses := hOutputs.successes
    rw [hPosted, List.countP_nil] at hSuccesses
    omega
  cases h with
  | before handler hHandler hDelayed hNull hRest hLog hLogPosted =>
      refine .before handler hHandler hDelayed hNull (fun observer => ?_) (hLog.append hOutputs) ?_
      · rw [added_concat, hAdded, Nat.add_zero]
        exact hRest observer
      · rw [posted_append, hLogPosted, hPosted, List.append_nil]
  | after hMade hAttempts hSuccesses =>
      refine .after hMade (fun observer => ?_) ?_
      · rw [attempts_append, (hNone observer).1, retries_append, (hNone observer).2, added_concat, hAdded]
        exact hAttempts observer
      · rw [successes_append, hSuccess]
        exact hSuccesses

theorem Counted.concat (h : Counted ids ops center log) (hAdded : ∀ observer, added ids observer [op] = 0) :
    Counted ids (ops ++ [op]) center log := by
  have hNothing := h.quiet rfl hAdded Balanced.nil rfl
  rwa [List.append_nil] at hNothing

/-- One step keeps the count of the attempts. -/
theorem Counted.step (h : Counted ids ops center log) (hOnce : PressureOnce center log)
    (hHealthy : op.Healthy) :
    Counted ids (ops ++ [op]) (center.step ids op).1 (log ++ (center.step ids op).2) := by
  cases op with
  | onAddSystemAbility systemAbilityId =>
      rw [MemMgrEventCenter.step, List.append_nil, retryRegisterEventObserver_eq]
      cases h with
      | before handler hHandler hDelayed hNull hRest hLog hPosted =>
          refine .before (handler ++ addedTasks ids systemAbilityId) ?_ hDelayed hNull (fun observer => ?_)
            hLog hPosted
          · dsimp only
            rw [hHandler, List.cons_append]
          · rw [List.countP_append, hRest, countP_addedTasks, added_concat]
      | after hMade hAttempts hSuccesses =>
          have hMore : ∀ observer, waiting observer
              { center with handler := center.handler ++ addedTasks ids systemAbilityId } =
                waiting observer center + added ids observer [.onAddSystemAbility systemAbilityId] := by
            intro observer
            rw [waiting, List.countP_append, countP_addedTasks, waiting]
            dsimp only
            omega
          refine .after hMade (fun observer => ?_) ?_
          · have hOld := hAttempts observer
            rw [hMore, added_concat]
            omega
          · rw [hMore, added_extConn]
            exact hSuccesses
  | onRemoveSystemAbility systemAbilityId =>
      rw [MemMgrEventCenter.step, removeEventObserver]
      split_ifs
      · exact h.quiet rfl (fun _ => rfl) ⟨fun _ => rfl, rfl⟩ rfl
      · exact h.quiet rfl (fun _ => rfl) Balanced.nil rfl
  | onExtensionServiceDied => exact hHealthy.elim
  | runTask answers =>
      refine Counted.concat ?_ fun _ => rfl
      rw [MemMgrEventCenter.step]
      split
      · rw [List.append_nil]
        exact h
      case h_2 task handler hHandler =>
        cases h with
        | before rest hFirst hDelayed hNull hRest hLog hPosted =>
            obtain ⟨rfl, rfl⟩ := List.cons.inj (hHandler.symm.trans hFirst)
            exact Counted.first hDelayed hNull hRest hLog hPosted hHealthy
        | after hMade hAttempts hSuccesses =>
            refine Counted.perform hMade hAttempts hSuccesses (fun observer => ?_) ?_ hHealthy
            · rw [waiting, hHandler, List.countP_cons, triedBy, waiting]
              dsimp only
              omega
            · rintro observer rfl
              exact absurd (hHandler ▸ List.mem_cons_self) (hOnce.init_handler observer)
  | runDelayed turn answers =>
      refine Counted.concat ?_ fun _ => rfl
      rw [MemMgrEventCenter.step]
      split
      · rw [List.append_nil]
        exact h
      case h_2 task hTask =>
        cases h with
        | before rest hFirst hDelayed => simp [hDelayed] at hTask
        | after hMade hAttempts hSuccesses =>
            have hPerm := delayed_perm hTask
            refine Counted.perform hMade hAttempts hSuccesses (fun observer => ?_) ?_ hHealthy
            · rw [waiting, ← hPerm.countP_eq, List.countP_cons, triedBy, waiting]
              dsimp only
              omega
            · rintro observer rfl
              exact hOnce.init_delayed observer (hPerm.subset List.mem_cons_self)

/-- The attempts are counted through every run in which the answers are healthy. -/
theorem counted_run (ids : SystemAbilityIds) {ops : List Op} (hHealthy : ∀ op ∈ ops, op.Healthy) :
    PressureOnce (run ids ops) (called ids ops) ∧ Counted ids ops (run ids ops) (called ids ops) := by
  apply Transducer.invariant
    (fun ops outputs center => PressureOnce center outputs ∧ Counted ids ops center outputs)
    (fun _ op => op.Healthy)
  · exact ⟨pressureOnce_run ids [],
      .before [] rfl rfl (fun _ => rfl) (fun _ => rfl) Balanced.nil rfl⟩
  · exact fun _ outputs center op h hOp => ⟨h.1.step ids op, h.2.step h.1 hOp⟩
  · exact fun before op hPrefix => hHealthy op (hPrefix.subset (by simp))

/-- As long as there is memory and the service of the extensions lives, once nothing waits every observer
has been registered or set up once, once more for every time its service came up and for every time it
was put off; and the connections of extensions are watched by one observer alone. -/
theorem attempts_of_quiet (ids : SystemAbilityIds) {ops : List Op} (hHealthy : ∀ op ∈ ops, op.Healthy)
    (hQuiet : Quiet (run ids ops)) :
    (∀ observer, attempts observer (called ids ops) =
        1 + added ids observer ops + retries observer (called ids ops)) ∧
      successes (called ids ops) = 1 := by
  have hNone : ∀ observer, waiting observer (run ids ops) = 0 := by
    intro observer
    rw [waiting, hQuiet.1, hQuiet.2]
    rfl
  cases (counted_run ids hHealthy).2 with
  | before handler hHandler => simp [hQuiet.1] at hHandler
  | after hMade hAttempts hSuccesses =>
      refine ⟨fun observer => ?_, ?_⟩
      · have hAll := hAttempts observer
        rwa [hNone, Nat.add_zero] at hAll
      · rwa [hNone, Nat.add_zero] at hSuccesses

theorem healthy_someAnswers (registerObserver subscribeOsAccount : Int32) :
    HealthyAnswers (someAnswers registerObserver subscribeOsAccount) :=
  ⟨fun _ => rfl, rfl⟩

theorem healthy_retried : ∀ op ∈ retried, op.Healthy := by
  simp [retried, Op.Healthy, healthy_someAnswers]

/-- The account was tried four times: twice it was put off, and its service came up once. -/
theorem attempts_of_quiet_retried : attempts .account (called someIds retried) = 1 + 1 + 2 ∧
    successes (called someIds retried) = 1 :=
  have h := attempts_of_quiet someIds healthy_retried ⟨by decide, by decide⟩
  ⟨(h.1 .account).trans (by decide), h.2⟩

end MemMgr.MemMgrEventCenter
