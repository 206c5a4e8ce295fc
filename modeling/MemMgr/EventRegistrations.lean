import MemMgr.MemMgrEventCenter
import Mathlib.Tactic

/-! What is registered over a whole run of the event center, whatever comes and goes and in whichever
order the delayed tasks run. -/
namespace MemMgr.MemMgrEventCenter

/-- The observers of the kernel. -/
def isPressure : EventObserver → Bool
  | .memoryPressure | .kswapd => true
  | _ => false

/-- The registrations that are put off when they fail. -/
def isRetried : EventObserver → Bool
  | .extConn | .account => true
  | _ => false

/-- What is set up or registered by a call. -/
def attempted : Output → Option EventObserver
  | .init observer => some observer
  | .registerApplicationStateObserver _ => some .appState
  | .registerObserver _ => some .extConn
  | .subscribeOsAccount _ => some .account
  | .subscribeCommonEvent _ => some .commonEvent
  | .subscribeBackgroundTask _ => some .bgTask
  | .postTask _ _ | .resetReclaimPriorityManager | .nullPointer => none

/-- The answers to the calls that are made again if they fail. -/
def answered (observer : EventObserver) : Output → Option Int32
  | .registerObserver ret => if observer = .extConn then some ret else none
  | .subscribeOsAccount errCode => if observer = .account then some errCode else none
  | _ => none

def postedTask : Output → Option RegisterTask
  | .postTask task _ => some task
  | _ => none

def posted (outputs : List Output) : List RegisterTask := outputs.filterMap postedTask

def attempts (observer : EventObserver) (outputs : List Output) : Nat :=
  (outputs.filterMap attempted).count observer

/-- How often a registration is put off. -/
def retries (observer : EventObserver) (outputs : List Output) : Nat :=
  (posted outputs).count (.register observer)

/-- The ways in which a registration ends. -/
inductive Outcome (answers : RegisterAnswers) (observer : EventObserver) (after : MemMgrEventCenter) :
    List Output → Prop where
  | notMade (hNone : after.observer observer = false ∨
      observer = .appState ∧ answers.makeAppMgrClient = false)
      (hOther : observer ≠ .extConn) : Outcome answers observer after []
  | setUpLater (hPressure : isPressure observer = true) (hMade : after.observer observer = true) :
      Outcome answers observer after [.postTask (.init observer) pressureInitDelay]
  | called (output : Output) (hAttempted : attempted output = some observer)
      (hPressure : isPressure observer = false)
      (hDone : isRetried observer = true → ∃ ret, answered observer output = some ret ∧
        (ret = errOk ∨ observer = .account ∧ accountMaxRetryTimes ≤ after.regAccountObsRetry)) :
      Outcome answers observer after [output]
  | putOff (output : Output) (delay : Nat) (hAttempted : attempted output = some observer)
      (hPressure : isPressure observer = false)
      (hFailed : ∃ ret, answered observer output = some ret ∧ ret ≠ errOk)
      (hFew : observer = .account → after.regAccountObsRetry < accountMaxRetryTimes) :
      Outcome answers observer after [output, .postTask (.register observer) delay]
  | notMadeYet (hNone : after.observer observer = false) (hExt : observer = .extConn) :
      Outcome answers observer after [.postTask (.register observer) extconnRetryTime]

/-- What every registration comes to: the other observers are left alone, and what it posts waits. -/
structure Registers (answers : RegisterAnswers) (observer : EventObserver) (before : MemMgrEventCenter)
    (after : MemMgrEventCenter × List Output) : Prop where
  handler : after.1.handler = before.handler
  delayed : after.1.delayed = before.delayed ++ posted after.2
  observer_of_ne : ∀ other, other ≠ observer → after.1.observer other = before.observer other
  made : (observer = .appState → before.observer .appState = true ∨ answers.makeAppMgrClient = true) →
    answers.makePointer observer = true → after.1.observer observer = true
  retry : after.1.regAccountObsRetry = before.regAccountObsRetry + if observer = .account then 1 else 0
  outcome : Outcome answers observer after.1 after.2

variable {answers : RegisterAnswers} {center : MemMgrEventCenter} {observer : EventObserver}

theorem makePointer_observer_of_ne {other : EventObserver} (h : other ≠ observer) :
    (center.makePointer answers observer).observer other = center.observer other :=
  Function.update_of_ne h _ _

theorem makePointer_observer :
    (center.makePointer answers observer).observer observer = answers.makePointer observer :=
  Function.update_self _ _ _

/-- An observer of the kernel is set up later if it can be made. -/
theorem registers_pressure (answers : RegisterAnswers) (center : MemMgrEventCenter)
    (hPressure : isPressure observer = true) (hOther : observer ≠ .account ∧ observer ≠ .extConn) :
    Registers answers observer center (center.registerPressureObserver answers observer) := by
  have hMade := @makePointer_observer answers center observer
  rw [registerPressureObserver]
  split_ifs with hNone
  · exact ⟨rfl, (List.append_nil _).symm, fun _ h => makePointer_observer_of_ne h,
      fun _ h => hMade.trans h, by simp [makePointer, hOther.1],
      .notMade (.inl (by simpa using hNone)) hOther.2⟩
  · exact ⟨rfl, rfl, fun _ h => @makePointer_observer_of_ne answers center _ _ h,
      fun _ h => hMade.trans h, by simp [postTask, makePointer, hOther.1],
      .setUpLater hPressure (by simpa [postTask] using hNone)⟩

/-- The observer of the applications is tried once, unless its client cannot be made. -/
theorem registers_appState (answers : RegisterAnswers) (center : MemMgrEventCenter) :
    Registers answers .appState center (center.registerAppStateObserver answers) := by
  rw [registerAppStateObserver]
  split_ifs with hClient
  · rw [Bool.not_eq_true'] at hClient
    exact ⟨rfl, (List.append_nil _).symm, fun _ _ => rfl,
      fun h _ => (h rfl).resolve_right (by simp [hClient]), rfl, .notMade (.inr ⟨rfl, hClient⟩) (by simp)⟩
  · exact ⟨rfl, (List.append_nil _).symm, fun _ h => @makePointer_observer_of_ne answers center _ _ h,
      fun _ h => (@makePointer_observer answers center .appState).trans h, rfl,
      .called _ rfl rfl (by simp [isRetried])⟩

/-- The observer of the extensions is registered, or tried again later. -/
theorem registers_extConn (answers : RegisterAnswers) (center : MemMgrEventCenter) :
    Registers answers .extConn center (center.registerExtConnObserver answers) := by
  have hMade := @makePointer_observer answers center .extConn
  rw [registerExtConnObserver]
  dsimp only
  split_ifs with hPointer hRegistered
  · exact ⟨rfl, (List.append_nil _).symm, fun _ h => makePointer_observer_of_ne h,
      fun _ h => hMade.trans h, rfl, .called _ rfl rfl fun _ => ⟨_, rfl, .inl hRegistered⟩⟩
  · exact ⟨rfl, rfl, fun _ h => @makePointer_observer_of_ne answers center _ _ h,
      fun _ h => hMade.trans h, rfl,
      .putOff _ _ rfl rfl ⟨_, rfl, hRegistered⟩ (by simp)⟩
  · exact ⟨rfl, rfl, fun _ h => @makePointer_observer_of_ne answers center _ _ h,
      fun _ h => hMade.trans h, rfl, .notMadeYet (Bool.eq_false_of_not_eq_true hPointer) rfl⟩

/-- The observer of the accounts is registered, or tried again later while it was tried a
few times. -/
theorem registers_account (answers : RegisterAnswers) (center : MemMgrEventCenter) :
    Registers answers .account center (center.registerAccountObserver answers) := by
  rw [registerAccountObserver]
  dsimp only
  generalize hCenter : { center with regAccountObsRetry := center.regAccountObsRetry + 1 } = counted
  have hHandler : counted.handler = center.handler := by rw [← hCenter]
  have hDelayed : counted.delayed = center.delayed := by rw [← hCenter]
  have hObserver : counted.observer = center.observer := by rw [← hCenter]
  have hRetry : counted.regAccountObsRetry = center.regAccountObsRetry + 1 := by rw [← hCenter]
  have hMade := @makePointer_observer answers counted .account
  have hOther : ∀ other, other ≠ EventObserver.account →
      (counted.makePointer answers .account).observer other = center.observer other := by
    intro other h
    rw [makePointer_observer_of_ne h, hObserver]
  split_ifs with hNone hSubscribed hFew
  · exact ⟨hHandler, hDelayed.trans (List.append_nil _).symm, hOther, fun _ h => hMade.trans h, hRetry,
      .notMade (.inl (by simpa using hNone)) (by simp)⟩
  · exact ⟨hHandler, hDelayed.trans (List.append_nil _).symm, hOther, fun _ h => hMade.trans h, hRetry,
      .called _ rfl rfl fun _ => ⟨_, rfl, .inl hSubscribed⟩⟩
  · exact ⟨hHandler, congrArg (· ++ _) hDelayed, hOther, fun _ h => hMade.trans h, hRetry,
      .putOff _ _ rfl rfl ⟨_, rfl, hSubscribed⟩ fun _ => hFew⟩
  · exact ⟨hHandler, hDelayed.trans (List.append_nil _).symm, hOther, fun _ h => hMade.trans h, hRetry,
      .called _ rfl rfl fun _ => ⟨_, rfl, .inr ⟨rfl, not_lt.mp hFew⟩⟩⟩

/-- The observer of the common events is tried once if it can be made. -/
theorem registers_commonEvent (answers : RegisterAnswers) (center : MemMgrEventCenter) :
    Registers answers .commonEvent center (center.registerCommonEventObserver answers) := by
  have hMade := @makePointer_observer answers center .commonEvent
  rw [registerCommonEventObserver]
  split_ifs with hNone
  · exact ⟨rfl, (List.append_nil _).symm, fun _ h => makePointer_observer_of_ne h,
      fun _ h => hMade.trans h, rfl, .notMade (.inl (by simpa using hNone)) (by simp)⟩
  · exact ⟨rfl, (List.append_nil _).symm, fun _ h => makePointer_observer_of_ne h,
      fun _ h => hMade.trans h, rfl, .called _ rfl rfl (by simp [isRetried])⟩

/-- The observer of the background tasks is tried once if there is one or it can be made. -/
theorem registers_bgTask (answers : RegisterAnswers) (center : MemMgrEventCenter) :
    Registers answers .bgTask center (center.registerBgTaskObserver answers) := by
  have hMade := @makePointer_observer answers center .bgTask
  rw [registerBgTaskObserver]
  by_cases hPointer : center.observer .bgTask = true
  · simp only [hPointer, Bool.not_true, Bool.false_eq_true, if_false]
    exact ⟨rfl, (List.append_nil _).symm, fun _ _ => rfl, fun _ _ => hPointer, rfl,
      .called _ rfl rfl (by simp [isRetried])⟩
  · simp only [hPointer, Bool.not_false, if_true]
    split_ifs with hNone
    · exact ⟨rfl, (List.append_nil _).symm, fun _ h => makePointer_observer_of_ne h,
        fun _ h => hMade.trans h, rfl, .notMade (.inl (by simpa using hNone)) (by simp)⟩
    · exact ⟨rfl, (List.append_nil _).symm, fun _ h => makePointer_observer_of_ne h,
        fun _ h => hMade.trans h, rfl, .called _ rfl rfl (by simp [isRetried])⟩

/-- Each registration comes to one of the ways in which it may end. -/
theorem registers_register (answers : RegisterAnswers) (center : MemMgrEventCenter)
    (observer : EventObserver) : Registers answers observer center (center.register answers observer) := by
  cases observer with
  | memoryPressure => exact registers_pressure answers center rfl (by simp)
  | kswapd => exact registers_pressure answers center rfl (by simp)
  | appState => exact registers_appState answers center
  | extConn => exact registers_extConn answers center
  | account => exact registers_account answers center
  | commonEvent => exact registers_commonEvent answers center
  | bgTask => exact registers_bgTask answers center

/-- A registration that only happens if the pointer is null. -/
theorem registerMissing_cases (answers : RegisterAnswers) (center : MemMgrEventCenter)
    (observer : EventObserver) :
    center.observer observer = true ∧ center.registerMissing answers observer = (center, []) ∨
      center.observer observer = false ∧
        Registers answers observer center (center.registerMissing answers observer) := by
  cases hPointer : center.observer observer with
  | true => exact .inl ⟨rfl, by simp [registerMissing, hPointer]⟩
  | false =>
      have hRegister : center.registerMissing answers observer = center.register answers observer := by
        simp [registerMissing, hPointer]
      exact .inr ⟨rfl, hRegister ▸ registers_register answers center observer⟩

theorem posted_append (first second : List Output) :
    posted (first ++ second) = posted first ++ posted second :=
  List.filterMap_append

theorem attempts_append (first second : List Output) :
    attempts observer (first ++ second) = attempts observer first + attempts observer second := by
  rw [attempts, List.filterMap_append, List.count_append, attempts, attempts]

theorem retries_append (first second : List Output) :
    retries observer (first ++ second) = retries observer first + retries observer second := by
  rw [retries, posted_append, List.count_append, retries, retries]

/-- An observer of the kernel is set up through its first pointer alone, and the account is put off a
few times only. -/
structure PressureOnce (center : MemMgrEventCenter) (log : List Output) : Prop where
  once : ∀ observer, isPressure observer = true →
    attempts observer log + center.delayed.count (.init observer) =
      if center.observer observer = true then 1 else 0
  init_handler : ∀ observer, .init observer ∉ center.handler
  init_delayed : ∀ observer, .init observer ∈ center.delayed → isPressure observer = true
  register_handler : ∀ observer, .register observer ∈ center.handler → isPressure observer = false
  register_delayed : ∀ observer, .register observer ∈ center.delayed → isPressure observer = false
  retries_le_nine : retries .account log ≤ 9
  retries_le : retries .account log ≤ center.regAccountObsRetry
  nullPointer : .nullPointer ∉ log

variable {log : List Output}

/-- A call counts as an attempt of its own observer. -/
theorem attempts_cons {output : Output} {other : EventObserver} (h : attempted output = some observer)
    (outputs : List Output) :
    attempts other (output :: outputs) = (if observer = other then 1 else 0) + attempts other outputs := by
  rw [attempts, List.filterMap_cons_some h, List.count_cons, add_comm, attempts]
  simp

/-- A call is no task that is posted. -/
theorem posted_cons {output : Output} (h : attempted output = some observer) (outputs : List Output) :
    posted (output :: outputs) = posted outputs := by
  cases output with
  | postTask => cases h
  | _ => rfl

/-- What an outcome posts is a set-up of an observer of the kernel or another try of the others. -/
theorem Outcome.posted_cases {after : MemMgrEventCenter} {outputs : List Output}
    (h : Outcome answers observer after outputs) :
    posted outputs = [] ∨ isPressure observer = true ∧ posted outputs = [.init observer] ∨
      isPressure observer = false ∧ posted outputs = [.register observer] := by
  cases h with
  | notMade => exact .inl rfl
  | setUpLater hPressure => exact .inr (.inl ⟨hPressure, rfl⟩)
  | called output hAttempted => exact .inl (posted_cons hAttempted [])
  | putOff output delay hAttempted hPressure => exact .inr (.inr ⟨hPressure, posted_cons hAttempted _⟩)
  | notMadeYet hNone hExt => exact .inr (.inr ⟨by rw [hExt]; rfl, rfl⟩)

/-- A registration attempts no other observer. -/
theorem Outcome.attempts_of_ne {after : MemMgrEventCenter} {outputs : List Output} {other : EventObserver}
    (h : Outcome answers observer after outputs) (hOther : other ≠ observer) :
    attempts other outputs = 0 := by
  cases h with
  | called output hAttempted => rw [attempts_cons hAttempted, if_neg hOther.symm]; rfl
  | putOff output delay hAttempted => rw [attempts_cons hAttempted, if_neg hOther.symm]; rfl
  | _ => rfl

/-- An observer of the kernel is not set up by its registration, and waits if it is made. -/
theorem Outcome.pressure {after : MemMgrEventCenter} {outputs : List Output}
    (h : Outcome answers observer after outputs) (hPressure : isPressure observer = true) :
    attempts observer outputs + (posted outputs).count (.init observer) =
      if after.observer observer = true then 1 else 0 := by
  cases h with
  | notMade hNone =>
      rcases hNone with hNone | ⟨rfl, -⟩
      · rw [hNone]; rfl
      · cases hPressure
  | setUpLater hPressure hMade =>
      have hPosted : (posted [.postTask (.init observer) pressureInitDelay]).count (.init observer) = 1 :=
        List.count_singleton_self
      rw [if_pos hMade, hPosted]
      rfl
  | called output hAttempted hOther => simp [hPressure] at hOther
  | putOff output delay hAttempted hOther => simp [hPressure] at hOther
  | notMadeYet hNone hExt => rw [hExt] at hPressure; cases hPressure

/-- No registration runs on a null pointer. -/
theorem Outcome.nullPointer {after : MemMgrEventCenter} {outputs : List Output}
    (h : Outcome answers observer after outputs) : .nullPointer ∉ outputs := by
  cases h with
  | called output hAttempted =>
      rw [List.mem_singleton]
      rintro rfl
      cases hAttempted
  | putOff output delay hAttempted =>
      rw [List.mem_pair]
      rintro (rfl | hPost)
      · cases hAttempted
      · cases hPost
  | _ => simp

/-- The account is tried again only while it has been tried a few times. -/
theorem Outcome.retries_account {after : MemMgrEventCenter} {outputs : List Output}
    (h : Outcome answers observer after outputs) : retries .account outputs = 0 ∨
      retries .account outputs = 1 ∧ observer = .account ∧
        after.regAccountObsRetry < accountMaxRetryTimes := by
  rcases h.posted_cases with hPosted | ⟨-, hPosted⟩ | ⟨-, hPosted⟩
  · exact .inl (by rw [retries, hPosted]; rfl)
  · exact .inl (by rw [retries, hPosted]; rfl)
  · by_cases hAccount : observer = .account
    · subst hAccount
      right
      refine ⟨by rw [retries, hPosted]; rfl, rfl, ?_⟩
      cases h with
      | putOff output delay hAttempted hPressure hFailed hFew => exact hFew rfl
      | notMadeYet hNone hExt => cases hExt
      | notMade => cases hPosted
      | setUpLater hPressure => cases hPressure
      | called output hAttempted => rw [posted_cons hAttempted] at hPosted; cases hPosted
    · exact .inl (by simp [retries, hPosted, hAccount])

/-- A registration keeps the counts, if an observer of the kernel is registered only where
it was null. -/
theorem PressureOnce.registers {after : MemMgrEventCenter × List Output} (h : PressureOnce center log)
    (hRegisters : Registers answers observer center after)
    (hNew : isPressure observer = true → center.observer observer = false) :
    PressureOnce after.1 (log ++ after.2) where
  once other hPressure := by
    have hOnce := h.once other hPressure
    rw [attempts_append, hRegisters.delayed, List.count_append]
    by_cases hOther : other = observer
    · subst hOther
      have hAfter := hRegisters.outcome.pressure hPressure
      rw [hNew hPressure] at hOnce
      simp only [Bool.false_eq_true, if_false] at hOnce
      omega
    · have hPosted : (posted after.2).count (.init other) = 0 := by
        rcases hRegisters.outcome.posted_cases with hPosted | ⟨-, hPosted⟩ | ⟨-, hPosted⟩ <;>
          simp [hPosted, Ne.symm hOther]
      rw [hRegisters.outcome.attempts_of_ne hOther, hPosted, hRegisters.observer_of_ne other hOther]
      exact hOnce
  init_handler other := by
    rw [hRegisters.handler]
    exact h.init_handler other
  init_delayed other hMem := by
    rw [hRegisters.delayed, List.mem_append] at hMem
    rcases hMem with hMem | hMem
    · exact h.init_delayed other hMem
    · rcases hRegisters.outcome.posted_cases with hPosted | ⟨hPressure, hPosted⟩ | ⟨-, hPosted⟩
      · simp [hPosted] at hMem
      · rw [hPosted, List.mem_singleton, RegisterTask.init.injEq] at hMem
        exact hMem ▸ hPressure
      · simp [hPosted] at hMem
  register_handler other hMem := h.register_handler other (hRegisters.handler ▸ hMem)
  register_delayed other hMem := by
    rw [hRegisters.delayed, List.mem_append] at hMem
    rcases hMem with hMem | hMem
    · exact h.register_delayed other hMem
    · rcases hRegisters.outcome.posted_cases with hPosted | ⟨-, hPosted⟩ | ⟨hPressure, hPosted⟩
      · simp [hPosted] at hMem
      · simp [hPosted] at hMem
      · rw [hPosted, List.mem_singleton, RegisterTask.register.injEq] at hMem
        exact hMem ▸ hPressure
  retries_le_nine := by
    have hOld := h.retries_le_nine
    have hCount := h.retries_le
    have hRetry := hRegisters.retry
    rw [retries_append]
    rcases hRegisters.outcome.retries_account with hNone | ⟨hOne, rfl, hFew⟩
    · omega
    · rw [if_pos rfl] at hRetry
      rw [accountMaxRetryTimes] at hFew
      omega
  retries_le := by
    have hCount := h.retries_le
    have hRetry := hRegisters.retry
    rw [retries_append]
    rcases hRegisters.outcome.retries_account with hNone | ⟨hOne, rfl, hFew⟩
    · omega
    · rw [if_pos rfl] at hRetry
      omega
  nullPointer := by
    rw [List.mem_append, not_or]
    exact ⟨h.nullPointer, hRegisters.outcome.nullPointer⟩

/-- The registration of a missing observer keeps the counts. -/
theorem PressureOnce.registerMissing (answers : RegisterAnswers) (h : PressureOnce center log)
    (observer : EventObserver) : PressureOnce (center.registerMissing answers observer).1
      (log ++ (center.registerMissing answers observer).2) := by
  rcases registerMissing_cases answers center observer with ⟨-, hSame⟩ | ⟨hNull, hRegisters⟩
  · rw [hSame, List.append_nil]
    exact h
  · exact h.registers hRegisters fun _ => hNull

/-- The registration of all missing observers keeps the counts. -/
theorem PressureOnce.registerEventObserver (answers : RegisterAnswers) (h : PressureOnce center log) :
    PressureOnce (center.registerEventObserver answers).1
      (log ++ (center.registerEventObserver answers).2) := by
  apply Transducer.invariant (fun _ outputs center => PressureOnce center (log ++ outputs))
    (fun _ _ => True)
  · rw [List.append_nil]
    exact h
  · intro _ outputs center observer hInv _
    rw [← List.append_assoc]
    exact hInv.registerMissing answers observer
  · exact fun _ _ _ => trivial

/-- A task that is not the set-up of an observer, once it is taken. -/
theorem PressureOnce.perform {task : RegisterTask} (answers : RegisterAnswers) (h : PressureOnce center log)
    (hInit : ∀ observer, task ≠ .init observer)
    (hRegister : ∀ observer, task = .register observer → isPressure observer = false) :
    PressureOnce (center.perform answers task).1 (log ++ (center.perform answers task).2) := by
  cases task with
  | registerEventObserver => exact h.registerEventObserver answers
  | register observer =>
      refine h.registers (registers_register answers center observer) fun hPressure => ?_
      simp [hRegister observer rfl] at hPressure
  | init observer => exact absurd rfl (hInit observer)

/-- A task taken out of those that are delayed. -/
theorem delayed_perm {turn : Nat} {task : RegisterTask} (h : center.delayed[turn]? = some task) :
    (task :: center.delayed.eraseIdx turn).Perm center.delayed := by
  obtain ⟨hTurn, rfl⟩ := List.getElem?_eq_some_iff.mp h
  exact List.getElem_cons_eraseIdx_perm hTurn

/-- An immediate task keeps the counts. -/
theorem PressureOnce.runTask {task : RegisterTask} {handler : List RegisterTask}
    (answers : RegisterAnswers) (h : PressureOnce center log) (hHandler : center.handler = task :: handler) :
    PressureOnce ({ center with handler }.perform answers task).1
      (log ++ ({ center with handler }.perform answers task).2) := by
  have hMem : ∀ waiting ∈ handler, waiting ∈ center.handler := by
    intro waiting hWaiting
    rw [hHandler]
    exact List.mem_cons_of_mem _ hWaiting
  have hFirst : task ∈ center.handler := by
    rw [hHandler]
    exact List.mem_cons_self
  have hRest : PressureOnce { center with handler } log :=
    ⟨h.once, fun observer hInit => h.init_handler observer (hMem _ hInit), h.init_delayed,
      fun observer hRegister => h.register_handler observer (hMem _ hRegister), h.register_delayed,
      h.retries_le_nine, h.retries_le, h.nullPointer⟩
  refine hRest.perform answers ?_ ?_
  · rintro observer rfl
    exact h.init_handler observer hFirst
  · rintro observer rfl
    exact h.register_handler observer hFirst

/-- A delayed task keeps the counts, whichever it is. -/
theorem PressureOnce.runDelayed {turn : Nat} {task : RegisterTask} (answers : RegisterAnswers)
    (h : PressureOnce center log) (hTask : center.delayed[turn]? = some task) :
    PressureOnce ({ center with delayed := center.delayed.eraseIdx turn }.perform answers task).1
      (log ++ ({ center with delayed := center.delayed.eraseIdx turn }.perform answers task).2) := by
  have hPerm := delayed_perm hTask
  generalize center.delayed.eraseIdx turn = delayed at hPerm ⊢
  have hMem : ∀ waiting ∈ delayed, waiting ∈ center.delayed :=
    fun waiting hWaiting => hPerm.subset (List.mem_cons_of_mem _ hWaiting)
  have hFirst : task ∈ center.delayed := hPerm.subset List.mem_cons_self
  by_cases hInit : ∃ observer, task = .init observer
  · obtain ⟨observer, rfl⟩ := hInit
    have hPressure := h.init_delayed observer hFirst
    have hOnce := h.once observer hPressure
    rw [← hPerm.count_eq, List.count_cons_self] at hOnce
    have hPointer : center.observer observer = true := by
      by_contra hNull
      rw [if_neg hNull] at hOnce
      omega
    rw [MemMgrEventCenter.perform, if_pos hPointer]
    refine ⟨fun other hOther => ?_, h.init_handler, fun other hInit => h.init_delayed other (hMem _ hInit),
      h.register_handler, fun other hRegister => h.register_delayed other (hMem _ hRegister), ?_, ?_, ?_⟩
    · have hSame := h.once other hOther
      rw [← hPerm.count_eq, List.count_cons] at hSame
      rw [attempts_append, attempts_cons rfl]
      have hKind : (if (RegisterTask.init observer == .init other) = true then 1 else 0) =
          if observer = other then 1 else 0 := by simp
      have hNone : attempts other [] = 0 := rfl
      rw [hKind] at hSame
      dsimp only
      omega
    · rw [retries_append]
      exact h.retries_le_nine
    · rw [retries_append]
      exact h.retries_le
    · simp [h.nullPointer]
  · have hNotInit : ∀ observer, task ≠ .init observer := fun observer hSame => hInit ⟨observer, hSame⟩
    have hRest : PressureOnce { center with delayed } log := by
      refine ⟨fun observer hPressure => ?_, h.init_handler, fun observer hMemInit =>
        h.init_delayed observer (hMem _ hMemInit), h.register_handler, fun observer hRegister =>
        h.register_delayed observer (hMem _ hRegister), h.retries_le_nine, h.retries_le, h.nullPointer⟩
      have hOnce := h.once observer hPressure
      rw [← hPerm.count_eq, List.count_cons_of_ne (hNotInit observer)] at hOnce
      exact hOnce
    refine hRest.perform answers hNotInit ?_
    rintro observer rfl
    exact h.register_delayed observer hFirst

variable {ids : SystemAbilityIds}

/-- The tasks that an added service has run at once. -/
def addedTasks (ids : SystemAbilityIds) (systemAbilityId : Int32) : List RegisterTask :=
  (if isBgTaskService ids systemAbilityId then [.register .bgTask] else []) ++
    (if isAppService ids systemAbilityId then [.register .appState] else []) ++
    (if isAccountService ids systemAbilityId then [.register .account] else []) ++
    (if isCommonEventService ids systemAbilityId then [.register .commonEvent] else []) ++
    [.registerEventObserver]

/-- A service that comes up has its tasks put behind the others. -/
theorem retryRegisterEventObserver_eq (systemAbilityId : Int32) :
    center.retryRegisterEventObserver ids systemAbilityId =
      { center with handler := center.handler ++ addedTasks ids systemAbilityId } := by
  rw [retryRegisterEventObserver, addedTasks]
  split_ifs <;> simp [handlerRegisterEvent, postImmediateTask]

/-- A service that comes up has no observer of the kernel registered on its own. -/
theorem mem_addedTasks {systemAbilityId : Int32} {task : RegisterTask}
    (h : task ∈ addedTasks ids systemAbilityId) :
    task = .registerEventObserver ∨ ∃ observer, task = .register observer ∧ isPressure observer = false := by
  simp only [addedTasks, List.mem_append, List.mem_singleton, List.mem_ite_nil_right] at h
  rcases h with (((⟨-, rfl⟩ | ⟨-, rfl⟩) | ⟨-, rfl⟩) | ⟨-, rfl⟩) | rfl
  · exact .inr ⟨_, rfl, rfl⟩
  · exact .inr ⟨_, rfl, rfl⟩
  · exact .inr ⟨_, rfl, rfl⟩
  · exact .inr ⟨_, rfl, rfl⟩
  · exact .inl rfl

/-- Every step of the event center keeps the counts. -/
theorem PressureOnce.step (h : PressureOnce center log) (ids : SystemAbilityIds) (op : Op) :
    PressureOnce (center.step ids op).1 (log ++ (center.step ids op).2) := by
  cases op with
  | onAddSystemAbility systemAbilityId =>
      rw [MemMgrEventCenter.step, List.append_nil, retryRegisterEventObserver_eq]
      refine ⟨h.once, fun observer hMem => ?_, h.init_delayed, fun observer hMem => ?_,
        h.register_delayed, h.retries_le_nine, h.retries_le, h.nullPointer⟩
      · rcases List.mem_append.mp hMem with hOld | hAdded
        · exact h.init_handler observer hOld
        · rcases mem_addedTasks hAdded with hSame | ⟨_, hSame, -⟩ <;> cases hSame
      · rcases List.mem_append.mp hMem with hOld | hAdded
        · exact h.register_handler observer hOld
        · rcases mem_addedTasks hAdded with hSame | ⟨_, hSame, hPressure⟩
          · cases hSame
          · cases hSame
            exact hPressure
  | onRemoveSystemAbility systemAbilityId =>
      rw [MemMgrEventCenter.step, removeEventObserver]
      split_ifs
      · refine ⟨fun observer hPressure => ?_, h.init_handler, h.init_delayed, h.register_handler,
          h.register_delayed, ?_, ?_, by simp [h.nullPointer]⟩
        · rw [attempts_append]
          exact h.once observer hPressure
        · rw [retries_append]
          exact h.retries_le_nine
        · rw [retries_append]
          exact h.retries_le
      · rw [List.append_nil]
        exact h
  | onExtensionServiceDied =>
      rw [MemMgrEventCenter.step, List.append_nil, MemMgrEventCenter.onExtensionServiceDied]
      refine ⟨fun observer hPressure => ?_, h.init_handler, h.init_delayed, h.register_handler,
        h.register_delayed, h.retries_le_nine, h.retries_le, h.nullPointer⟩
      have hOther : observer ≠ .extConn := by
        rintro rfl
        cases hPressure
      simpa only [Function.update_of_ne hOther] using h.once observer hPressure
  | runTask answers =>
      rw [MemMgrEventCenter.step]
      split
      · rw [List.append_nil]
        exact h
      · exact h.runTask answers ‹_›
  | runDelayed turn answers =>
      rw [MemMgrEventCenter.step]
      split
      · rw [List.append_nil]
        exact h
      · exact h.runDelayed answers ‹_›

/-- Over a whole run each observer of the kernel is set up once at most, and the account put off
nine times at most. -/
theorem pressureOnce_run (ids : SystemAbilityIds) (ops : List Op) :
    PressureOnce (run ids ops) (called ids ops) := by
  apply Transducer.invariant (fun _ outputs center => PressureOnce center outputs) (fun _ _ => True)
  · refine ⟨fun observer _ => by cases observer <;> rfl, ?_, ?_, ?_, ?_, ?_, ?_, ?_⟩
    · simp [started, created, handlerRegisterEvent, postImmediateTask]
    · simp [started, created, handlerRegisterEvent, postImmediateTask]
    · simp [started, created, handlerRegisterEvent, postImmediateTask]
    · simp [started, created, handlerRegisterEvent, postImmediateTask]
    · exact Nat.zero_le _
    · exact Nat.zero_le _
    · simp
  · exact fun _ outputs center op h _ => h.step ids op
  · exact fun _ _ _ => trivial

end MemMgr.MemMgrEventCenter
