import MemMgr.Library.Transducer

/-! A machine behind a queue. Some inputs reach it at once, others wait as tasks and are performed
one after the other, in the order in which they were posted, with what is answered then. -/
namespace TaskQueue

variable {σ ι ο τ α : Type*}

/-- The tasks, the next one first. -/
structure Queued (σ τ : Type*) where
  state : σ
  handler : List τ

/-- Posting a task, acting at once, or running the next task. -/
inductive Op (τ ι α : Type*) where
  | post (task : τ)
  | now (input : ι)
  | run (answers : α)

variable (step : σ → ι → σ × List ο) (perform : τ → α → ι)

def queueStep (q : Queued σ τ) : Op τ ι α → Queued σ τ × List ο
  | .post task => ({ q with handler := q.handler ++ [task] }, [])
  | .now input =>
      let (state, told) := step q.state input
      ({ q with state }, told)
  | .run answers =>
      match q.handler with
      | [] => (q, [])
      | task :: handler =>
          let (state, told) := step q.state (perform task answers)
          (⟨state, handler⟩, told)

/-- What reaches the machine, from a queue on. -/
def performed : List τ → List (Op τ ι α) → List ι
  | _, [] => []
  | handler, .post task :: ops => performed (handler ++ [task]) ops
  | handler, .now input :: ops => input :: performed handler ops
  | [], .run _ :: ops => performed [] ops
  | task :: handler, .run answers :: ops => perform task answers :: performed handler ops

/-- The tasks that are run, with their answers. -/
def ran : List τ → List (Op τ ι α) → List (τ × α)
  | _, [] => []
  | handler, .post task :: ops => ran (handler ++ [task]) ops
  | handler, .now _ :: ops => ran handler ops
  | [], .run _ :: ops => ran [] ops
  | task :: handler, .run answers :: ops => (task, answers) :: ran handler ops

def posted (ops : List (Op τ ι α)) : List τ :=
  ops.filterMap fun
    | .post task => some task
    | _ => none

variable {step perform} {state : σ} {handler : List τ} {ops : List (Op τ ι α)}

/-- The machine behind the queue runs on what reaches it. -/
theorem state_finalState : (Transducer.finalState (queueStep step perform) ⟨state, handler⟩ ops).state =
    Transducer.finalState step state (performed perform handler ops) := by
  induction ops generalizing state handler with
  | nil => rfl
  | cons op ops ih =>
      cases op with
      | post task => exact ih
      | now input => exact ih
      | run answers =>
          cases handler with
          | nil => exact ih
          | cons task handler => exact ih

/-- A queue outputs what its step does on the tasks that were performed. -/
theorem outputs_eq : Transducer.outputs (queueStep step perform) ⟨state, handler⟩ ops =
    Transducer.outputs step state (performed perform handler ops) := by
  induction ops generalizing state handler with
  | nil => rfl
  | cons op ops ih =>
      cases op with
      | post task => exact ih
      | now input => exact congrArg _ ih
      | run answers =>
          cases handler with
          | nil => exact ih
          | cons task handler => exact congrArg _ ih

/-- Tasks are run in the order in which they were posted, each once, and the others wait. -/
theorem ran_append_handler :
    (ran handler ops).map Prod.fst ++
        (Transducer.finalState (queueStep step perform) ⟨state, handler⟩ ops).handler =
      handler ++ posted ops := by
  induction ops generalizing state handler with
  | nil => simp [ran, posted]
  | cons op ops ih =>
      cases op with
      | post task => exact (@ih state (handler ++ [task])).trans (List.append_assoc handler [task] _)
      | now input => exact ih
      | run answers =>
          cases handler with
          | nil => exact ih
          | cons task handler => exact congrArg (task :: ·) ih

/-- Without immediate inputs the tasks that are run are all there is. -/
theorem performed_eq_ran (hNone : ∀ input, Op.now input ∉ ops) :
    performed perform handler ops = (ran handler ops).map fun (task, answers) => perform task answers := by
  induction ops generalizing handler with
  | nil => rfl
  | cons op ops ih =>
      have hRest : ∀ input, Op.now input ∉ ops :=
        fun input hMem => hNone input (List.mem_cons_of_mem _ hMem)
      cases op with
      | post task => exact ih hRest
      | now input => exact absurd List.mem_cons_self (hNone input)
      | run answers =>
          cases handler with
          | nil => exact ih hRest
          | cons task handler => exact congrArg _ (ih hRest)

end TaskQueue
