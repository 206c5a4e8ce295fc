import MemMgr.Library.DelayedSimulation
import MemMgr.SubscriberMessages

/-! Calls that come between the two locks of a task may as well have come before the task: no one can
tell a run from one whose tasks are each done in one go. -/
namespace MemMgr.PurgeableMemManager

open Std (ExtTreeMap)

/-- A task that is begun is finished under the same lock. -/
def atomicStep (m : PurgeableMemManager) : Op → PurgeableMemManager × List Output
  | .runTask reading =>
      let (begun, outputs) := m.runTask reading
      match begun.broadcast with
      | none => (begun, outputs)
      | some message => ({ begun with broadcast := none }, outputs ++ begun.tellAll message)
  | op => step m op

def isCall : Op → Bool
  | .runTask _ => false
  | .runSyncTask _ => false
  | _ => true

/-- What callers and subscribers hear of, which is all but the writes. -/
def isHeard : Output → Bool
  | .wrote _ _ => false
  | _ => true

/-- The uids, which is what a forced reclaim reads. -/
def uids (m : PurgeableMemManager) : ExtTreeMap Int Int := m.appList.map fun _ app => app.1

/-- The same but for the states of the applications, and what the handler does. -/
structure Alike (m a : PurgeableMemManager) : Prop where
  initialized : a.initialized = m.initialized
  appStateSubscribers : a.appStateSubscribers = m.appStateSubscribers
  subscriberRecipients : a.subscriberRecipients = m.subscriberRecipients
  uids : a.uids = m.uids
  syncTasks : a.syncTasks = m.syncTasks
  reclaims : a.reclaims = m.reclaims

variable {m a : PurgeableMemManager} {op : Op}

theorem reclaimSubscriberAll_eq : m.reclaimSubscriberAll =
    m.appStateSubscribers.flatMap fun subscriber =>
      m.uids.toList.map fun (pid, uid) => .told subscriber (.forceReclaim pid uid) := by
  simp only [reclaimSubscriberAll, uids, ExtTreeMap.toList_map, List.map_map, Function.comp_def]

theorem reclaimSubscriberProc_eq (pid : Int) : m.reclaimSubscriberProc pid =
    match m.uids[pid]? with
    | none => m
    | some uid => { m with reclaims := m.reclaims ++ [(pid, uid)] } := by
  rw [reclaimSubscriberProc, uids, ExtTreeMap.getElem?_map]
  cases m.appList[pid]? <;> rfl

/-- A call on the subscribers does the same to both. -/
theorem Alike.inner (h : Alike m a) (call : AppStateSubscribers.InnerCall) :
    Alike (m.inner call).1 (a.inner call).1 ∧ (a.inner call).2 = (m.inner call).2 := by
  have hSame : a.subscribers = m.subscribers := by
    rw [subscribers, h.initialized, h.appStateSubscribers, h.subscriberRecipients, subscribers]
  rw [PurgeableMemManager.inner, PurgeableMemManager.inner, hSame]
  exact ⟨⟨h.initialized, rfl, rfl, h.uids, h.syncTasks, h.reclaims⟩, rfl⟩

/-- A posted task is put behind the same tasks. -/
theorem Alike.post (h : Alike m a) (task : PurgeableTask) : Alike (m.post task) (a.post task) := by
  rw [PurgeableMemManager.post, PurgeableMemManager.post, h.initialized]
  split_ifs
  · exact h
  · exact ⟨rfl, h.appStateSubscribers, h.subscriberRecipients, h.uids, h.syncTasks, h.reclaims⟩

/-- Calls cannot tell the one from the other. -/
theorem Alike.step (h : Alike m a) (hCall : isCall op = true) :
    Alike (step m op).1 (step a op).1 ∧ (step a op).2 = (step m op).2 := by
  cases op with
  | addSubscriber token subscriber =>
      rw [PurgeableMemManager.step, PurgeableMemManager.step, addSubscriber.eq_def, addSubscriber.eq_def]
      refine ⟨?_, rfl⟩
      split_ifs
      · exact h
      · cases subscriber with
        | none => exact h
        | some subscriber => exact h.post _
  | removeSubscriber token subscriber =>
      rw [PurgeableMemManager.step, PurgeableMemManager.step, removeSubscriber.eq_def,
        removeSubscriber.eq_def, h.initialized]
      split_ifs
      · exact ⟨h, rfl⟩
      · exact ⟨h, rfl⟩
      · cases subscriber with
        | none => exact ⟨h, rfl⟩
        | some subscriber => exact h.inner _
  | onRemoteSubscriberDied object =>
      cases object with
      | none => exact ⟨h, rfl⟩
      | some object =>
          exact ⟨⟨h.initialized, h.appStateSubscribers, h.subscriberRecipients, h.uids,
            congrArg (· ++ [object]) h.syncTasks, h.reclaims⟩, rfl⟩
  | registerActiveApps token pid uid =>
      rw [PurgeableMemManager.step, PurgeableMemManager.step, registerActiveApps, registerActiveApps]
      refine ⟨?_, rfl⟩
      split_ifs
      · exact h
      · exact h.post _
  | deregisterActiveApps token pid uid =>
      rw [PurgeableMemManager.step, PurgeableMemManager.step, deregisterActiveApps, deregisterActiveApps]
      refine ⟨?_, rfl⟩
      split_ifs
      · exact h
      · exact h.post _
  | changeAppState pid uid state => exact ⟨h.post _, rfl⟩
  | notifyMemoryLevel info => exact ⟨h.post _, rfl⟩
  | reclaimSubscriberAll =>
      refine ⟨h, ?_⟩
      rw [PurgeableMemManager.step, PurgeableMemManager.step, reclaimSubscriberAll_eq,
        reclaimSubscriberAll_eq, h.uids, h.appStateSubscribers]
  | reclaimSubscriberProc pid =>
      rw [PurgeableMemManager.step, PurgeableMemManager.step, reclaimSubscriberProc_eq,
        reclaimSubscriberProc_eq, h.uids]
      refine ⟨?_, rfl⟩
      cases m.uids[pid]? with
      | none => exact h
      | some uid =>
          exact ⟨h.initialized, h.appStateSubscribers, h.subscriberRecipients, h.uids, h.syncTasks,
            congrArg (· ++ [(pid, uid)]) h.reclaims⟩
  | tellReclaim turn =>
      rw [PurgeableMemManager.step, PurgeableMemManager.step, tellReclaim, tellReclaim, h.reclaims]
      cases m.reclaims[turn]? with
      | none => exact ⟨h, rfl⟩
      | some app =>
          dsimp only
          refine ⟨⟨h.initialized, h.appStateSubscribers, h.subscriberRecipients, h.uids, h.syncTasks, ?_⟩, ?_⟩
          · rfl
          · rw [tellAll, h.appStateSubscribers, tellAll]
  | runTask reading => cases hCall
  | runSyncTask promoted => cases hCall

def isSubscription : PurgeableTask → Bool
  | .addSubscriberInner _ => true
  | _ => false

/-- An event of pressure depends on the applications, the time of the last one and the
broadcast only. -/
theorem runTriggerByPsi_congr {b : PurgeableMemManager} (info : SystemMemoryInfo) (reading : TaskReading)
    (hApps : b.appList = a.appList) (hTime : b.lastTriggerTime = a.lastTriggerTime)
    (hBroadcast : b.broadcast = a.broadcast) :
    b.runTriggerByPsi info reading =
      ({ b with
          appList := (a.runTriggerByPsi info reading).1.appList
          lastTriggerTime := (a.runTriggerByPsi info reading).1.lastTriggerTime
          broadcast := (a.runTriggerByPsi info reading).1.broadcast },
        (a.runTriggerByPsi info reading).2) := by
  obtain ⟨initialized, subscribers, recipients, appList, lastTriggerTime, handler, syncTasks, broadcast,
    reclaims⟩ := b
  dsimp only at hApps hTime hBroadcast
  subst hApps hTime hBroadcast
  rw [runTriggerByPsi, runTriggerByPsi]
  dsimp only
  split <;> rfl

/-- A task depends on the applications and the last trigger alone, and changes nothing else, unless it
is a subscription. -/
theorem perform_congr {b : PurgeableMemManager} {task : PurgeableTask} (reading : TaskReading)
    (hTask : isSubscription task = false) (hApps : b.appList = a.appList)
    (hTime : b.lastTriggerTime = a.lastTriggerTime) (hBroadcast : b.broadcast = a.broadcast) :
    b.perform reading task =
      ({ b with
          appList := (a.perform reading task).1.appList
          lastTriggerTime := (a.perform reading task).1.lastTriggerTime
          broadcast := (a.perform reading task).1.broadcast },
        (a.perform reading task).2) := by
  cases task with
  | addSubscriberInner subscriber => cases hTask
  | notifyMemoryLevelInner info =>
      have hByPsi := runTriggerByPsi_congr info reading hApps hTime hBroadcast
      obtain ⟨source, level⟩ := info
      cases source with
      | psiMemory => exact hByPsi
      | kswapd => exact hByPsi
      | unknown =>
          rw [perform, notifyMemoryLevelInner, perform, notifyMemoryLevelInner, ← hApps, ← hTime,
            ← hBroadcast]
      | manualDump =>
          rw [perform, notifyMemoryLevelInner, perform, notifyMemoryLevelInner, triggerByManualDump,
            triggerByManualDump]
          split_ifs
          · rw [trimAllSubscribers, trimAllSubscribers, ← hApps, ← hTime]
          · rw [← hApps, ← hTime, ← hBroadcast]
  | registerActiveAppsInner pid uid =>
      rw [perform, perform, registerActiveAppsInner, registerActiveAppsInner, hApps]
      split_ifs
      · rw [← hApps, ← hTime, ← hBroadcast]
      · rw [← hApps, ← hTime, ← hBroadcast]
      · rw [← hTime, ← hBroadcast]
  | deregisterActiveAppsInner pid uid =>
      rw [perform, perform, deregisterActiveAppsInner, deregisterActiveAppsInner, hApps]
      split
      · rw [← hApps, ← hTime, ← hBroadcast]
      · split_ifs
        · rw [← hApps, ← hTime, ← hBroadcast]
        · rw [← hTime, ← hBroadcast]
  | changeAppStateInner pid uid state =>
      rw [perform, perform, changeAppStateInner, changeAppStateInner, hApps]
      split
      · rw [← hApps, ← hTime, ← hBroadcast]
      · split_ifs
        · rw [← hApps, ← hTime, ← hBroadcast]
        · rw [← hTime]

theorem filter_wrote (log : PurgeLog) :
    (log.map fun (write, done) => Output.wrote write done).filter isHeard = [] := by
  rw [List.filter_eq_nil_iff]
  intro output hOutput
  obtain ⟨entry, -, rfl⟩ := List.mem_map.mp hOutput
  simp [isHeard]

/-- No one hears of a task before it comes to its second lock. -/
theorem filter_perform {task : PurgeableTask} (reading : TaskReading) (hTask : isSubscription task = false) :
    (m.perform reading task).2.filter isHeard = [] := by
  cases task with
  | addSubscriberInner subscriber => cases hTask
  | notifyMemoryLevelInner info =>
      obtain ⟨source, level⟩ := info
      cases source with
      | psiMemory => exact filter_wrote _
      | kswapd => exact filter_wrote _
      | unknown => rfl
      | manualDump => rfl
  | _ => rfl

/-- A call writes nothing. -/
theorem filter_step (hCall : isCall op = true) :
    (step m op).2.filter (fun output => !isHeard output) = [] := by
  have hOp : isRunTask op = false := by
    cases op with
    | runTask reading => cases hCall
    | _ => rfl
  rw [List.filter_eq_nil_iff]
  intro output hOutput
  cases output with
  | wrote write done => exact absurd hOutput (wrote_not_mem_step hOp write done)
  | _ => simp [isHeard]

theorem AppEffect.uids {task : PurgeableTask} {message : SubscriberMessage} (h : AppEffect a task m)
    (hIdle : a.broadcast = none) (hBroadcast : m.broadcast = some message) : a.uids = m.uids := by
  cases h with
  | same hApps hSame =>
      rw [hSame, hIdle] at hBroadcast
      cases hBroadcast
  | trim level hApps hTrim => rw [PurgeableMemManager.uids, PurgeableMemManager.uids, hApps]
  | registered pid uid hNew hApps hSame =>
      rw [hSame, hIdle] at hBroadcast
      cases hBroadcast
  | deregistered pid hApps hSame =>
      rw [hSame, hIdle] at hBroadcast
      cases hBroadcast
  | changed pid uid oldState state hTask hOld hApps hChange =>
      rw [PurgeableMemManager.uids, PurgeableMemManager.uids, hApps]
      apply ExtTreeMap.ext_getElem?
      intro other
      rw [ExtTreeMap.getElem?_map, ExtTreeMap.getElem?_map, ExtTreeMap.getElem?_insert]
      split_ifs with hSame
      · obtain rfl := Std.LawfulEqCmp.compare_eq_iff_eq.mp hSame
        rw [hOld]
        rfl
      · rfl

/-- The second state is the first, or it has yet to begin the task that the first has begun. -/
inductive Lags (pending : List Output) (m a : PurgeableMemManager) : Prop where
  | idle (hPending : pending = []) (hInitialized : m.initialized = true) (hIdle : m.broadcast = none)
      (hSame : a = m)
  | busy (task : PurgeableTask) (reading : TaskReading) (message : SubscriberMessage)
      (hInitialized : m.initialized = true) (hTask : isSubscription task = false) (hAlike : Alike m a)
      (hIdle : a.broadcast = none) (hHandler : a.handler = task :: m.handler)
      (hPending : (a.perform reading task).2 = pending)
      (hApps : (a.perform reading task).1.appList = m.appList)
      (hTime : (a.perform reading task).1.lastTriggerTime = m.lastTriggerTime)
      (hMessage : (a.perform reading task).1.broadcast = some message)
      (hBroadcast : m.broadcast = some message)

open DelayedSimulation (Matches)

/-- A call from outside is one step in both. -/
theorem atomicStep_call (hCall : isCall op = true) : atomicStep a op = step a op := by
  cases op with
  | runTask reading => cases hCall
  | _ => rfl

theorem outputs_singleton : Transducer.outputs atomicStep a [op] = (atomicStep a op).2 :=
  List.append_nil _

theorem matches_call {pending : List Output} (hCall : isCall op = true)
    (hSame : (step a op).2 = (step m op).2) :
    Matches isCall isHeard step atomicStep pending m a op [op] pending where
  calls := rfl
  heard := by rw [outputs_singleton, atomicStep_call hCall, hSame]
  late := by
    rw [outputs_singleton, atomicStep_call hCall, List.filter_append, List.filter_append,
      filter_step hCall, filter_step hCall, List.nil_append, List.append_nil]

/-- A call is answered alike while a task is being performed. -/
theorem Lags.call {pending : List Output} (h : Lags pending m a) (hCall : isCall op = true) :
    Matches isCall isHeard step atomicStep pending m a op [op] pending ∧
      Lags pending (step m op).1 (step a op).1 := by
  have hOp : isRunTask op = false := by
    cases op with
    | runTask reading => cases hCall
    | _ => rfl
  cases h with
  | idle hPending hInitialized hIdle hSame =>
      subst hSame
      have hPosts := posts_step hOp hInitialized
      exact ⟨matches_call hCall rfl, .idle hPending (hPosts.initialized.trans hInitialized)
        (hPosts.broadcast.trans hIdle) rfl⟩
  | busy task reading message hInitialized hTask hAlike hIdle hHandler hPending hApps hTime hMessage hBroadcast =>
      have hPosts := posts_step hOp hInitialized
      have hPostsLate := posts_step hOp (hAlike.initialized.trans hInitialized)
      have hPerform := perform_congr reading hTask hPostsLate.appList hPostsLate.lastTriggerTime
        hPostsLate.broadcast
      obtain ⟨hNext, hSame⟩ := hAlike.step hCall
      refine ⟨matches_call hCall hSame, .busy task reading message (hPosts.initialized.trans hInitialized)
        hTask hNext (hPostsLate.broadcast.trans hIdle) ?_ ?_ ?_ ?_ ?_ (hPosts.broadcast.trans hBroadcast)⟩
      · rw [hPostsLate.handler, hHandler, hPosts.handler, List.cons_append]
      · rw [hPerform]
        exact hPending
      · rw [hPerform, hPosts.appList]
        exact hApps
      · rw [hPerform, hPosts.lastTriggerTime]
        exact hTime
      · rw [hPerform]
        exact hMessage

/-- A step of the first that the second makes as well. -/
theorem matches_same (hSame : atomicStep m op = step m op) :
    Matches isCall isHeard step atomicStep [] m m op [op] [] where
  calls := rfl
  heard := by rw [outputs_singleton, hSame]
  late := by rw [outputs_singleton, hSame, List.append_nil, List.nil_append]

theorem Alike.eq (h : Alike m a) :
    { a with
      handler := m.handler
      appList := m.appList
      lastTriggerTime := m.lastTriggerTime
      broadcast := m.broadcast } = m := by
  rw [h.initialized, h.appStateSubscribers, h.subscriberRecipients, h.syncTasks, h.reclaims]

/-- The second lock of a task, and the whole task. -/
theorem Lags.finish {pending : List Output} {message : SubscriberMessage} (h : Lags pending m a)
    (hBroadcast : m.broadcast = some message) (reading : TaskReading) :
    ∃ inputs, Matches isCall isHeard step atomicStep pending m a (.runTask reading) inputs [] ∧
      Lags [] (m.runTask reading).1 (Transducer.finalState atomicStep a inputs) := by
  cases h with
  | idle hPending hInitialized hIdle hSame =>
      rw [hIdle] at hBroadcast
      cases hBroadcast
  | busy task begun message' hInitialized hTask hAlike hIdle hHandler hPending hApps hTime hMessage hTold =>
      obtain rfl : message' = message := Option.some.inj (hTold.symm.trans hBroadcast)
      have hFirst : m.runTask reading = ({ m with broadcast := none }, m.tellAll message') := by
        rw [runTask, hTold]
      have hBegun : a.runTask begun = (m, pending) := by
        have hPerform := @perform_congr a { a with handler := m.handler } task begun hTask rfl rfl rfl
        rw [runTask_begin hIdle hHandler, hPerform, hApps, hTime, hMessage, ← hTold, hPending]
        exact congrArg (·, pending) hAlike.eq
      have hWhole : atomicStep a (.runTask begun) =
          ({ m with broadcast := none }, pending ++ m.tellAll message') := by
        rw [atomicStep, hBegun]
        dsimp only
        rw [hTold]
      refine ⟨[.runTask begun], ⟨rfl, ?_, ?_⟩, ?_⟩
      · rw [outputs_singleton, hWhole, step, hFirst, List.filter_append, ← hPending,
          filter_perform begun hTask, List.nil_append]
      · rw [outputs_singleton, hWhole, step, hFirst, List.append_nil]
      · rw [hFirst]
        have hState : (atomicStep a (.runTask begun)).1 = { m with broadcast := none } := by rw [hWhole]
        exact .idle rfl hInitialized rfl hState

/-- The first lock of a task, or all of it. -/
theorem Lags.begin (hInitialized : m.initialized = true) (hIdle : m.broadcast = none) (reading : TaskReading) :
    ∃ inputs pending', Matches isCall isHeard step atomicStep [] m m (.runTask reading) inputs pending' ∧
      Lags pending' (m.runTask reading).1 (Transducer.finalState atomicStep m inputs) := by
  rcases runTask_cases m reading with ⟨message, hMessage, -⟩ | ⟨-, -, hRun⟩ | ⟨-, task, handler, hHandler, hRun⟩
  · rw [hIdle] at hMessage
    cases hMessage
  · have hSame : atomicStep m (.runTask reading) = step m (.runTask reading) := by
      rw [atomicStep, step, hRun]
      dsimp only
      rw [hIdle]
    refine ⟨[.runTask reading], [], matches_same hSame, .idle rfl ?_ ?_ (congrArg Prod.fst hSame)⟩
    · rw [hRun]
      exact hInitialized
    · rw [hRun]
      exact hIdle
  · have hKept : (m.runTask reading).1.initialized = true := by
      rw [hRun]
      exact (@perform_same { m with handler } reading task).1.trans hInitialized
    cases hBegun : (m.runTask reading).1.broadcast with
    | none =>
        have hSame : atomicStep m (.runTask reading) = step m (.runTask reading) := by
          rw [atomicStep, step]
          dsimp only
          rw [hBegun]
        exact ⟨[.runTask reading], [], matches_same hSame, .idle rfl hKept hBegun (congrArg Prod.fst hSame)⟩
    | some message =>
        have hTask : isSubscription task = false := by
          cases task with
          | addSubscriberInner subscriber =>
              rw [hRun, perform, (posts_inner _).broadcast, hIdle] at hBegun
              cases hBegun
          | _ => rfl
        have hPerform := @perform_congr m { m with handler } task reading hTask rfl rfl rfl
        have hUids : m.uids = (m.runTask reading).1.uids := by
          have hEffect := @appEffect_perform { m with handler } reading task
          rw [hRun] at hBegun ⊢
          exact hEffect.uids hIdle hBegun
        refine ⟨[], (m.runTask reading).2, ⟨rfl, ?_, ?_⟩, ?_⟩
        · rw [step, hRun, filter_perform reading hTask]
          rfl
        · rfl
        · rw [hRun, hPerform] at hUids hKept hBegun ⊢
          exact .busy task reading message hKept hTask ⟨rfl, rfl, rfl, hUids, rfl, rfl⟩ hIdle hHandler rfl
            rfl rfl hBegun hBegun

/-- Each step is matched by the atomic manager, which goes on only when a task has ended. -/
theorem lags_step (pending : List Output) (m a : PurgeableMemManager) (op : Op) (h : Lags pending m a) :
    ∃ inputs pending', Matches isCall isHeard step atomicStep pending m a op inputs pending' ∧
      Lags pending' (step m op).1 (Transducer.finalState atomicStep a inputs) := by
  cases hCall : isCall op with
  | true =>
      obtain ⟨hMatches, hNext⟩ := h.call hCall
      have hState : Transducer.finalState atomicStep a [op] = (step a op).1 :=
        congrArg Prod.fst (atomicStep_call hCall)
      rw [← hState] at hNext
      exact ⟨[op], pending, hMatches, hNext⟩
  | false =>
      cases op with
      | runTask reading =>
          cases hBroadcast : m.broadcast with
          | some message =>
              obtain ⟨inputs, hMatches, hNext⟩ := h.finish hBroadcast reading
              exact ⟨inputs, [], hMatches, hNext⟩
          | none =>
              cases h with
              | idle hPending hInitialized hIdle hSame =>
                  subst hPending hSame
                  exact Lags.begin hInitialized hIdle reading
              | busy task begun message hInitialized hTask hAlike hIdle hHandler hPending hApps hTime hMessage
                  hTold =>
                  rw [hTold] at hBroadcast
                  cases hBroadcast
      | runSyncTask promoted =>
          cases h with
          | idle hPending hInitialized hIdle hSame =>
              subst hPending hSame
              have hPosts := @posts_runSyncTask a promoted
              exact ⟨[.runSyncTask promoted], [], matches_same rfl,
                .idle rfl (hPosts.initialized.trans hInitialized) (hPosts.broadcast.trans hIdle) rfl⟩
          | busy task begun message hInitialized hTask hAlike hIdle hHandler hPending hApps hTime hMessage
              hTold =>
              have hWaits : m.runSyncTask promoted = (m, []) := by
                rw [runSyncTask, hTold]
              refine ⟨[], pending, ⟨rfl, ?_, ?_⟩, ?_⟩
              · rw [step, hWaits]
                rfl
              · rw [step, hWaits, List.append_nil]
                rfl
              · rw [step, hWaits]
                exact .busy task begun message hInitialized hTask hAlike hIdle hHandler hPending hApps hTime
                  hMessage hTold
      | _ => cases hCall

end MemMgr.PurgeableMemManager
