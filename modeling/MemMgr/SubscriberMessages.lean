import MemMgr.PurgeableManager

/-! The subscribers as copies of the list of applications. Whatever comes between the locks, those
that stay subscribed are told the same in the same order, and it is what the list went through. -/
namespace MemMgr.PurgeableMemManager

open AppStateSubscribers (Subscribed)
open Std (ExtTreeMap)

/-- Says of each step what it tells to whoever is subscribed. -/
def publishStep (m : PurgeableMemManager) (op : Op) : PurgeableMemManager × List SubscriberMessage :=
  ((step m op).1, m.publish op)

abbrev published (m : PurgeableMemManager) (ops : List Op) : List SubscriberMessage :=
  Transducer.outputs publishStep m ops

/-- In every state that the steps come through. -/
def Throughout (p : PurgeableMemManager → Prop) (m : PurgeableMemManager) (ops : List Op) : Prop :=
  ∀ before, before <+: ops → p (Transducer.finalState step m before)

def StaysSubscribed (object : RemoteObject) (m : PurgeableMemManager) (ops : List Op) : Prop :=
  Throughout (fun m => m.subscribers.Subscribed object) m ops

def StaysRegistered (pid : Int) (m : PurgeableMemManager) (ops : List Op) : Prop :=
  Throughout (fun m => pid ∈ m.appList) m ops

/-- The state that the list holds for a process. -/
def stateOf (m : PurgeableMemManager) (pid : Int) : Option Int := m.appList[pid]?.map Prod.snd

def changeOf (pid : Int) : SubscriberMessage → Option Int
  | .onAppStateChanged changedPid _ state => if changedPid = pid then some state else none
  | _ => none

/-- The last state that the messages give for a process. -/
def lastChange (pid : Int) (messages : List SubscriberMessage) : Option Int :=
  (messages.filterMap (changeOf pid)).getLast?

/-- The change of a state that a message tells, a task makes, and a call asks for. -/
def changeTold : SubscriberMessage → Option (Int × Int × Int)
  | .onAppStateChanged pid uid state => some (pid, uid, state)
  | _ => none

def changeOfTask : PurgeableTask → Option (Int × Int × Int)
  | .changeAppStateInner pid uid state => some (pid, uid, state)
  | _ => none

def changeAsked : Op → Option (Int × Int × Int)
  | .changeAppState pid uid state => some (pid, uid, state)
  | _ => none

/-- The changes that are still to be told or to be made. -/
def waitingChanges (m : PurgeableMemManager) : List (Int × Int × Int) :=
  m.broadcast.toList.filterMap changeTold ++ m.handler.filterMap changeOfTask

variable {m : PurgeableMemManager} {object other : RemoteObject} {pid : Int} {ops : List Op} {op : Op}

theorem published_concat : published m (ops ++ [op]) =
    published m ops ++ (Transducer.finalState step m ops).publish op :=
  Transducer.outputs_concat ops op

theorem Throughout.of_concat {p : PurgeableMemManager → Prop} (h : Throughout p m (ops ++ [op])) :
    Throughout p m ops :=
  fun before hPrefix => h before (hPrefix.trans (List.prefix_append _ _))

theorem Throughout.last {p : PurgeableMemManager → Prop} (h : Throughout p m ops) :
    p (Transducer.finalState step m ops) :=
  h ops (List.prefix_refl _)

theorem bounded_finalState (h : m.Bounded) (ops : List Op) : (Transducer.finalState step m ops).Bounded := by
  apply Transducer.state_invariant
  · exact h
  · exact fun m op h => h.step op

/-- Whoever stays subscribed is told all that is published. -/
theorem toldTo_eq_published (hBounded : m.Bounded) (h : StaysSubscribed object m ops) :
    toldTo object (Transducer.outputs step m ops) = published m ops := by
  induction ops using List.reverseRecOn with
  | nil => rfl
  | append_singleton ops op ih =>
      have hBefore : StaysSubscribed object m ops := Throughout.of_concat h
      rw [Transducer.outputs_concat, toldTo_append, ih hBefore, published_concat,
        toldTo_step (bounded_finalState hBounded ops), if_pos (Throughout.last hBefore)]

/-- Whoever is subscribed for a while is told what is published then. -/
theorem toldTo_sublist_published (hBounded : m.Bounded) (ops : List Op) :
    (toldTo object (Transducer.outputs step m ops)).Sublist (published m ops) := by
  induction ops using List.reverseRecOn with
  | nil => exact List.Sublist.refl _
  | append_singleton ops op ih =>
      rw [Transducer.outputs_concat, toldTo_append, published_concat,
        toldTo_step (bounded_finalState hBounded ops)]
      apply ih.append
      split_ifs
      · exact List.Sublist.refl _
      · exact List.nil_sublist _

@[simp] theorem lastChange_nil : lastChange pid [] = none := rfl

theorem lastChange_append (messages more : List SubscriberMessage) :
    lastChange pid (messages ++ more) = (lastChange pid more).or (lastChange pid messages) := by
  rw [lastChange, List.filterMap_append, List.getLast?_append]
  rfl

theorem lastChange_singleton (message : SubscriberMessage) :
    lastChange pid [message] = changeOf pid message := by
  rw [lastChange, List.filterMap_cons, List.filterMap_nil]
  cases changeOf pid message <;> rfl

theorem stateOf_congr {m' : PurgeableMemManager} (hSame : m'.appList = m.appList) :
    m'.stateOf pid = m.stateOf pid := by
  rw [stateOf, hSame, stateOf]

/-- What a task can do to the list, and what it has still to tell. -/
inductive AppEffect (m : PurgeableMemManager) (task : PurgeableTask) (m' : PurgeableMemManager) : Prop where
  | same (hApps : m'.appList = m.appList) (hBroadcast : m'.broadcast = m.broadcast)
  | trim (level : SystemMemoryLevel) (hApps : m'.appList = m.appList)
      (hBroadcast : m'.broadcast = some (.onTrim level))
  | registered (pid uid : Int) (hNew : pid ∉ m.appList)
      (hApps : m'.appList = m.appList.insert pid (uid, appStateForeground))
      (hBroadcast : m'.broadcast = m.broadcast)
  | deregistered (pid : Int) (hApps : m'.appList = m.appList.erase pid)
      (hBroadcast : m'.broadcast = m.broadcast)
  | changed (pid uid oldState state : Int) (hTask : task = .changeAppStateInner pid uid state)
      (hOld : m.appList[pid]? = some (uid, oldState))
      (hApps : m'.appList = m.appList.insert pid (uid, state))
      (hBroadcast : m'.broadcast = some (.onAppStateChanged pid uid state))

theorem appEffect_runTriggerByPsi (info : SystemMemoryInfo) (reading : TaskReading) (task : PurgeableTask) :
    AppEffect m task (m.runTriggerByPsi info reading).1 := by
  rw [runTriggerByPsi]
  dsimp only
  split
  · exact .same rfl rfl
  · rename_i level hTrim
    exact .trim level rfl rfl

theorem appEffect_perform (reading : TaskReading) (task : PurgeableTask) :
    AppEffect m task (m.perform reading task).1 := by
  cases task with
  | addSubscriberInner subscriber => exact .same rfl rfl
  | registerActiveAppsInner pid uid =>
      rw [perform, registerActiveAppsInner]
      split_ifs with hFull hKnown
      · exact .same rfl rfl
      · exact .same rfl rfl
      · exact .registered pid uid hKnown rfl rfl
  | deregisterActiveAppsInner pid uid =>
      rw [perform, deregisterActiveAppsInner]
      split
      · exact .same rfl rfl
      · split_ifs
        · exact .same rfl rfl
        · exact .deregistered pid rfl rfl
  | changeAppStateInner pid uid state =>
      rw [perform, changeAppStateInner]
      split
      · exact .same rfl rfl
      · rename_i registeredUid oldState hOld
        split_ifs with hUid
        · exact .same rfl rfl
        · obtain rfl := not_not.mp hUid
          exact .changed pid registeredUid oldState state rfl hOld rfl rfl
  | notifyMemoryLevelInner info =>
      obtain ⟨source, level⟩ := info
      cases source with
      | unknown => exact .same rfl rfl
      | psiMemory => exact appEffect_runTriggerByPsi _ reading _
      | kswapd => exact appEffect_runTriggerByPsi _ reading _
      | manualDump =>
          rw [perform, notifyMemoryLevelInner, triggerByManualDump]
          split_ifs
          · exact .trim level rfl rfl
          · exact .same rfl rfl

/-- A task that leaves a process registered changes its state to what it has to tell. -/
theorem AppEffect.stateOf {task : PurgeableTask} {m' : PurgeableMemManager} (h : AppEffect m task m')
    (hIdle : m.broadcast = none) (hBefore : pid ∈ m.appList) (hAfter : pid ∈ m'.appList) :
    m'.stateOf pid = (lastChange pid m'.broadcast.toList).or (m.stateOf pid) := by
  cases h with
  | same hApps hBroadcast =>
      rw [stateOf_congr hApps, hBroadcast, hIdle]
      rfl
  | trim level hApps hBroadcast =>
      rw [stateOf_congr hApps, hBroadcast]
      rfl
  | registered registeredPid uid hNew hApps hBroadcast =>
      have hOther : registeredPid ≠ pid := fun hSame => hNew (hSame ▸ hBefore)
      rw [hBroadcast, hIdle, PurgeableMemManager.stateOf, hApps, ExtTreeMap.getElem?_insert,
        if_neg (by simpa using hOther)]
      rfl
  | deregistered deregisteredPid hApps hBroadcast =>
      have hOther : deregisteredPid ≠ pid := by
        rintro rfl
        rw [hApps] at hAfter
        simp at hAfter
      rw [hBroadcast, hIdle, PurgeableMemManager.stateOf, hApps, ExtTreeMap.getElem?_erase,
        if_neg (by simpa using hOther)]
      rfl
  | changed changedPid uid oldState state hTask hOld hApps hBroadcast =>
      rw [hBroadcast, Option.toList_some, lastChange_singleton, changeOf, PurgeableMemManager.stateOf,
        hApps, ExtTreeMap.getElem?_insert]
      by_cases hSame : changedPid = pid
      · rw [if_pos (by simpa using hSame), if_pos hSame]
        rfl
      · rw [if_neg (by simpa using hSame), if_neg hSame]
        rfl

theorem runTriggerByPsi_same (info : SystemMemoryInfo) (reading : TaskReading) :
    (m.runTriggerByPsi info reading).1.initialized = m.initialized ∧
      (m.runTriggerByPsi info reading).1.handler = m.handler := by
  rw [runTriggerByPsi]
  dsimp only
  split <;> exact ⟨rfl, rfl⟩

theorem perform_same (reading : TaskReading) (task : PurgeableTask) :
    (m.perform reading task).1.initialized = m.initialized ∧
      (m.perform reading task).1.handler = m.handler := by
  cases task with
  | addSubscriberInner subscriber => exact ⟨rfl, rfl⟩
  | registerActiveAppsInner pid uid =>
      rw [perform, registerActiveAppsInner]
      split_ifs <;> exact ⟨rfl, rfl⟩
  | deregisterActiveAppsInner pid uid =>
      rw [perform, deregisterActiveAppsInner]
      split
      · exact ⟨rfl, rfl⟩
      · split_ifs <;> exact ⟨rfl, rfl⟩
  | changeAppStateInner pid uid state =>
      rw [perform, changeAppStateInner]
      split
      · exact ⟨rfl, rfl⟩
      · split_ifs <;> exact ⟨rfl, rfl⟩
  | notifyMemoryLevelInner info =>
      obtain ⟨source, level⟩ := info
      cases source with
      | unknown => exact ⟨rfl, rfl⟩
      | psiMemory => exact runTriggerByPsi_same _ reading
      | kswapd => exact runTriggerByPsi_same _ reading
      | manualDump =>
          rw [perform, notifyMemoryLevelInner, triggerByManualDump]
          split_ifs <;> exact ⟨rfl, rfl⟩

theorem initialized_step (hInitialized : m.initialized = true) (op : Op) :
    (step m op).1.initialized = true := by
  cases hOp : isRunTask op with
  | false => exact (posts_step hOp hInitialized).initialized.trans hInitialized
  | true =>
      cases op with
      | runTask reading =>
          rcases runTask_cases m reading with ⟨message, -, hRun⟩ | ⟨-, -, hRun⟩ | ⟨-, task, handler, -, hRun⟩
          · rw [step, hRun]
            exact hInitialized
          · rw [step, hRun]
            exact hInitialized
          · rw [step, hRun]
            exact (perform_same reading task).1.trans hInitialized
      | _ => cases hOp

theorem initialized_finalState (hInitialized : m.initialized = true) (ops : List Op) :
    (Transducer.finalState step m ops).initialized = true := by
  apply Transducer.state_invariant fun m : PurgeableMemManager => m.initialized = true
  · exact hInitialized
  · exact fun m op h => initialized_step h op

theorem lastChange_publish (hOp : isRunTask op = false) : lastChange pid (m.publish op) = none := by
  have hNone : (m.publish op).filterMap (changeOf pid) = [] := by
    rw [List.filterMap_eq_nil_iff]
    intro message hMessage
    cases op with
    | reclaimSubscriberAll =>
        obtain ⟨app, -, rfl⟩ := List.mem_map.mp hMessage
        rfl
    | tellReclaim turn =>
        obtain ⟨app, -, rfl⟩ := List.mem_map.mp hMessage
        rfl
    | runTask reading => cases hOp
    | _ => cases hMessage
  rw [lastChange, hNone]
  rfl

/-- What was published of a process that stays registered, with what is still to be told. -/
theorem stateOf_finalState (hInitialized : m.initialized = true) (hIdle : m.broadcast = none)
    (h : StaysRegistered pid m ops) :
    (Transducer.finalState step m ops).stateOf pid =
      (lastChange pid (published m ops ++ (Transducer.finalState step m ops).broadcast.toList)).or
        (m.stateOf pid) := by
  induction ops using List.reverseRecOn with
  | nil =>
      rw [Transducer.finalState_nil, hIdle]
      rfl
  | append_singleton ops op ih =>
      have hBefore : StaysRegistered pid m ops := Throughout.of_concat h
      have hAfter : pid ∈ (step (Transducer.finalState step m ops) op).1.appList := by
        simpa using Throughout.last h
      have hRegistered : pid ∈ (Transducer.finalState step m ops).appList := Throughout.last hBefore
      have hKept := initialized_finalState hInitialized ops
      have hSoFar := ih hBefore
      rw [published_concat, Transducer.finalState_concat]
      generalize Transducer.finalState step m ops = s at *
      cases hOp : isRunTask op with
      | false =>
          have hPosts := posts_step hOp hKept
          rw [stateOf_congr hPosts.appList, hPosts.broadcast, hSoFar, List.append_assoc, lastChange_append,
            lastChange_append, lastChange_append, lastChange_publish hOp, Option.or_none]
      | true =>
          cases op with
          | runTask reading =>
              rw [step] at hAfter ⊢
              rw [publish]
              rcases runTask_cases s reading with
                ⟨message, hMessage, hRun⟩ | ⟨hNone, -, hRun⟩ | ⟨hNone, task, handler, -, hRun⟩
              · rw [hMessage] at hSoFar ⊢
                rw [hRun, Option.toList_none, List.append_nil]
                exact hSoFar
              · rw [hRun, hNone, Option.toList_none, List.append_nil]
                rw [hNone, Option.toList_none] at hSoFar
                exact hSoFar
              · have hEffect := @appEffect_perform { s with handler } reading task
                rw [hRun] at hAfter ⊢
                rw [hEffect.stateOf hNone hRegistered hAfter, hNone, Option.toList_none, List.append_nil,
                  lastChange_append, Option.or_assoc]
                rw [hNone, Option.toList_none, List.append_nil] at hSoFar
                exact congrArg _ hSoFar
          | _ => cases hOp

/-- Subscribers that stay are told the same in the same order, and what they were last told of a process
that stays registered is the state in the list. -/
theorem toldTo_agree (before during : List Op) (h : StaysSubscribed object (run before) during) :
    (∀ other, StaysSubscribed other (run before) during →
      toldTo other (Transducer.outputs step (run before) during) =
        toldTo object (Transducer.outputs step (run before) during)) ∧
    ∀ pid, StaysRegistered pid (run before) during → (run before).broadcast = none →
      (run (before ++ during)).broadcast = none →
        (run (before ++ during)).stateOf pid =
          (lastChange pid (toldTo object (Transducer.outputs step (run before) during))).or
            ((run before).stateOf pid) := by
  rw [toldTo_eq_published (bounded_run before) h]
  constructor
  · intro other hOther
    exact toldTo_eq_published (bounded_run before) hOther
  · intro pid hRegistered hStart hEnd
    rw [run, Transducer.finalState_append] at hEnd ⊢
    rw [stateOf_finalState (initialized_finalState rfl before) hStart hRegistered, hEnd, Option.toList_none,
      List.append_nil]

instance {p : PurgeableMemManager → Prop} [DecidablePred p] (m : PurgeableMemManager) (ops : List Op) :
    Decidable (Throughout p m ops) :=
  decidable_of_iff (∀ before ∈ ops.inits, p (Transducer.finalState step m before)) <| by
    simp only [List.mem_inits]
    rfl

instance (object : RemoteObject) (m : PurgeableMemManager) (ops : List Op) :
    Decidable (StaysSubscribed object m ops) :=
  inferInstanceAs (Decidable (Throughout _ m ops))

/-- Enough memory, and no pressure. -/
def quietReading : TaskReading where
  makeRecipient := true
  now := 20
  currentBuffer := 900
  getPurgeable := none
  purgeWhiteAppSet := ∅
  ashmSort := stableSort
  kernel := ⟨none, [], fun _ _ => none, fun _ _ => none, none, fun _ => true⟩

/-- Three subscribers and an application. -/
def connected : List Op :=
  [.addSubscriber .tokenNative (some ⟨some 1⟩), .addSubscriber .tokenNative (some ⟨some 2⟩),
    .addSubscriber .tokenShell (some ⟨some 3⟩), .registerActiveApps .tokenNative 10 2000,
    .runTask quietReading, .runTask quietReading, .runTask quietReading, .runTask quietReading]

/-- Between the two locks of a change one subscriber leaves, and the application is told of. -/
def changed : List Op :=
  [.changeAppState 10 2000 4, .runTask quietReading, .removeSubscriber .tokenNative (some ⟨some 3⟩),
    .reclaimSubscriberProc 10, .tellReclaim 0, .runTask quietReading]

theorem toldTo_agree_changed :
    toldTo 1 (Transducer.outputs step (run connected) changed) =
        [.forceReclaim 10 2000, .onAppStateChanged 10 2000 4] ∧
      toldTo 3 (Transducer.outputs step (run connected) changed) = [] ∧
      (toldTo 2 (Transducer.outputs step (run connected) changed) =
          toldTo 1 (Transducer.outputs step (run connected) changed) ∧
        (run (connected ++ changed)).stateOf 10 =
          (lastChange 10 (toldTo 1 (Transducer.outputs step (run connected) changed))).or
            ((run connected).stateOf 10)) := by
  have hAgree := @toldTo_agree 1 connected changed (by decide)
  refine ⟨by decide, by decide, hAgree.1 2 (by decide), hAgree.2 10 ?_ rfl rfl⟩
  rw [StaysRegistered]
  decide

theorem filterMap_requested (op : Op) :
    (requested op).toList.filterMap changeOfTask = (changeAsked op).toList := by
  cases op with
  | addSubscriber token subscriber =>
      rw [requested]
      cases subscriber <;> split_ifs <;> rfl
  | registerActiveApps token pid uid =>
      rw [requested]
      split_ifs <;> rfl
  | deregisterActiveApps token pid uid =>
      rw [requested]
      split_ifs <;> rfl
  | _ => rfl

theorem filterMap_publish (hOp : isRunTask op = false) : (m.publish op).filterMap changeTold = [] := by
  rw [List.filterMap_eq_nil_iff]
  intro message hMessage
  cases op with
  | reclaimSubscriberAll =>
      obtain ⟨app, -, rfl⟩ := List.mem_map.mp hMessage
      rfl
  | tellReclaim turn =>
      obtain ⟨app, -, rfl⟩ := List.mem_map.mp hMessage
      rfl
  | runTask reading => cases hOp
  | _ => cases hMessage

/-- A task has no change to tell but its own. -/
theorem AppEffect.changes {task : PurgeableTask} {m' : PurgeableMemManager} (h : AppEffect m task m')
    (hIdle : m.broadcast = none) :
    (m'.broadcast.toList.filterMap changeTold).Sublist (changeOfTask task).toList := by
  cases h with
  | same hApps hBroadcast =>
      rw [hBroadcast, hIdle]
      exact List.nil_sublist _
  | trim level hApps hBroadcast =>
      rw [hBroadcast]
      exact List.nil_sublist _
  | registered pid uid hNew hApps hBroadcast =>
      rw [hBroadcast, hIdle]
      exact List.nil_sublist _
  | deregistered pid hApps hBroadcast =>
      rw [hBroadcast, hIdle]
      exact List.nil_sublist _
  | changed pid uid oldState state hTask hOld hApps hBroadcast =>
      rw [hBroadcast, hTask]
      exact List.Sublist.refl _

/-- A step tells what was waiting, and what it lets wait was asked for. -/
theorem changes_step (hInitialized : m.initialized = true) (op : Op) :
    ((m.publish op).filterMap changeTold ++ (step m op).1.waitingChanges).Sublist
      (m.waitingChanges ++ (changeAsked op).toList) := by
  cases hOp : isRunTask op with
  | false =>
      have hPosts := posts_step hOp hInitialized
      rw [filterMap_publish hOp, List.nil_append, waitingChanges, hPosts.broadcast, hPosts.handler,
        List.filterMap_append, filterMap_requested, ← List.append_assoc]
      exact List.Sublist.refl _
  | true =>
      cases op with
      | runTask reading =>
          have hAsked : changeAsked (.runTask reading) = none := rfl
          rw [hAsked, Option.toList_none, List.append_nil, step, publish]
          rcases runTask_cases m reading with
            ⟨message, hMessage, hRun⟩ | ⟨hNone, -, hRun⟩ | ⟨hNone, task, handler, hHandler, hRun⟩
          · rw [hRun, waitingChanges, waitingChanges, hMessage]
            exact List.Sublist.refl _
          · rw [hRun, hNone]
            exact List.Sublist.refl _
          · have hEffect := @appEffect_perform { m with handler } reading task
            have hTold := (hEffect.changes hNone).append_right (handler.filterMap changeOfTask)
            have hHandlerAfter := (@perform_same { m with handler } reading task).2
            rw [hRun, waitingChanges, hHandlerAfter]
            rw [waitingChanges, hNone, hHandler, List.filterMap_cons]
            rw [hNone] at hTold
            cases hTask : changeOfTask task with
            | none => simpa [hTask] using hTold
            | some change => simpa [hTask] using hTold
      | _ => cases hOp

theorem changes_run (ops : List Op) :
    ((published init ops).filterMap changeTold ++ (run ops).waitingChanges).Sublist
      (ops.filterMap changeAsked) := by
  induction ops using List.reverseRecOn with
  | nil => exact List.Sublist.refl _
  | append_singleton ops op ih =>
      have hStep := changes_step (@initialized_finalState init rfl ops) op
      rw [published_concat, run, Transducer.finalState_concat, List.filterMap_append, List.filterMap_append,
        List.append_assoc]
      refine (hStep.append_left _).trans ?_
      rw [← List.append_assoc]
      have hLast : [op].filterMap changeAsked = (changeAsked op).toList := by
        cases hAsked : changeAsked op <;> simp [hAsked]
      rw [hLast]
      exact ih.append_right _

theorem changesTold_sublist (ops : List Op) (object : RemoteObject) :
    ((toldTo object (told ops)).filterMap changeTold).Sublist (ops.filterMap changeAsked) := by
  have hPublished := (@toldTo_sublist_published init object bounded_init ops).filterMap changeTold
  exact hPublished.trans ((List.sublist_append_left _ _).trans (changes_run ops))

/-- Nothing is told of a state that was not asked for: each subscriber is told of changes in the order
of the calls, of each at most once. -/
theorem changes_told_sublist (ops : List Op) (object : RemoteObject) :
    ((toldTo object (told ops)).filterMap changeTold).Sublist (ops.filterMap changeAsked) ∧
      (run ops).appList.size ≤ purgeableAppstateMaxNum ∧
      (run ops).appStateSubscribers.length ≤ purgeableSubscriberMaxNum :=
  ⟨changesTold_sublist ops object, (bounded_run ops).apps, (bounded_run ops).subscribers.atMost⟩

end MemMgr.PurgeableMemManager
