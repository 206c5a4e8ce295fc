import Std.Data.ExtTreeMap
import MemMgr.PurgeByPsi
import MemMgr.SubscriberRegistration

/-! `PurgeableMemManager` as its threads see it. Tasks run one after the other on the handler, while
calls that are carried out at once may come between any two of its locks. A step is what is done
under one lock, so a change of a state is two steps, and a forced reclaim of a process as well. -/
namespace MemMgr

open Std (ExtTreeMap ExtTreeSet)
open AppStateSubscribers (InnerCall innerStep checkCallingToken)

def purgeableAppstateMaxNum : Nat := 100
def appStateForeground : Int := 2

inductive MemorySource where
  | unknown
  | psiMemory
  | kswapd
  | manualDump
  deriving DecidableEq

structure SystemMemoryInfo where
  source : MemorySource
  level : SystemMemoryLevel
  deriving DecidableEq

/-- What a subscriber is told once it is connected. -/
inductive SubscriberMessage where
  | onAppStateChanged (pid uid state : Int)
  | forceReclaim (pid uid : Int)
  | onTrim (level : SystemMemoryLevel)
  deriving DecidableEq

/-- The tasks that are posted as immediate ones. -/
inductive PurgeableTask where
  | addSubscriberInner (subscriber : IAppStateSubscriber)
  | registerActiveAppsInner (pid uid : Int)
  | deregisterActiveAppsInner (pid uid : Int)
  | changeAppStateInner (pid uid state : Int)
  | notifyMemoryLevelInner (info : SystemMemoryInfo)
  deriving DecidableEq

structure PurgeableMemManager where
  initialized : Bool
  appStateSubscribers : List IAppStateSubscriber
  subscriberRecipients : ExtTreeSet RemoteObject
  /-- The uid and the state of each process that is registered. -/
  appList : ExtTreeMap Int (Int × Int)
  lastTriggerTime : Int
  /-- The immediate tasks, the next one first. -/
  handler : List PurgeableTask
  /-- The death notices, whose threads wait. They have a priority of their own. -/
  syncTasks : List RemoteObject
  /-- What the running task has still to tell all subscribers. -/
  broadcast : Option SubscriberMessage
  /-- Forced reclaims of a process that have read its uid, and told nobody so far. -/
  reclaims : List (Int × Int)

/-- What a task finds: memory for a recipient or not, and all that an event of pressure reads. -/
structure TaskReading where
  makeRecipient : Bool
  now : Int
  currentBuffer : Int
  getPurgeable : Option Nat
  purgeWhiteAppSet : ExtTreeSet String
  ashmSort : AshmSort
  kernel : PurgeableInventory

namespace PurgeableMemManager

inductive Output where
  | told (subscriber : IAppStateSubscriber) (message : SubscriberMessage)
  | connection (output : AppStateSubscribers.Output)
  | wrote (write : PurgeWrite) (done : Bool)
  deriving DecidableEq

/-- A call, a death notice, or a thread that goes on. -/
inductive Op where
  | addSubscriber (token : ATokenType) (subscriber : Option IAppStateSubscriber)
  | removeSubscriber (token : ATokenType) (subscriber : Option IAppStateSubscriber)
  | onRemoteSubscriberDied (object : Option RemoteObject)
  | registerActiveApps (token : ATokenType) (pid uid : Int)
  | deregisterActiveApps (token : ATokenType) (pid uid : Int)
  | changeAppState (pid uid state : Int)
  | notifyMemoryLevel (info : SystemMemoryInfo)
  | reclaimSubscriberAll
  | reclaimSubscriberProc (pid : Int)
  | tellReclaim (turn : Nat)
  | runTask (reading : TaskReading)
  | runSyncTask (promoted : Bool)

def init : PurgeableMemManager := ⟨true, [], ∅, ∅, 0, [], [], none, []⟩

variable (m : PurgeableMemManager)

/-- The two containers of the subscribers. -/
def subscribers : AppStateSubscribers := ⟨m.initialized, m.appStateSubscribers, m.subscriberRecipients, []⟩

def setSubscribers (subscribers : AppStateSubscribers) : PurgeableMemManager :=
  { m with
    appStateSubscribers := subscribers.appStateSubscribers
    subscriberRecipients := subscribers.subscriberRecipients }

def inner (call : InnerCall) : PurgeableMemManager × List Output :=
  let (subscribers, told) := innerStep m.subscribers call
  (m.setSubscribers subscribers, told.map .connection)

def registerActiveAppsInner (pid uid : Int) : PurgeableMemManager :=
  if m.appList.size ≥ purgeableAppstateMaxNum then m
  else if pid ∈ m.appList then m
  else { m with appList := m.appList.insert pid (uid, appStateForeground) }

def deregisterActiveAppsInner (pid uid : Int) : PurgeableMemManager :=
  match m.appList[pid]? with
  | none => m
  | some (registeredUid, _) =>
      if registeredUid ≠ uid then m
      else { m with appList := m.appList.erase pid }

/-- The first of the two locks. -/
def changeAppStateInner (pid uid state : Int) : PurgeableMemManager :=
  match m.appList[pid]? with
  | none => m
  | some (registeredUid, _) =>
      if registeredUid ≠ uid then m
      else
        { m with
          appList := m.appList.insert pid (registeredUid, state)
          broadcast := some (.onAppStateChanged pid uid state) }

/-- Told under the lock of the subscribers, in their order. -/
def tellAll (message : SubscriberMessage) : List Output :=
  m.appStateSubscribers.map fun subscriber => .told subscriber message

def trimAllSubscribers (level : SystemMemoryLevel) : PurgeableMemManager :=
  { m with broadcast := some (.onTrim level) }

def runTriggerByPsi (info : SystemMemoryInfo) (reading : TaskReading) : PurgeableMemManager × List Output :=
  let outcome := triggerByPsi reading.purgeWhiteAppSet reading.ashmSort reading.kernel info.level
    reading.now reading.currentBuffer reading.getPurgeable m.lastTriggerTime
  let m := { m with lastTriggerTime := outcome.lastTriggerTime }
  (match outcome.trimAllSubscribers with
    | none => m
    | some level => m.trimAllSubscribers level,
    outcome.log.map fun (write, done) => .wrote write done)

def triggerByManualDump (info : SystemMemoryInfo) : PurgeableMemManager :=
  if info.level ≠ .unknown then m.trimAllSubscribers info.level else m

def notifyMemoryLevelInner (info : SystemMemoryInfo) (reading : TaskReading) :
    PurgeableMemManager × List Output :=
  match info.source with
  | .manualDump => (m.triggerByManualDump info, [])
  | .kswapd => m.runTriggerByPsi info reading
  | .psiMemory => m.runTriggerByPsi info reading
  | .unknown => (m, [])

def perform (reading : TaskReading) : PurgeableTask → PurgeableMemManager × List Output
  | .addSubscriberInner subscriber => m.inner (.addSubscriberInner reading.makeRecipient subscriber)
  | .registerActiveAppsInner pid uid => (m.registerActiveAppsInner pid uid, [])
  | .deregisterActiveAppsInner pid uid => (m.deregisterActiveAppsInner pid uid, [])
  | .changeAppStateInner pid uid state => (m.changeAppStateInner pid uid state, [])
  | .notifyMemoryLevelInner info => m.notifyMemoryLevelInner info reading

def post (task : PurgeableTask) : PurgeableMemManager :=
  if m.initialized = false then m else { m with handler := m.handler ++ [task] }

def addSubscriber (token : ATokenType) (subscriber : Option IAppStateSubscriber) : PurgeableMemManager :=
  if checkCallingToken token = false then m
  else
    match subscriber with
    | none => m
    | some subscriber => m.post (.addSubscriberInner subscriber)

def removeSubscriber (token : ATokenType) (subscriber : Option IAppStateSubscriber) :
    PurgeableMemManager × List Output :=
  if checkCallingToken token = false then (m, [])
  else if m.initialized = false then (m, [])
  else
    match subscriber with
    | none => (m, [])
    | some subscriber => m.inner (.removeSubscriberInner subscriber)

def onRemoteSubscriberDied (object : Option RemoteObject) : PurgeableMemManager :=
  match object with
  | none => m
  | some object => { m with syncTasks := m.syncTasks ++ [object] }

def registerActiveApps (token : ATokenType) (pid uid : Int) : PurgeableMemManager :=
  if checkCallingToken token = false then m else m.post (.registerActiveAppsInner pid uid)

def deregisterActiveApps (token : ATokenType) (pid uid : Int) : PurgeableMemManager :=
  if checkCallingToken token = false then m else m.post (.deregisterActiveAppsInner pid uid)

def changeAppState (pid uid state : Int) : PurgeableMemManager :=
  m.post (.changeAppStateInner pid uid state)

def notifyMemoryLevel (info : SystemMemoryInfo) : PurgeableMemManager :=
  m.post (.notifyMemoryLevelInner info)

/-- Both locks are held, so this is one step. -/
def reclaimSubscriberAll : List Output :=
  m.appStateSubscribers.flatMap fun subscriber =>
    m.appList.toList.map fun (pid, uid, _) => .told subscriber (.forceReclaim pid uid)

/-- The first of the two locks. -/
def reclaimSubscriberProc (pid : Int) : PurgeableMemManager :=
  match m.appList[pid]? with
  | none => m
  | some (uid, _) => { m with reclaims := m.reclaims ++ [(pid, uid)] }

/-- The second lock, for one of the threads. -/
def tellReclaim (turn : Nat) : PurgeableMemManager × List Output :=
  match m.reclaims[turn]? with
  | none => (m, [])
  | some (pid, uid) =>
      ({ m with reclaims := m.reclaims.eraseIdx turn }, m.tellAll (.forceReclaim pid uid))

/-- The handler goes on with its task, or begins the next one. -/
def runTask (reading : TaskReading) : PurgeableMemManager × List Output :=
  match m.broadcast with
  | some message => ({ m with broadcast := none }, m.tellAll message)
  | none =>
      match m.handler with
      | [] => (m, [])
      | task :: handler => perform { m with handler } reading task

/-- A death notice whose object may be gone by now. -/
def runSyncTask (promoted : Bool) : PurgeableMemManager × List Output :=
  match m.broadcast, m.syncTasks with
  | none, object :: syncTasks =>
      inner { m with syncTasks } (.onRemoteSubscriberDiedInner (if promoted then some object else none))
  | _, _ => (m, [])

def step : Op → PurgeableMemManager × List Output
  | .addSubscriber token subscriber => (m.addSubscriber token subscriber, [])
  | .removeSubscriber token subscriber => m.removeSubscriber token subscriber
  | .onRemoteSubscriberDied object => (m.onRemoteSubscriberDied object, [])
  | .registerActiveApps token pid uid => (m.registerActiveApps token pid uid, [])
  | .deregisterActiveApps token pid uid => (m.deregisterActiveApps token pid uid, [])
  | .changeAppState pid uid state => (m.changeAppState pid uid state, [])
  | .notifyMemoryLevel info => (m.notifyMemoryLevel info, [])
  | .reclaimSubscriberAll => (m, m.reclaimSubscriberAll)
  | .reclaimSubscriberProc pid => (m.reclaimSubscriberProc pid, [])
  | .tellReclaim turn => m.tellReclaim turn
  | .runTask reading => m.runTask reading
  | .runSyncTask promoted => m.runSyncTask promoted

abbrev run (ops : List Op) : PurgeableMemManager := Transducer.finalState step init ops

abbrev told (ops : List Op) : List Output := Transducer.outputs step init ops

/-- The messages that reach a subscriber, in order. -/
def toldTo (object : RemoteObject) (outputs : List Output) : List SubscriberMessage :=
  outputs.filterMap fun
    | .told subscriber message => if subscriber.asObject = some object then some message else none
    | _ => none

/-- There is room for every subscriber and every process, and no object is held twice. -/
structure Bounded : Prop where
  subscribers : m.subscribers.Bounded
  apps : m.appList.size ≤ purgeableAppstateMaxNum

variable {m} {object : RemoteObject} {outputs more : List Output}

@[simp] theorem toldTo_nil : toldTo object [] = [] := rfl

theorem toldTo_append : toldTo object (outputs ++ more) = toldTo object outputs ++ toldTo object more :=
  List.filterMap_append

theorem toldTo_eq_nil (h : ∀ subscriber message, Output.told subscriber message ∉ outputs) :
    toldTo object outputs = [] := by
  rw [toldTo, List.filterMap_eq_nil_iff]
  intro output hOutput
  cases output with
  | told subscriber message => exact absurd hOutput (h subscriber message)
  | connection output => rfl
  | wrote write done => rfl

@[simp] theorem toldTo_inner (call : InnerCall) : toldTo object (m.inner call).2 = [] := by
  apply toldTo_eq_nil
  simp [inner]

theorem toldTo_map_told (subscriber : IAppStateSubscriber) (messages : List SubscriberMessage) :
    toldTo object (messages.map (.told subscriber)) =
      if subscriber.asObject = some object then messages else [] := by
  rw [toldTo, List.filterMap_map]
  by_cases hObject : subscriber.asObject = some object <;> simp [hObject]

/-- Among distinct objects each is told everything once. -/
theorem toldTo_flatMap {subscribers : List IAppStateSubscriber}
    (hNodup : (subscribers.map (·.asObject)).Nodup) (messages : List SubscriberMessage) :
    toldTo object (subscribers.flatMap fun subscriber => messages.map (.told subscriber)) =
      if some object ∈ subscribers.map (·.asObject) then messages else [] := by
  induction subscribers with
  | nil => simp
  | cons subscriber subscribers ih =>
      rw [List.map_cons, List.nodup_cons] at hNodup
      rw [List.flatMap_cons, toldTo_append, toldTo_map_told, ih hNodup.2, List.map_cons]
      by_cases hObject : subscriber.asObject = some object
      · rw [hObject] at hNodup
        rw [if_pos hObject, if_neg hNodup.1, if_pos (by simp [hObject]), List.append_nil]
      · simp [hObject, Ne.symm hObject]

/-- What is told under one lock reaches each subscriber once. -/
theorem toldTo_subscribers (h : m.Bounded) (messages : List SubscriberMessage) :
    toldTo object (m.appStateSubscribers.flatMap fun subscriber => messages.map (.told subscriber)) =
      if m.subscribers.Subscribed object then messages else [] := by
  refine (toldTo_flatMap h.subscribers.nodup messages).trans ?_
  exact if_congr AppStateSubscribers.subscribed_iff.symm rfl rfl

/-- A broadcast tells each subscriber once. -/
theorem toldTo_tellAll (h : m.Bounded) (message : SubscriberMessage) :
    toldTo object (m.tellAll message) = if m.subscribers.Subscribed object then [message] else [] := by
  rw [← toldTo_subscribers h, tellAll, List.map_eq_flatMap]
  rfl

theorem toldTo_reclaimSubscriberAll (h : m.Bounded) : toldTo object m.reclaimSubscriberAll =
    if m.subscribers.Subscribed object then
      m.appList.toList.map fun (pid, uid, _) => .forceReclaim pid uid
    else [] := by
  rw [← toldTo_subscribers h, reclaimSubscriberAll]
  simp only [List.map_map, Function.comp_def]

/-- Performing a task tells nothing before its broadcast begins. -/
theorem toldTo_perform (reading : TaskReading) (task : PurgeableTask) :
    toldTo object (m.perform reading task).2 = [] := by
  cases task with
  | addSubscriberInner subscriber => exact toldTo_inner _
  | registerActiveAppsInner pid uid => rfl
  | deregisterActiveAppsInner pid uid => rfl
  | changeAppStateInner pid uid state => rfl
  | notifyMemoryLevelInner info =>
      obtain ⟨source, level⟩ := info
      apply toldTo_eq_nil
      cases source <;> simp [perform, notifyMemoryLevelInner, runTriggerByPsi]

/-- What a step tells to whoever is subscribed. -/
def publish (m : PurgeableMemManager) : Op → List SubscriberMessage
  | .reclaimSubscriberAll => m.appList.toList.map fun (pid, uid, _) => .forceReclaim pid uid
  | .tellReclaim turn => m.reclaims[turn]?.toList.map fun (pid, uid) => .forceReclaim pid uid
  | .runTask _ => m.broadcast.toList
  | _ => []

theorem toldTo_removeSubscriber (token : ATokenType) (subscriber : Option IAppStateSubscriber) :
    toldTo object (m.removeSubscriber token subscriber).2 = [] := by
  cases subscriber with
  | none =>
      rw [removeSubscriber]
      split_ifs <;> rfl
  | some subscriber =>
      rw [removeSubscriber]
      split_ifs
      · rfl
      · rfl
      · exact toldTo_inner _

theorem toldTo_runSyncTask (promoted : Bool) : toldTo object (m.runSyncTask promoted).2 = [] := by
  rw [runSyncTask]
  split
  · exact toldTo_inner _
  · rfl

/-- What a subscriber is told by a step is what the step publishes, if it is subscribed. -/
theorem toldTo_step (h : m.Bounded) (op : Op) : toldTo object (step m op).2 =
    if m.subscribers.Subscribed object then m.publish op else [] := by
  cases op with
  | reclaimSubscriberAll => exact toldTo_reclaimSubscriberAll h
  | tellReclaim turn =>
      rw [step, tellReclaim, publish]
      cases m.reclaims[turn]? with
      | none => simp
      | some app => exact toldTo_tellAll h _
  | runTask reading =>
      rw [step, runTask, publish]
      cases m.broadcast with
      | some message => exact toldTo_tellAll h _
      | none =>
          rw [Option.toList_none, ite_self]
          cases m.handler with
          | nil => rfl
          | cons task handler => exact toldTo_perform reading task
  | removeSubscriber token subscriber =>
      exact (toldTo_removeSubscriber token subscriber).trans (ite_self _).symm
  | runSyncTask promoted => exact (toldTo_runSyncTask promoted).trans (ite_self _).symm
  | addSubscriber token subscriber => exact (ite_self _).symm
  | onRemoteSubscriberDied object => exact (ite_self _).symm
  | registerActiveApps token pid uid => exact (ite_self _).symm
  | deregisterActiveApps token pid uid => exact (ite_self _).symm
  | changeAppState pid uid state => exact (ite_self _).symm
  | notifyMemoryLevel info => exact (ite_self _).symm
  | reclaimSubscriberProc pid => exact (ite_self _).symm

/-- The immediate task that a call comes to, if it is let in. -/
def requested : Op → Option PurgeableTask
  | .addSubscriber token subscriber =>
      if checkCallingToken token then subscriber.map .addSubscriberInner else none
  | .registerActiveApps token pid uid =>
      if checkCallingToken token then some (.registerActiveAppsInner pid uid) else none
  | .deregisterActiveApps token pid uid =>
      if checkCallingToken token then some (.deregisterActiveAppsInner pid uid) else none
  | .changeAppState pid uid state => some (.changeAppStateInner pid uid state)
  | .notifyMemoryLevel info => some (.notifyMemoryLevelInner info)
  | _ => none

/-- Whether it is the handler that goes on with its immediate tasks. -/
def isRunTask : Op → Bool
  | .runTask _ => true
  | _ => false

/-- Tasks are posted, and nothing else changes that the immediate tasks change. -/
structure Posts (m : PurgeableMemManager) (tasks : List PurgeableTask) (m' : PurgeableMemManager) : Prop where
  initialized : m'.initialized = m.initialized
  appList : m'.appList = m.appList
  lastTriggerTime : m'.lastTriggerTime = m.lastTriggerTime
  broadcast : m'.broadcast = m.broadcast
  handler : m'.handler = m.handler ++ tasks

theorem posts_nil : m.Posts [] m := ⟨rfl, rfl, rfl, rfl, (List.append_nil _).symm⟩

theorem posts_inner (call : InnerCall) : m.Posts [] (m.inner call).1 :=
  ⟨rfl, rfl, rfl, rfl, (List.append_nil _).symm⟩

theorem posts_post (hInitialized : m.initialized = true) (task : PurgeableTask) :
    m.Posts [task] (m.post task) := by
  rw [post, if_neg (by simp [hInitialized])]
  exact ⟨rfl, rfl, rfl, rfl, rfl⟩

/-- The removal of a subscriber posts nothing. -/
theorem posts_removeSubscriber (token : ATokenType) (subscriber : Option IAppStateSubscriber) :
    m.Posts [] (m.removeSubscriber token subscriber).1 := by
  cases subscriber with
  | none =>
      rw [removeSubscriber]
      split_ifs <;> exact posts_nil
  | some subscriber =>
      rw [removeSubscriber]
      split_ifs
      · exact posts_nil
      · exact posts_nil
      · exact posts_inner _

theorem posts_runSyncTask (promoted : Bool) : m.Posts [] (m.runSyncTask promoted).1 := by
  rw [runSyncTask]
  split
  · exact ⟨rfl, rfl, rfl, rfl, (List.append_nil _).symm⟩
  · exact posts_nil

/-- A subscription posts the one task it asks for. -/
theorem posts_addSubscriber (hInitialized : m.initialized = true) (token : ATokenType)
    (subscriber : Option IAppStateSubscriber) :
    m.Posts (requested (.addSubscriber token subscriber)).toList (m.addSubscriber token subscriber) := by
  cases subscriber with
  | none =>
      rw [requested, Option.map_none, ite_self, addSubscriber]
      split_ifs <;> exact posts_nil
  | some subscriber =>
      rw [requested, addSubscriber]
      cases checkCallingToken token with
      | false => exact posts_nil
      | true => exact posts_post hInitialized _

/-- Apart from the immediate tasks the steps only post such tasks. -/
theorem posts_step {op : Op} (hOp : isRunTask op = false) (hInitialized : m.initialized = true) :
    m.Posts (requested op).toList (step m op).1 := by
  cases op with
  | addSubscriber token subscriber => exact posts_addSubscriber hInitialized token subscriber
  | removeSubscriber token subscriber => exact posts_removeSubscriber token subscriber
  | onRemoteSubscriberDied object =>
      cases object with
      | none => exact posts_nil
      | some object => exact ⟨rfl, rfl, rfl, rfl, (List.append_nil _).symm⟩
  | registerActiveApps token pid uid =>
      rw [step, requested, registerActiveApps]
      cases checkCallingToken token with
      | false => exact posts_nil
      | true => exact posts_post hInitialized _
  | deregisterActiveApps token pid uid =>
      rw [step, requested, deregisterActiveApps]
      cases checkCallingToken token with
      | false => exact posts_nil
      | true => exact posts_post hInitialized _
  | changeAppState pid uid state => exact posts_post hInitialized _
  | notifyMemoryLevel info => exact posts_post hInitialized _
  | reclaimSubscriberAll => exact posts_nil
  | reclaimSubscriberProc pid =>
      rw [step, reclaimSubscriberProc]
      cases m.appList[pid]? with
      | none => exact posts_nil
      | some app => exact ⟨rfl, rfl, rfl, rfl, (List.append_nil _).symm⟩
  | tellReclaim turn =>
      rw [step, tellReclaim]
      cases m.reclaims[turn]? with
      | none => exact posts_nil
      | some app => exact ⟨rfl, rfl, rfl, rfl, (List.append_nil _).symm⟩
  | runTask reading => cases hOp
  | runSyncTask promoted => exact posts_runSyncTask promoted

theorem wrote_not_mem_inner (call : InnerCall) (write : PurgeWrite) (done : Bool) :
    Output.wrote write done ∉ (m.inner call).2 := by
  simp [inner]

/-- Only the immediate tasks write. -/
theorem wrote_not_mem_step {op : Op} (hOp : isRunTask op = false) (write : PurgeWrite) (done : Bool) :
    Output.wrote write done ∉ (step m op).2 := by
  cases op with
  | removeSubscriber token subscriber =>
      rw [step, removeSubscriber.eq_def]
      split_ifs
      · exact List.not_mem_nil
      · exact List.not_mem_nil
      · cases subscriber with
        | none => exact List.not_mem_nil
        | some subscriber => exact wrote_not_mem_inner _ write done
  | reclaimSubscriberAll => simp [step, reclaimSubscriberAll]
  | tellReclaim turn =>
      rw [step, tellReclaim]
      cases m.reclaims[turn]? with
      | none => exact List.not_mem_nil
      | some app => simp [tellAll]
  | runTask reading => cases hOp
  | runSyncTask promoted =>
      rw [step, runSyncTask]
      split
      · exact wrote_not_mem_inner _ write done
      · exact List.not_mem_nil
  | _ => exact List.not_mem_nil

/-- The limits hold after a call on the subscribers. -/
theorem Bounded.inner (h : m.Bounded) (call : InnerCall) : (m.inner call).1.Bounded :=
  ⟨⟨(h.subscribers.step call).nodup, (h.subscribers.step call).atMost⟩, h.apps⟩

/-- The bounds are about the subscribers and the number of processes. -/
theorem Bounded.congr {m' : PurgeableMemManager} (h : m.Bounded)
    (hSubscribers : m'.appStateSubscribers = m.appStateSubscribers)
    (hApps : m'.appList.size ≤ purgeableAppstateMaxNum) : m'.Bounded := by
  refine ⟨⟨?_, ?_⟩, hApps⟩
  · rw [AppStateSubscribers.objects, PurgeableMemManager.subscribers, hSubscribers]
    exact h.subscribers.nodup
  · rw [PurgeableMemManager.subscribers, hSubscribers]
    exact h.subscribers.atMost

theorem contains_appList {pid : Int} {app : Int × Int} (h : m.appList[pid]? = some app) :
    m.appList.contains pid = true := by
  rw [ExtTreeMap.contains_iff_mem, ← ExtTreeMap.isSome_getElem?_iff_mem, h]
  rfl

/-- The limits hold after a task was performed. -/
theorem Bounded.perform (h : m.Bounded) (reading : TaskReading) (task : PurgeableTask) :
    (m.perform reading task).1.Bounded := by
  cases task with
  | addSubscriberInner subscriber => exact h.inner _
  | registerActiveAppsInner pid uid =>
      rw [PurgeableMemManager.perform, registerActiveAppsInner]
      split_ifs with hFull hKnown
      · exact h
      · exact h
      · refine h.congr rfl ?_
        dsimp only
        rw [ExtTreeMap.size_insert, if_neg (by simpa using hKnown)]
        omega
  | deregisterActiveAppsInner pid uid =>
      rw [PurgeableMemManager.perform, deregisterActiveAppsInner]
      cases m.appList[pid]? with
      | none => exact h
      | some app =>
          dsimp only
          split_ifs
          · exact h
          · exact h.congr rfl (Nat.le_trans ExtTreeMap.size_erase_le h.apps)
  | changeAppStateInner pid uid state =>
      rw [PurgeableMemManager.perform, changeAppStateInner]
      cases hApp : m.appList[pid]? with
      | none => exact h
      | some app =>
          dsimp only
          split_ifs
          · exact h
          · refine h.congr rfl ?_
            dsimp only
            rw [ExtTreeMap.size_insert, if_pos (contains_appList hApp)]
            exact h.apps
  | notifyMemoryLevelInner info =>
      obtain ⟨source, level⟩ := info
      cases source with
      | unknown => exact h
      | manualDump =>
          rw [PurgeableMemManager.perform, notifyMemoryLevelInner, triggerByManualDump]
          split_ifs
          · exact h.congr rfl h.apps
          · exact h
      | kswapd =>
          rw [PurgeableMemManager.perform, notifyMemoryLevelInner, runTriggerByPsi]
          dsimp only
          split
          · exact h.congr rfl h.apps
          · exact h.congr rfl h.apps
      | psiMemory =>
          rw [PurgeableMemManager.perform, notifyMemoryLevelInner, runTriggerByPsi]
          dsimp only
          split
          · exact h.congr rfl h.apps
          · exact h.congr rfl h.apps

/-- What the handler does with its turn. -/
theorem runTask_cases (m : PurgeableMemManager) (reading : TaskReading) :
    (∃ message, m.broadcast = some message ∧
        m.runTask reading = ({ m with broadcast := none }, m.tellAll message)) ∨
      (m.broadcast = none ∧ m.handler = [] ∧ m.runTask reading = (m, [])) ∨
      (m.broadcast = none ∧ ∃ task handler, m.handler = task :: handler ∧
        m.runTask reading = perform { m with handler } reading task) := by
  rw [runTask]
  split
  · rename_i message hBroadcast
    exact Or.inl ⟨message, hBroadcast, rfl⟩
  · rename_i hBroadcast
    split
    · rename_i hHandler
      exact Or.inr (Or.inl ⟨hBroadcast, hHandler, rfl⟩)
    · rename_i task handler hHandler
      exact Or.inr (Or.inr ⟨hBroadcast, task, handler, hHandler, rfl⟩)

theorem runTask_begin {task : PurgeableTask} {handler : List PurgeableTask} (hIdle : m.broadcast = none)
    (hHandler : m.handler = task :: handler) (reading : TaskReading) :
    m.runTask reading = perform { m with handler } reading task := by
  rcases runTask_cases m reading with ⟨message, hMessage, -⟩ | ⟨-, hNil, -⟩ | ⟨-, task', handler', hCons, hRun⟩
  · rw [hIdle] at hMessage
    cases hMessage
  · rw [hHandler] at hNil
    cases hNil
  · rw [hHandler] at hCons
    obtain ⟨rfl, rfl⟩ := List.cons.inj hCons
    exact hRun

theorem Bounded.runTask (h : m.Bounded) (reading : TaskReading) : (m.runTask reading).1.Bounded := by
  rcases runTask_cases m reading with ⟨message, -, hRun⟩ | ⟨-, -, hRun⟩ | ⟨-, task, handler, -, hRun⟩
  · rw [hRun]
    exact h.congr rfl h.apps
  · rw [hRun]
    exact h
  · have hRest : Bounded { m with handler } := h.congr rfl h.apps
    rw [hRun]
    exact hRest.perform reading task

theorem Bounded.post (h : m.Bounded) (task : PurgeableTask) : (m.post task).Bounded := by
  rw [PurgeableMemManager.post]
  split_ifs
  · exact h
  · exact h.congr rfl h.apps

/-- The limits hold after a step. -/
theorem Bounded.step (h : m.Bounded) (op : Op) : (step m op).1.Bounded := by
  cases op with
  | addSubscriber token subscriber =>
      rw [PurgeableMemManager.step, addSubscriber.eq_def]
      split_ifs
      · exact h
      · cases subscriber with
        | none => exact h
        | some subscriber => exact h.post _
  | removeSubscriber token subscriber =>
      rw [PurgeableMemManager.step, removeSubscriber.eq_def]
      split_ifs
      · exact h
      · exact h
      · cases subscriber with
        | none => exact h
        | some subscriber => exact h.inner _
  | onRemoteSubscriberDied object =>
      cases object with
      | none => exact h
      | some object => exact h.congr rfl h.apps
  | registerActiveApps token pid uid =>
      rw [PurgeableMemManager.step, registerActiveApps]
      split_ifs
      · exact h
      · exact h.post _
  | deregisterActiveApps token pid uid =>
      rw [PurgeableMemManager.step, deregisterActiveApps]
      split_ifs
      · exact h
      · exact h.post _
  | changeAppState pid uid state => exact h.post _
  | notifyMemoryLevel info => exact h.post _
  | reclaimSubscriberAll => exact h
  | reclaimSubscriberProc pid =>
      rw [PurgeableMemManager.step, reclaimSubscriberProc]
      cases m.appList[pid]? with
      | none => exact h
      | some app => exact h.congr rfl h.apps
  | tellReclaim turn =>
      rw [PurgeableMemManager.step, tellReclaim]
      cases m.reclaims[turn]? with
      | none => exact h
      | some app => exact h.congr rfl h.apps
  | runTask reading => exact h.runTask reading
  | runSyncTask promoted =>
      rw [PurgeableMemManager.step, PurgeableMemManager.runSyncTask]
      split
      · rename_i object syncTasks _ _
        have hRest : Bounded { m with syncTasks } := h.congr rfl h.apps
        exact hRest.inner _
      · exact h

theorem bounded_init : init.Bounded := ⟨⟨List.nodup_nil, Nat.zero_le _⟩, Nat.zero_le _⟩

/-- The limits hold in every run. -/
theorem bounded_run (ops : List Op) : (run ops).Bounded := by
  apply Transducer.state_invariant
  · exact bounded_init
  · exact fun m op h => h.step op

end PurgeableMemManager
end MemMgr
