import MemMgr.Library.Transducer
import Mathlib.Logic.Function.Basic

/-! How the service comes to hear of the rest of the system. Its observers are registered by the tasks
of one handler: some run as soon as those before them are done, others after a delay. What they watch
may not be there yet, may go away, and may come back. -/
namespace MemMgr

inductive EventObserver where
  | memoryPressure
  | kswapd
  | appState
  | extConn
  | account
  | commonEvent
  | bgTask
  deriving DecidableEq

inductive RegisterEvent where
  | regAllObs
  | regMemPressObs
  | regAppObs
  | regExtObs
  | regAccountObs
  | regCommonObs
  | regBgTaskObs

inductive RegisterTask where
  | registerEventObserver
  | register (observer : EventObserver)
  | init (observer : EventObserver)
  deriving DecidableEq

/-- What the platform answers while a task runs. -/
structure RegisterAnswers where
  makePointer : EventObserver → Bool
  makeAppMgrClient : Bool
  /-- How often the connection fails before it stands. -/
  connectAppMgrServiceFailures : Nat
  /-- Empty if there is no manager of applications, so that nothing is registered with it. -/
  registerApplicationStateObserver : Option Int32
  registerObserver : Int32
  subscribeOsAccount : Int32
  subscribeCommonEvent : Bool
  subscribeBackgroundTask : Int32

structure SystemAbilityIds where
  abilityMgrServiceId : Int32
  appMgrServiceId : Int32
  backgroundTaskManagerServiceId : Int32
  subsysAccountSysAbilityIdBegin : Int32
  commonEventServiceId : Int32
  commonEventServiceAbilityId : Int32

structure MemMgrEventCenter where
  /-- The pointers that are not null. -/
  observer : EventObserver → Bool
  regAccountObsRetry : Nat
  regAppStatusObsRetry : Nat
  /-- The immediate tasks, the next one first. -/
  handler : List RegisterTask
  /-- The tasks that wait for their time. -/
  delayed : List RegisterTask

namespace MemMgrEventCenter

/-- What is called outside, with what came of it. -/
inductive Output where
  | init (observer : EventObserver)
  /-- The manager of applications is looked for, and asked if it is there. Empty if it is not. -/
  | registerApplicationStateObserver (ret : Option Int32)
  | registerObserver (ret : Int32)
  | subscribeOsAccount (errCode : Int32)
  | subscribeCommonEvent (subscribed : Bool)
  | subscribeBackgroundTask (ret : Int32)
  | postTask (task : RegisterTask) (delay : Nat)
  | resetReclaimPriorityManager
  | nullPointer
  deriving DecidableEq

def accountMaxRetryTimes : Nat := 10

def accountRetryDelay : Nat := 3000

def extconnRetryTime : Nat := 1000

def pressureInitDelay : Nat := 10000

def errOk : Int32 := 0

variable (answers : RegisterAnswers) (center : MemMgrEventCenter)

def makePointer (observer : EventObserver) : MemMgrEventCenter :=
  { center with observer := Function.update center.observer observer (answers.makePointer observer) }

def postImmediateTask (task : RegisterTask) : MemMgrEventCenter :=
  { center with handler := center.handler ++ [task] }

def postTask (task : RegisterTask) (delay : Nat) : MemMgrEventCenter × List Output :=
  ({ center with delayed := center.delayed ++ [task] }, [.postTask task delay])

/-- An observer of the kernel is set up some time after it is made. -/
def registerPressureObserver (observer : EventObserver) : MemMgrEventCenter × List Output :=
  let center := center.makePointer answers observer
  if !center.observer observer then (center, []) else center.postTask (.init observer) pressureInitDelay

def registerMemoryPressureObserver : MemMgrEventCenter × List Output :=
  center.registerPressureObserver answers .memoryPressure

def registerKswapdObserver : MemMgrEventCenter × List Output :=
  center.registerPressureObserver answers .kswapd

/-- Whether there is a manager of applications or not, the attempt is logged and not made again. -/
def registerAppStateObserver : MemMgrEventCenter × List Output :=
  if !answers.makeAppMgrClient then (center, [])
  else
    let center := center.makePointer answers .appState
    ({ center with
        regAppStatusObsRetry := center.regAppStatusObsRetry + answers.connectAppMgrServiceFailures },
      [.registerApplicationStateObserver answers.registerApplicationStateObserver])

/-- Without a pointer it is tried again as well. -/
def registerExtConnObserver : MemMgrEventCenter × List Output :=
  let center := center.makePointer answers .extConn
  if center.observer .extConn then
    if answers.registerObserver = errOk then (center, [.registerObserver answers.registerObserver])
    else
      let (center, posted) := center.postTask (.register .extConn) extconnRetryTime
      (center, .registerObserver answers.registerObserver :: posted)
  else center.postTask (.register .extConn) extconnRetryTime

/-- Without a pointer it is not tried again. -/
def registerAccountObserver : MemMgrEventCenter × List Output :=
  let center := { center with regAccountObsRetry := center.regAccountObsRetry + 1 }
  let center := center.makePointer answers .account
  if !center.observer .account then (center, [])
  else if answers.subscribeOsAccount = errOk then
    (center, [.subscribeOsAccount answers.subscribeOsAccount])
  else if center.regAccountObsRetry < accountMaxRetryTimes then
    let (center, posted) := center.postTask (.register .account) accountRetryDelay
    (center, .subscribeOsAccount answers.subscribeOsAccount :: posted)
  else (center, [.subscribeOsAccount answers.subscribeOsAccount])

def registerCommonEventObserver : MemMgrEventCenter × List Output :=
  let center := center.makePointer answers .commonEvent
  if !center.observer .commonEvent then (center, [])
  else (center, [.subscribeCommonEvent answers.subscribeCommonEvent])

def registerBgTaskObserver : MemMgrEventCenter × List Output :=
  let center := if !center.observer .bgTask then center.makePointer answers .bgTask else center
  if !center.observer .bgTask then (center, [])
  else (center, [.subscribeBackgroundTask answers.subscribeBackgroundTask])

def register : EventObserver → MemMgrEventCenter × List Output
  | .memoryPressure => center.registerMemoryPressureObserver answers
  | .kswapd => center.registerKswapdObserver answers
  | .appState => center.registerAppStateObserver answers
  | .extConn => center.registerExtConnObserver answers
  | .account => center.registerAccountObserver answers
  | .commonEvent => center.registerCommonEventObserver answers
  | .bgTask => center.registerBgTaskObserver answers

def registerMissing (observer : EventObserver) : MemMgrEventCenter × List Output :=
  if !center.observer observer then center.register answers observer else (center, [])

/-- The observers in the order in which the source registers them. -/
def allObservers : List EventObserver :=
  [.memoryPressure, .kswapd, .appState, .extConn, .account, .commonEvent, .bgTask]

def registerEventObserver : MemMgrEventCenter × List Output :=
  (Transducer.finalState (registerMissing answers) center allObservers,
    Transducer.outputs (registerMissing answers) center allObservers)

def handlerRegisterEvent : RegisterEvent → MemMgrEventCenter
  | .regAllObs => center.postImmediateTask .registerEventObserver
  | .regMemPressObs => center.postImmediateTask (.register .memoryPressure)
  | .regAppObs => center.postImmediateTask (.register .appState)
  | .regExtObs => center.postImmediateTask (.register .extConn)
  | .regAccountObs => center.postImmediateTask (.register .account)
  | .regCommonObs => center.postImmediateTask (.register .commonEvent)
  | .regBgTaskObs => center.postImmediateTask (.register .bgTask)

/-- The center with a handler and nothing registered. -/
def created : MemMgrEventCenter := ⟨fun _ => false, 0, 0, [], []⟩

/-- With whether the handler can be made. -/
def init (createRegisterHandler : Bool) : Option MemMgrEventCenter :=
  if createRegisterHandler then some (created.handlerRegisterEvent .regAllObs) else none

variable (ids : SystemAbilityIds)

def isBgTaskService (systemAbilityId : Int32) : Bool :=
  systemAbilityId = ids.backgroundTaskManagerServiceId

def isAppService (systemAbilityId : Int32) : Bool :=
  systemAbilityId = ids.abilityMgrServiceId ∨ systemAbilityId = ids.appMgrServiceId

def isAccountService (systemAbilityId : Int32) : Bool :=
  systemAbilityId = ids.subsysAccountSysAbilityIdBegin

def isCommonEventService (systemAbilityId : Int32) : Bool :=
  systemAbilityId = ids.commonEventServiceId ∨ systemAbilityId = ids.commonEventServiceAbilityId

def retryRegisterEventObserver (systemAbilityId : Int32) : MemMgrEventCenter :=
  let center :=
    if isBgTaskService ids systemAbilityId then center.handlerRegisterEvent .regBgTaskObs else center
  let center :=
    if isAppService ids systemAbilityId then center.handlerRegisterEvent .regAppObs else center
  let center :=
    if isAccountService ids systemAbilityId then center.handlerRegisterEvent .regAccountObs else center
  let center :=
    if isCommonEventService ids systemAbilityId then center.handlerRegisterEvent .regCommonObs else center
  center.handlerRegisterEvent .regAllObs

def removeEventObserver (systemAbilityId : Int32) : List Output :=
  if isAppService ids systemAbilityId then [.resetReclaimPriorityManager] else []

def onExtensionServiceDied : MemMgrEventCenter :=
  { center with observer := Function.update center.observer .extConn false }

/-- An observer is set up through its pointer. -/
def perform : RegisterTask → MemMgrEventCenter × List Output
  | .registerEventObserver => center.registerEventObserver answers
  | .register observer => center.register answers observer
  | .init observer => (center, if center.observer observer then [.init observer] else [.nullPointer])

inductive Op where
  | onAddSystemAbility (systemAbilityId : Int32)
  | onRemoveSystemAbility (systemAbilityId : Int32)
  | onExtensionServiceDied
  | runTask (answers : RegisterAnswers)
  /-- A task whose time has come, whichever it is. -/
  | runDelayed (turn : Nat) (answers : RegisterAnswers)

def step : Op → MemMgrEventCenter × List Output
  | .onAddSystemAbility systemAbilityId => (center.retryRegisterEventObserver ids systemAbilityId, [])
  | .onRemoveSystemAbility systemAbilityId => (center, removeEventObserver ids systemAbilityId)
  | .onExtensionServiceDied => (center.onExtensionServiceDied, [])
  | .runTask answers =>
      match center.handler with
      | [] => (center, [])
      | task :: handler => { center with handler }.perform answers task
  | .runDelayed turn answers =>
      match center.delayed[turn]? with
      | none => (center, [])
      | some task => { center with delayed := center.delayed.eraseIdx turn }.perform answers task

/-- The center that comes out of `init`. -/
def started : MemMgrEventCenter := created.handlerRegisterEvent .regAllObs

example : init true = some started := rfl

abbrev run (ops : List Op) : MemMgrEventCenter :=
  Transducer.finalState (fun center op => step center ids op) started ops

abbrev called (ops : List Op) : List Output :=
  Transducer.outputs (fun center op => step center ids op) started ops

end MemMgrEventCenter
end MemMgr
