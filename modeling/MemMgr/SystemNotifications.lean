import MemMgr.Service
import MemMgr.WindowVisibilityObserver

/-! What the observers make of the notifications of the system, and the handler that their requests
wait at. The manager is behind it, and whoever takes its lock goes past it. -/
namespace MemMgr

/-- `CallerRequest`. -/
def callerRequest (caller target : ReqProc) (reason : AppStateUpdateReason) : UpdateRequest :=
  ⟨caller, target, reason⟩

/-- `renderUid` is -1 where the process renders for no other. -/
structure ProcessData where
  pid : Int
  uid : Int
  renderUid : Int
  processName : String
  bundleName : String

structure AbilityStateData where
  pid : Int
  uid : Int
  abilityState : Int
  bundleName : String

/-- The three states of `stateReasonMap_`, by their numbers. -/
structure AbilityState where
  ready : Int
  foreground : Int
  background : Int

structure TransientTaskAppInfo where
  packageName : String
  uid : Int
  pid : Int

structure ContinuousTaskCallbackInfo where
  creatorUid : Int
  creatorPid : Int
  abilityName : String

structure ConnectionData where
  callerPid : Int
  callerUid : Int
  callerName : String
  extensionPid : Int
  extensionUid : Int
  extensionBundleName : String

structure DlpStateData where
  callerPid : Int
  callerUid : Int
  callerName : String
  targetPid : Int
  targetUid : Int
  targetBundleName : String

namespace AppStateObserver

def stateReason (states : AbilityState) (abilityState : Int) : Option AppStateUpdateReason :=
  if abilityState = states.ready then some .processReady
  else if abilityState = states.foreground then some .foreground
  else if abilityState = states.background then some .background
  else none

def onAbilityStateChanged (states : AbilityState) (data : AbilityStateData) : Option UpdateRequest :=
  (stateReason states data.abilityState).map fun reason =>
    singleRequest ⟨data.pid, data.uid, "", data.bundleName⟩ reason

def onProcessCreated (data : ProcessData) : UpdateRequest :=
  if data.renderUid ≠ -1 then
    singleRequest ⟨data.pid, data.renderUid, data.processName, data.bundleName⟩ .renderCreateProcess
  else singleRequest ⟨data.pid, data.uid, data.processName, data.bundleName⟩ .createProcess

/-- The uid under which the end of a process is reported. -/
def diedUid (data : ProcessData) : Int := if data.renderUid ≠ -1 then data.renderUid else data.uid

def onProcessDied (data : ProcessData) : UpdateRequest :=
  singleRequest ⟨data.pid, diedUid data, data.processName, data.bundleName⟩ .processTerminated

end AppStateObserver

namespace BgTaskObserver

/-- The package name is taken for the name of the process. A null pointer is skipped. -/
def onTransientTask (info : Option TransientTaskAppInfo) (reason : AppStateUpdateReason) :
    Option UpdateRequest :=
  info.map fun info => singleRequest ⟨info.pid, info.uid, info.packageName, ""⟩ reason

def onTransientTaskStart (ttInfo : Option TransientTaskAppInfo) : Option UpdateRequest :=
  onTransientTask ttInfo .suspendDelayStart

def onTransientTaskEnd (ttInfo : Option TransientTaskAppInfo) : Option UpdateRequest :=
  onTransientTask ttInfo .suspendDelayEnd

/-- The name of the ability is taken for the name of the process. A null pointer is skipped. -/
def onContinuousTask (info : Option ContinuousTaskCallbackInfo) (reason : AppStateUpdateReason) :
    Option UpdateRequest :=
  info.map fun info => singleRequest ⟨info.creatorPid, info.creatorUid, info.abilityName, ""⟩ reason

def onContinuousTaskStart (ctInfo : Option ContinuousTaskCallbackInfo) : Option UpdateRequest :=
  onContinuousTask ctInfo .backgroundRunningStart

def onContinuousTaskStop (ctInfo : Option ContinuousTaskCallbackInfo) : Option UpdateRequest :=
  onContinuousTask ctInfo .backgroundRunningEnd

end BgTaskObserver

namespace ExtensionConnectionObserver

def onExtension (data : ConnectionData) (reason : AppStateUpdateReason) : UpdateRequest :=
  callerRequest ⟨data.callerPid, data.callerUid, data.callerName, ""⟩
    ⟨data.extensionPid, data.extensionUid, data.extensionBundleName, ""⟩ reason

def onExtensionConnected (data : ConnectionData) : UpdateRequest := onExtension data .bindExtension

def onExtensionDisconnected (data : ConnectionData) : UpdateRequest := onExtension data .unbindExtension

def onDlpAbility (data : DlpStateData) (reason : AppStateUpdateReason) : UpdateRequest :=
  callerRequest ⟨data.callerPid, data.callerUid, data.callerName, ""⟩
    ⟨data.targetPid, data.targetUid, data.targetBundleName, ""⟩ reason

def onDlpAbilityOpened (data : DlpStateData) : UpdateRequest := onDlpAbility data .bindExtension

def onDlpAbilityClosed (data : DlpStateData) : UpdateRequest := onDlpAbility data .unbindExtension

end ExtensionConnectionObserver

namespace MemMgrService

def notifyDistDevStatus (pid uid : Int) (name : String) (connected : Bool) : UpdateRequest :=
  singleRequest ⟨pid, uid, "", name⟩ (if connected then .distDeviceConnected else .distDeviceDisconnected)

def notifyProcessStateChangedAsync (callerPid callerUid pid uid : Int) : UpdateRequest :=
  callerRequest ⟨callerPid, callerUid, "", ""⟩ ⟨pid, uid, "", ""⟩ .abilityStart

end MemMgrService

/-- What the system tells the observers and the service, but for the windows. -/
inductive SystemNotification where
  | processCreated (data : ProcessData)
  | processDied (data : ProcessData)
  | abilityStateChanged (data : AbilityStateData)
  | transientTaskStart (ttInfo : Option TransientTaskAppInfo)
  | transientTaskEnd (ttInfo : Option TransientTaskAppInfo)
  | continuousTaskStart (ctInfo : Option ContinuousTaskCallbackInfo)
  | continuousTaskStop (ctInfo : Option ContinuousTaskCallbackInfo)
  | extensionConnected (data : ConnectionData)
  | extensionDisconnected (data : ConnectionData)
  | dlpAbilityOpened (data : DlpStateData)
  | dlpAbilityClosed (data : DlpStateData)
  | distDevStatus (pid uid : Int) (name : String) (connected : Bool)
  | processStateChangedAsync (callerPid callerUid pid uid : Int)

/-- The request that a notification leads to. -/
def SystemNotification.request (states : AbilityState) : SystemNotification → Option UpdateRequest
  | .processCreated data => some (AppStateObserver.onProcessCreated data)
  | .processDied data => some (AppStateObserver.onProcessDied data)
  | .abilityStateChanged data => AppStateObserver.onAbilityStateChanged states data
  | .transientTaskStart ttInfo => BgTaskObserver.onTransientTaskStart ttInfo
  | .transientTaskEnd ttInfo => BgTaskObserver.onTransientTaskEnd ttInfo
  | .continuousTaskStart ctInfo => BgTaskObserver.onContinuousTaskStart ctInfo
  | .continuousTaskStop ctInfo => BgTaskObserver.onContinuousTaskStop ctInfo
  | .extensionConnected data => some (ExtensionConnectionObserver.onExtensionConnected data)
  | .extensionDisconnected data => some (ExtensionConnectionObserver.onExtensionDisconnected data)
  | .dlpAbilityOpened data => some (ExtensionConnectionObserver.onDlpAbilityOpened data)
  | .dlpAbilityClosed data => some (ExtensionConnectionObserver.onDlpAbilityClosed data)
  | .distDevStatus pid uid name connected =>
      some (MemMgrService.notifyDistDevStatus pid uid name connected)
  | .processStateChangedAsync callerPid callerUid pid uid =>
      some (MemMgrService.notifyProcessStateChangedAsync callerPid callerUid pid uid)

/-- A request on its way, with the time at which it was made. -/
structure PostedRequest where
  request : UpdateRequest
  eventTime : Int

/-- The service behind its observers. Starts of abilities have a higher priority than the other
requests at the handler, and may overtake them. -/
structure NotifiedService where
  windowVisibleMap : WindowVisibleMap
  handler : List PostedRequest
  immediate : List PostedRequest
  service : Service

namespace NotifiedService

open WindowVisibilityObserver (Output CheckTrigger)

def init (platform : Platform) : NotifiedService := ⟨∅, [], [], .init platform⟩

/-- `UpdateReclaimPriority`, from where a request waits for its turn. -/
def updateReclaimPriority (eventTime : Int) (s : NotifiedService) (request : UpdateRequest) :
    NotifiedService :=
  if request.reason = .abilityStart then
    { s with immediate := s.immediate ++ [⟨request, eventTime⟩] }
  else { s with handler := s.handler ++ [⟨request, eventTime⟩] }

/-- A notification. The end of a process goes to the windows as well. -/
def notify (states : AbilityState) (notification : SystemNotification) (eventTime : Int) (s : NotifiedService) :
    NotifiedService :=
  let s := ((notification.request states).toList).foldl (updateReclaimPriority eventTime) s
  match notification with
  | .processDied data =>
      { s with windowVisibleMap := WindowVisibilityObserver.onProcessDied data.pid s.windowVisibleMap }
  | _ => s

/-- What the observer of the windows sends. -/
def requests (outputs : List Output) : List UpdateRequest :=
  outputs.filterMap fun
    | .updateReclaimPriority request => some request
    | .postCheckMapSize _ _ => none

/-- A task of the observer of the windows. -/
def observe (op : WindowVisibilityObserver.Op) (eventTime : Int) (s : NotifiedService) : NotifiedService :=
  let (windowVisibleMap, outputs) := WindowVisibilityObserver.step s.windowVisibleMap op
  (requests outputs).foldl (updateReclaimPriority eventTime) { s with windowVisibleMap }

/-- What happens to the service and its observers. -/
inductive Event where
  | notify (notification : SystemNotification) (eventTime : Int)
  | windows (memMgrWindowInfo : List (Option MemMgrWindowInfo)) (eventTime : Int)
  | checkMapSize (trigger : CheckTrigger) (alivePids : Option (List Nat))
  | perform (services : Services)
  | performImmediate (services : Services)
  | other (op : Op)

/-- The operation is one that does not come from the handler of the requests. -/
def IsOther : Op → Prop
  | .updateReclaimPriorityInner _ _ _ => False
  | _ => True

inductive Step (platform : Platform) (states : AbilityState) :
    NotifiedService → Event → NotifiedService → Prop where
  | notify {s} (notification : SystemNotification) (eventTime : Int) :
      Step platform states s (.notify notification eventTime) (s.notify states notification eventTime)
  | windows {s} (infos : List (Option MemMgrWindowInfo)) (eventTime : Int) :
      Step platform states s (.windows infos eventTime)
        (s.observe (.updateWindowVisibilityPriorityInner infos) eventTime)
  | checkMapSize {s} (trigger : CheckTrigger) (alivePids : Option (List Nat)) :
      Step platform states s (.checkMapSize trigger alivePids) (s.observe (.checkMapSize trigger alivePids) 0)
  | perform {s : NotifiedService} {task handler services service}
      (hHandler : s.handler = task :: handler)
      (hStep : Service.Step platform s.service
        (.updateReclaimPriorityInner task.request task.eventTime services) service) :
      Step platform states s (.perform services) { s with handler, service }
  | performImmediate {s : NotifiedService} {task immediate services service}
      (hHandler : s.immediate = task :: immediate)
      (hStep : Service.Step platform s.service
        (.updateReclaimPriorityInner task.request task.eventTime services) service) :
      Step platform states s (.performImmediate services) { s with immediate, service }
  | other {s : NotifiedService} {op service} (hOther : IsOther op)
      (hStep : Service.Step platform s.service op service) :
      Step platform states s (.other op) { s with service }

end NotifiedService
end MemMgr
