import MemMgr.Propagation

/-! The requests the manager processes, one function for each of its handlers.
All of them run under the lock of the ordered set. -/
namespace MemMgr

structure ReqProc where
  pid : Int
  uid : Int
  processName : String
  bundleName : String
  deriving DecidableEq

structure UpdateRequest where
  caller : ReqProc
  target : ReqProc
  reason : AppStateUpdateReason
  deriving DecidableEq

namespace ProcessPriorityInfo

variable (proc : ProcessPriorityInfo)

/-- An event without a time stamp is never older than the start of an ability. -/
def checkCurrentEventHappenedBeforeAbilityStart (eventTime : Int) : Bool :=
  if eventTime = invalidTime then false else eventTime < proc.startingAbilityTime

def checkAbilityStartNeedFinishInAdvance (eventTime : Int) : Bool :=
  proc.isAbilityStarting && !proc.checkCurrentEventHappenedBeforeAbilityStart eventTime

def needSkipEventBeforeAbilityStart (eventTime : Int) : Bool :=
  proc.isAbilityStarting && proc.checkCurrentEventHappenedBeforeAbilityStart eventTime

/-- A process at the foreground may only renew a start; one above it may not start. -/
def checkSatifyAbilityStartCondition : Bool :=
  if proc.priority > reclaimPriorityForeground then true
  else if proc.priority < reclaimPriorityForeground then false
  else proc.isAbilityStarting

end ProcessPriorityInfo

open ProcessPriorityInfo

/-- The name the ability start check of a process is posted under. -/
def abilityStartTaskName (pid : Int) : String := toString pid ++ "ABILITY_START"

def removeTimerForAbilityStartCompletedCheck (pid : Int) (handler : List DelayedTask) :
    List DelayedTask :=
  handler.filter fun task => task.taskName ≠ abilityStartTaskName pid

/-- What a handler reads and writes: the record of the target and the pending tasks. -/
abbrev ChangeProcFunc :=
  Int → ProcessPriorityInfo × List DelayedTask → ProcessPriorityInfo × List DelayedTask

/-- `FinishAbilityStartIfNeed`, with `AbilityStartingEnd` called without a bundle. -/
def finishAbilityStartIfNeed : ChangeProcFunc := fun eventTime (proc, handler) =>
  if proc.checkAbilityStartNeedFinishInAdvance eventTime then
    ({ proc with isAbilityStarting := false },
      removeTimerForAbilityStartCompletedCheck proc.pid handler)
  else (proc, handler)

def handleForeground : ChangeProcFunc := fun eventTime (proc, handler) =>
  finishAbilityStartIfNeed eventTime ({ proc with isFreground := true, hasUI := true }, handler)

def handleBackground : ChangeProcFunc := fun eventTime (proc, handler) =>
  finishAbilityStartIfNeed eventTime ({ proc with isFreground := false, hasUI := true }, handler)

/-- Most handlers only set or clear one flag. -/
def changeFlag (change : ProcessPriorityInfo → ProcessPriorityInfo) : ChangeProcFunc :=
  fun _ (proc, handler) => (change proc, handler)

def handleSuspendDelayStart : ChangeProcFunc := changeFlag ({ · with isSuspendDelay := true })
def handleSuspendDelayEnd : ChangeProcFunc := changeFlag ({ · with isSuspendDelay := false })
def handleBackgroundRunningStart : ChangeProcFunc :=
  changeFlag ({ · with isBackgroundRunning := true })
def handleBackgroundRunningEnd : ChangeProcFunc :=
  changeFlag ({ · with isBackgroundRunning := false })
def handleEventStart : ChangeProcFunc := changeFlag ({ · with isEventStart := true })
def handleEventEnd : ChangeProcFunc := changeFlag ({ · with isEventStart := false })
def handleDistDeviceConnected : ChangeProcFunc := changeFlag ({ · with isDistDeviceConnected := true })
def handleDistDeviceDisconnected : ChangeProcFunc :=
  changeFlag ({ · with isDistDeviceConnected := false })
def handleVisible : ChangeProcFunc := changeFlag ({ · with isVisible := true })
def handleUnvisible : ChangeProcFunc := changeFlag ({ · with isVisible := false })

def handleBindExtension : ChangeProcFunc := changeFlag fun proc =>
  if proc.extensionConnectorsCount > 0 then
    { proc with extensionBindStatus := extensionStatusFgBind }
  else proc

def handleUnbindExtension : ChangeProcFunc := changeFlag fun proc =>
  if proc.extensionConnectorsCount = 0 then
    { proc with extensionBindStatus := extensionStatusNoBind }
  else proc

/-- `changeProcMapping_`. -/
def changeProcMapping : AppStateUpdateReason → Option ChangeProcFunc
  | .foreground => some handleForeground
  | .background => some handleBackground
  | .suspendDelayStart => some handleSuspendDelayStart
  | .suspendDelayEnd => some handleSuspendDelayEnd
  | .backgroundRunningStart => some handleBackgroundRunningStart
  | .backgroundRunningEnd => some handleBackgroundRunningEnd
  | .eventStart => some handleEventStart
  | .eventEnd => some handleEventEnd
  | .distDeviceConnected => some handleDistDeviceConnected
  | .distDeviceDisconnected => some handleDistDeviceDisconnected
  | .bindExtension => some handleBindExtension
  | .unbindExtension => some handleUnbindExtension
  | .visible => some handleVisible
  | .unVisible => some handleUnvisible
  | _ => none

/-- The record and the pending tasks after the handler of a reason, if it has one. -/
def changeProc (reason : AppStateUpdateReason) : ChangeProcFunc := fun eventTime state =>
  match changeProcMapping reason with
  | some changeProcPtr => changeProcPtr eventTime state
  | none => state

namespace ReclaimPriorityManager

variable (platform : Platform) (services : Services) (fuel : Nat) (s : ReclaimPriorityManager)

def handleUpdateProcess (reason : AppStateUpdateReason) (bundle : BundleRef)
    (proc : ProcessPriorityInfo) (eventTime : Int) : Except Fault ReclaimPriorityManager :=
  let changed := changeProc reason eventTime (proc, s.handler)
  let s := { s.setProc bundle changed.1 with handler := changed.2 }
  if changed.1.needSkipEventBeforeAbilityStart eventTime then .ok s
  else s.updatePriorityByProcStatus platform fuel bundle changed.1

/-- The importance of a process and the priority it starts with. -/
def isImportantProc (procName : String) : Bool × Int :=
  match platform.config.importantBgApps[procName]? with
  | some dstPriority => (true, dstPriority)
  | none => (false, reclaimPriorityForeground)

/-- The fresh record of a process, which an important process name and a killable
system app move away from the foreground. -/
def createdProc (target : ReqProc) (killable : Bool) : ProcessPriorityInfo :=
  let (isImportant, priority) := isImportantProc platform target.processName
  let proc := { ProcessPriorityInfo.create target.pid target.uid priority isImportant with
    isFreground := false }
  if killable && proc.priority > reclaimPriorityKillableSystem then
    { proc with priority := reclaimPriorityKillableSystem }
  else proc

def handleCreateProcess (target : ReqProc) (accountId : Int) (isRender : Bool) :
    ReclaimPriorityManager × Bool :=
  if isRender then (s.writeOomScoreAdj target.pid reclaimPriorityForeground, true)
  else if s.findOsAccountById accountId = none ∧ !services.makeAccount then (s, false)
  else
    let s :=
      match s.findOsAccountById accountId with
      | some _ => s
      | none => s.addOsAccountInfo (.create accountId)
    match s.findBundle target.uid accountId with
    | some bundle => finish s bundle
    | none =>
        -- The new object is in the set before the account knows it.
        if !services.makeBundle then (s, false)
        else
          let bundle := s.nextRef
          let info := BundlePriorityInfo.create target.bundleName target.uid
            reclaimPriorityBackground services.systemCurTime
          let s := { s.modifyBundle bundle (fun _ => info) with nextRef := bundle + 1 }
          finish (s.addBundleInfoToSet platform bundle) bundle
where
  finish (s : ReclaimPriorityManager) (bundle : BundleRef) : ReclaimPriorityManager × Bool :=
    let (s, killable) := s.isKillableSystemApp services bundle
    let proc := createdProc platform target killable
    let s := (s.modifyBundle bundle fun info => info.addProc proc).updateBundlePriority platform bundle
    let s := s.modifyAccount accountId fun account =>
      account.addBundleToOsAccount (s.bundles bundle).uid bundle
    let s := { s with
      handler := s.handler ++ [DelayedTask.checkCreateProcPriorityDelay target.pid target.uid] }
    s.applyReclaimPriority bundle

def handleTerminateProcess (proc : ProcessPriorityInfo) (bundle : BundleRef) (accountId : Int) :
    ReclaimPriorityManager × Bool :=
  let removedProcessPrio := proc.priority
  let s := s.modifyBundle bundle fun info => info.removeProcByPid proc.pid
  let (s, ret) :=
    if (s.bundles bundle).getProcsCount = 0 then
      let (s, ret) := s.applyReclaimPriority bundle
      let s := s.modifyAccount accountId fun account =>
        account.removeBundleById (s.bundles bundle).uid
      (s.deleteBundleInfoFromSet platform bundle, ret)
    else if removedProcessPrio ≤ (s.bundles bundle).priority then
      (s.updateBundlePriority platform bundle, true)
    else (s, true)
  match s.findOsAccountById accountId with
  | some account =>
      (if account.getBundlesCount = 0 then s.removeOsAccountById account.id else s, ret)
  | none => (s, ret)

def handleApplicationSuspend (bundle : BundleRef) : ReclaimPriorityManager × Bool :=
  let s := s.modifyBundle bundle fun info =>
    { info with procs := info.procs.map fun _ proc => { proc with priority := reclaimPrioritySuspend } }
  (s.updateBundlePriority platform bundle).applyReclaimPriority bundle

def updateExtensionStatusForCaller (request : UpdateRequest) :
    Except Fault (ReclaimPriorityManager × Bool) := do
  let caller := request.caller
  let target := request.target
  match ← s.lookupProc caller.pid caller.uid (getOsAccountIdByUid caller.uid) with
  | none => return (s, false)
  | some (callerBundle, callerProc) =>
      match request.reason with
      | .bindExtension => return (s.setProc callerBundle (callerProc.procBindFromMe target.pid target.uid), true)
      | .unbindExtension => return (s.setProc callerBundle (callerProc.procUnBindFromMe target.pid), true)
      | _ => return (s, true)

/-- The target of a binding becomes an extension, which is never in the foreground. -/
def bindTarget (request : UpdateRequest) (proc : ProcessPriorityInfo) : ProcessPriorityInfo :=
  match request.reason with
  | .bindExtension =>
      { proc with isFreground := false, isExtension := true }.procBindToMe request.caller.pid
        request.caller.uid
  | .unbindExtension =>
      { proc with isFreground := false, isExtension := true }.procUnBindToMe request.caller.pid
  | _ => proc

def updateExtensionStatusForTarget (request : UpdateRequest) (eventTime : Int) :
    Except Fault (ReclaimPriorityManager × Bool) := do
  let target := request.target
  match ← s.lookupProc target.pid target.uid (getOsAccountIdByUid target.uid) with
  | none => return (s, false)
  | some (bundle, proc) =>
      if proc.priority ≤ reclaimPriorityKillableSystem ∨
          (s.bundles bundle).priority ≤ reclaimPriorityKillableSystem then return (s, true)
      else
        let (s, killable) := s.isKillableSystemApp services bundle
        if killable then return (s, true)
        else
          let proc := bindTarget request proc
          let s ← (s.setProc bundle proc).handleUpdateProcess platform fuel request.reason bundle
            proc eventTime
          return s.applyReclaimPriority bundle

def handleExtensionProcess (request : UpdateRequest) (eventTime : Int) :
    Except Fault (ReclaimPriorityManager × Bool) := do
  let (s, _) ← s.updateExtensionStatusForCaller request
  s.updateExtensionStatusForTarget platform services fuel request eventTime

def setTimerForAbilityStartCompletedCheck (pid bundleUid accountId : Int)
    (handler : List DelayedTask) : List DelayedTask :=
  handler ++ [DelayedTask.checkAbilityStartCompleted (abilityStartTaskName pid) pid bundleUid accountId]

/-- The process is raised to the foreground while it starts an ability. -/
def abilityStartingBegin (bundle : BundleRef) (proc : ProcessPriorityInfo) (eventTime : Int) :
    ReclaimPriorityManager :=
  let proc := { proc.setPriority reclaimPriorityForeground with
    startingAbilityTime := eventTime, isAbilityStarting := true }
  (((s.setProc bundle proc).updateBundlePriority platform bundle).applyReclaimPriority bundle).1

def handleAbilityStart (request : UpdateRequest) (eventTime : Int) :
    Except Fault (ReclaimPriorityManager × Bool) := do
  let target := request.target
  let accountId := getOsAccountIdByUid target.uid
  match ← s.lookupProc target.pid target.uid accountId with
  | none => return (s, false)
  | some (bundle, proc) =>
      if proc.checkSatifyAbilityStartCondition then
        let s := s.abilityStartingBegin platform bundle proc eventTime
        return ({ s with
          handler := setTimerForAbilityStartCompletedCheck proc.pid proc.uid accountId
            (removeTimerForAbilityStartCompletedCheck proc.pid s.handler) }, true)
      else return (s, true)

/-- `UpdateReclaimPriorityInner`, which processes one request. -/
def updateReclaimPriorityInner (request : UpdateRequest) (eventTime : Int) :
    Except Fault (ReclaimPriorityManager × Bool) :=
  let target := request.target
  let accountId := getOsAccountIdByUid target.uid
  match request.reason with
  | .bindExtension => s.handleExtensionProcess platform services fuel request eventTime
  | .unbindExtension => s.handleExtensionProcess platform services fuel request eventTime
  | .createProcess => .ok (s.handleCreateProcess platform services target accountId false)
  | .renderCreateProcess => .ok (s.handleCreateProcess platform services target accountId true)
  | .abilityStart => s.handleAbilityStart platform request eventTime
  | reason =>
      if s.isProcExist target.pid target.uid accountId then
        match s.findBundle target.uid accountId with
        | none => .ok (s, false)
        | some bundle =>
            if (s.bundles bundle).priority ≤ reclaimPriorityKillableSystem then .ok (s, true)
            else if reason = .applicationSuspend then .ok (s.handleApplicationSuspend platform bundle)
            else do
              let proc ← (s.bundles bundle).findProcByPid target.pid
              if reason = .processTerminated then
                return s.handleTerminateProcess platform proc bundle accountId
              else
                let s ← s.handleUpdateProcess platform fuel reason bundle proc eventTime
                return s.applyReclaimPriority bundle
      else .ok (s, false)

/-- The request path of IPC threads, which only starts abilities. -/
def updateRecalimPrioritySyncWithLock (request : UpdateRequest) (systemTimeMs : Int) :
    Except Fault (ReclaimPriorityManager × Bool) :=
  if !s.initialized then .ok (s, false)
  else if request.reason = .abilityStart then s.handleAbilityStart platform request systemTimeMs
  else .ok (s, true)

/-- The timer of an ability start: the process falls back to its own flags. -/
def checkAbilityStartCompleted (pid bundleUid accountId : Int) :
    Except Fault ReclaimPriorityManager := do
  match ← s.lookupProc pid bundleUid accountId with
  | none => return s
  | some (bundle, proc) =>
      if proc.isAbilityStarting then
        let proc := { proc with isAbilityStarting := false }
        let s ← (s.setProc bundle proc).updatePriorityByProcStatus platform fuel bundle proc
        return (s.applyReclaimPriority bundle).1
      else return s

/-- The timer of a creation: by now the process has told what it is doing. -/
def checkCreateProcPriorityDelay (pid uid : Int) : Except Fault ReclaimPriorityManager := do
  match ← s.lookupProc pid uid (getOsAccountIdByUid uid) with
  | none => return s
  | some (bundle, proc) =>
      let s ← s.updatePriorityByProcStatus platform fuel bundle proc
      return s.writeBundleOomScoreAdj bundle

/-- Pids of `/proc` are unsigned, and comparing one with a recorded pid converts the latter. -/
def isAlive (alivePids : List Nat) (pid : Int) : Bool :=
  (pid % 2 ^ 32).toNat ∈ alivePids

def handleDiedExtensionBindToMe (alivePids : List Nat) (proc : ProcessPriorityInfo) :
    ProcessPriorityInfo :=
  (proc.procsBindToMe.keys.filter fun connector => !isAlive alivePids connector).foldl
    procUnBindToMe proc

def handleDiedExtensionBindFromMe (alivePids : List Nat) (proc : ProcessPriorityInfo) :
    ProcessPriorityInfo :=
  (proc.procsBindFromMe.keys.filter fun connector => !isAlive alivePids connector).foldl
    procUnBindFromMe proc

/-- Drop the dead processes of a bundle and the dead ends of the others' bindings. -/
def filterDiedProcs (alivePids : List Nat) (info : BundlePriorityInfo) : BundlePriorityInfo :=
  { info with
    procs := info.procs.filterMap fun _ proc =>
      if isAlive alivePids proc.pid then
        some (handleDiedExtensionBindFromMe alivePids (handleDiedExtensionBindToMe alivePids proc))
      else none }

/-- The loop over the set, at iteration position `position`. A bundle left without
processes is taken out of its account and erased through the iterator. -/
def filterDiedBundles (alivePids : List Nat) :
    List BundleRef → Nat → ReclaimPriorityManager → ReclaimPriorityManager
  | [], _, s => s
  | bundle :: rest, position, s =>
      let s := s.modifyBundle bundle (filterDiedProcs alivePids)
      if (s.bundles bundle).getProcsCount = 0 then
        match s.findOsAccountById (s.bundles bundle).accountId with
        | some _ =>
            let s := s.modifyAccount (s.bundles bundle).accountId fun account =>
              account.removeBundleById (s.bundles bundle).uid
            filterDiedBundles alivePids rest position
              { s with
                totalBundlePrioSet := platform.rebalancing.balance
                  (SearchTree.eraseIdx position s.totalBundlePrioSet) }
        | none => filterDiedBundles alivePids rest (position + 1) s
      else filterDiedBundles alivePids rest (position + 1) s

/-- `none` when the pids cannot be read. -/
def filterDiedProcess (alivePids : Option (List Nat)) : ReclaimPriorityManager :=
  match alivePids with
  | none => s
  | some alivePids => filterDiedBundles platform alivePids s.prioList 0 s

def setBundleState (accountId uid : Int) (state : BundleState) : ReclaimPriorityManager :=
  match s.findBundle uid accountId with
  | some bundle => s.modifyBundle bundle fun info => { info with state := state }
  | none => s

def reset : ReclaimPriorityManager :=
  { s with totalBundlePrioSet := .nil, osAccountsInfoMap := ∅ }

end ReclaimPriorityManager
end MemMgr
