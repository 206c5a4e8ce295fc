import Mathlib.Data.Finset.Insert
import MemMgr.Manager

/-! How a priority is computed from a process's own flags, and how a change of one
process is carried to the extensions it is connected to. -/
namespace MemMgr

open Std

namespace ProcessPriorityInfo

variable (proc : ProcessPriorityInfo)

def setImportantProcPriority : ProcessPriorityInfo :=
  if proc.priority > proc.priorityIfImportant then
    { proc with priority := proc.priorityIfImportant }
  else proc

/-- The priority of an extension as an application of its own. -/
def getPriorityByProcStatus : Int :=
  let priority :=
    if !proc.isFreground && proc.hasUI then reclaimPriorityBackground else reclaimPriorityUnknown
  let priority :=
    if proc.isFreground then reclaimPriorityForeground
    else if proc.isVisible then reclaimPriorityVisible
    else if proc.isSuspendDelay then reclaimPriorityBgSuspendDelay
    else if proc.isBackgroundRunning || proc.isEventStart then reclaimPriorityBgPerceived
    else if proc.isDistDeviceConnected then reclaimPriorityBgDistDevice
    else priority
  if proc.isImportant then
    if proc.priority ≥ proc.priorityIfImportant then proc.priorityIfImportant else priority
  else priority

/-- Lower the priority to `bound` if it is above. -/
def capPriority (bound : Int) : ProcessPriorityInfo :=
  if proc.priority > bound then proc.setPriority bound else proc

/-- The part of `UpdatePriorityByProcStatus` that changes the record: flags in
order of weight, each a one-sided comparison with the priority so far. -/
def updatePriorityByFlags : ProcessPriorityInfo :=
  let proc :=
    if proc.isFreground then proc.capPriority reclaimPriorityForeground
    else if !proc.isExtension then proc.setPriority reclaimPriorityBackground
    else proc
  let proc := if proc.isVisible then proc.capPriority reclaimPriorityVisible else proc
  let proc :=
    if proc.isSuspendDelay then proc.capPriority reclaimPriorityBgSuspendDelay
    else if proc.isBackgroundRunning || proc.isEventStart then
      proc.capPriority reclaimPriorityBgPerceived
    else if proc.isDistDeviceConnected then proc.capPriority reclaimPriorityBgDistDevice
    else proc
  if proc.isImportant then proc.setImportantProcPriority else proc

/-- `ProcInfoCmpByPriority`. -/
def procInfoCmpByPriority (p1 p2 : ProcessPriorityInfo) : Bool :=
  if p1.pid = p2.pid then false
  else if p1.priority ≠ p2.priority then p1.priority < p2.priority
  else p1.pid < p2.pid

end ProcessPriorityInfo

namespace ReclaimPriorityManager

open ProcessPriorityInfo

variable (platform : Platform) (s : ReclaimPriorityManager)

/-- The recorded processes behind a list of bindings. A pid that was visited is
not looked up, and a binding to an unknown process is passed over. -/
def procsBehind (visited : Finset Int) :
    List (Int × Int) → Except Fault (List ProcessPriorityInfo)
  | [] => .ok []
  | (pid, uid) :: rest =>
      if pid ∈ visited then procsBehind visited rest
      else do
        match ← s.lookupProc pid uid (getOsAccountIdByUid uid) with
        | none => procsBehind visited rest
        | some (_, proc) => return proc :: (← procsBehind visited rest)

/-- The queue loop of `GetConnectedExtensionProc`. Only extensions are put in the
visited set. `fuel` bounds the number of iterations. -/
def connectedExtensionLoop :
    Nat → Finset Int → List ProcessPriorityInfo → List ProcessPriorityInfo →
      Except Fault (List ProcessPriorityInfo)
  | _, _, [], procVec => .ok procVec
  | 0, _, _ :: _, _ => .error .outOfFuel
  | fuel + 1, visited, extensionProc :: queue, procVec =>
      if extensionProc.pid ∈ visited then connectedExtensionLoop fuel visited queue procVec
      else do
        let procVec := if extensionProc.isExtension then procVec ++ [extensionProc] else procVec
        let visited := if extensionProc.isExtension then insert extensionProc.pid visited else visited
        let procsBindFromMe ← s.procsBehind visited extensionProc.procsBindFromMe.toList
        connectedExtensionLoop fuel visited (queue ++ procsBindFromMe) procVec

def getConnectedExtensionProc (fuel : Nat) (proc : ProcessPriorityInfo) :
    Except Fault (List ProcessPriorityInfo) :=
  s.connectedExtensionLoop fuel ∅ [proc] []

/-- The least priority among the processes bound to an extension, starting from
`minExtensionPriority`; `view` is how a connector's priority is read. A connector
that is not recorded is a native client and counts as priority 0. -/
def minConnectorPriority (view : Int → Int) :
    List (Int × Int) → Int → Except Fault Int
  | [], minExtensionPriority => .ok minExtensionPriority
  | (pid, uid) :: rest, minExtensionPriority => do
      match ← s.lookupProc pid uid (getOsAccountIdByUid uid) with
      | none => minConnectorPriority view rest 0
      | some (_, procBindToMe) =>
          minConnectorPriority view rest
            (if minExtensionPriority < view procBindToMe.priority then minExtensionPriority
              else view procBindToMe.priority)

/-- Sort the extensions by the priority of their connectors as it is now. -/
def calculateExtensionProcPrio :
    List ProcessPriorityInfo → BinaryTree ProcessPriorityInfo →
      Except Fault (BinaryTree ProcessPriorityInfo)
  | [], procSet => .ok procSet
  | extensionProc :: procVec, procSet => do
      let minExtensionPriority ← s.minConnectorPriority id extensionProc.procsBindToMe.toList
        reclaimPriorityBackground
      calculateExtensionProcPrio procVec
        (SearchTree.insert procInfoCmpByPriority
          (extensionProc.setPriority minExtensionPriority) procSet)

/-- A system process does not raise what it is bound to above the foreground. -/
def connectorView (priority : Int) : Int :=
  if priority < 0 then 0 else priority

def deltaPriority : Int := 100

/-- The record an extension is given from its own flags and its connectors. -/
def extensionPriorityUpdate (proc : ProcessPriorityInfo) (minExtensionPriority : Int) :
    ProcessPriorityInfo :=
  let priorityAsApp := proc.getPriorityByProcStatus
  let priorityAsExtension := minExtensionPriority + deltaPriority
  let minPriority := if priorityAsApp < priorityAsExtension then priorityAsApp else priorityAsExtension
  let proc := proc.setPriority minPriority
  if proc.isImportant then proc.setImportantProcPriority else proc

/-- Recompute the extensions in the order of the set, each from the connectors'
priorities at that moment, and re-sort its bundle. -/
def setConnectExtensionProcPrio :
    List ProcessPriorityInfo → ReclaimPriorityManager → Except Fault ReclaimPriorityManager
  | [], s => .ok s
  | extensionProcess :: procSet, s => do
      let minExtensionPriority ← s.minConnectorPriority connectorView
        extensionProcess.procsBindToMe.toList reclaimPriorityBackground
      match ← s.lookupProc extensionProcess.pid extensionProcess.uid
          (getOsAccountIdByUid extensionProcess.uid) with
      | none => setConnectExtensionProcPrio procSet s
      | some (extensionBundle, proc) =>
          let procExtensionUpdate := extensionPriorityUpdate proc minExtensionPriority
          setConnectExtensionProcPrio procSet
            (((s.setProc extensionBundle procExtensionUpdate).updateBundlePriority platform
              extensionBundle).writeOomScoreAdj procExtensionUpdate.pid procExtensionUpdate.priority)

def updatePriorityByProcForExtension (fuel : Nat) (proc : ProcessPriorityInfo) :
    Except Fault ReclaimPriorityManager := do
  let allConnectedExtensionProcVec ← s.getConnectedExtensionProc fuel proc
  if allConnectedExtensionProcVec.length = 0 then return s
  else
    let allConnectedExtensionProcSet ← s.calculateExtensionProcPrio allConnectedExtensionProcVec .nil
    setConnectExtensionProcPrio platform (SearchTree.inorder allConnectedExtensionProcSet) s

def updatePriorityByProcStatus (fuel : Nat) (bundle : BundleRef) (proc : ProcessPriorityInfo) :
    Except Fault ReclaimPriorityManager :=
  if (s.bundles bundle).priority < reclaimPriorityForeground then .ok s
  else if proc.isRender then .ok s
  else
    let proc := proc.updatePriorityByFlags
    ((s.setProc bundle proc).updateBundlePriority platform bundle).updatePriorityByProcForExtension
      platform fuel proc

end ReclaimPriorityManager
end MemMgr
