import MemMgr.MessageParcel

/-! The calls of the service. A proxy puts the arguments into a parcel, the stub at the other end takes
them out, asks who calls, and hands them to the service. The request may be lost on its way, and
so may the answer. -/
namespace MemMgr

/-- Who calls: `IPCSkeleton`, and the kind of the token. -/
structure Caller where
  uid : Int32
  pid : Int32
  nativeOrShell : Bool
  deriving DecidableEq

/-- The codes of the messages. -/
inductive MemMgrInterfaceCode where
  | getBundlePriorityList
  | notifyDistDevStatus
  | getKillLevelOfLmkd
  | registerActiveApps
  | deregisterActiveApps
  | subscribeAppState
  | unsubscribeAppState
  | getAvailableMemory
  | getTotalMemory
  | onWindowVisibilityChanged
  | getPriorityByPid
  | notifyProcessStateChangedSync
  | notifyProcessStateChangedAsync
  | notifyProcessStatus
  | setCritical
  deriving DecidableEq

def MemMgrInterfaceCode.toUInt32 : MemMgrInterfaceCode → UInt32
  | .getBundlePriorityList => 1
  | .notifyDistDevStatus => 2
  | .getKillLevelOfLmkd => 3
  | .registerActiveApps => 4
  | .deregisterActiveApps => 5
  | .subscribeAppState => 6
  | .unsubscribeAppState => 7
  | .getAvailableMemory => 8
  | .getTotalMemory => 9
  | .onWindowVisibilityChanged => 10
  | .getPriorityByPid => 11
  | .notifyProcessStateChangedSync => 12
  | .notifyProcessStateChangedAsync => 13
  | .notifyProcessStatus => 14
  | .setCritical => 15

def MemMgrInterfaceCode.ofUInt32 (code : UInt32) : Option MemMgrInterfaceCode :=
  match code.toNat with
  | 1 => some .getBundlePriorityList
  | 2 => some .notifyDistDevStatus
  | 3 => some .getKillLevelOfLmkd
  | 4 => some .registerActiveApps
  | 5 => some .deregisterActiveApps
  | 6 => some .subscribeAppState
  | 7 => some .unsubscribeAppState
  | 8 => some .getAvailableMemory
  | 9 => some .getTotalMemory
  | 10 => some .onWindowVisibilityChanged
  | 11 => some .getPriorityByPid
  | 12 => some .notifyProcessStateChangedSync
  | 13 => some .notifyProcessStateChangedAsync
  | 14 => some .notifyProcessStatus
  | 15 => some .setCritical
  | _ => none

/-- Codes that calls fail with. -/
structure IpcCodes where
  errNullObject : Int32
  errFlattenObject : Int32
  errInvalidData : Int32
  errInvalidState : Int32
  ipcProxyErr : Int32
  ipcStubErr : Int32
  /-- That of a code nobody knows. -/
  unknownTransaction : Int32
  errNullObject_ne : errNullObject ≠ 0
  errFlattenObject_ne : errFlattenObject ≠ 0
  errInvalidData_ne : errInvalidData ≠ 0
  errInvalidState_ne : errInvalidState ≠ 0
  ipcProxyErr_ne : ipcProxyErr ≠ 0
  ipcStubErr_ne : ipcStubErr ≠ 0
  unknownTransaction_ne : unknownTransaction ≠ 0

/-- What a service does: its answers, and its state `σ` after a call. A value that is read out
starts with what the caller has put there. -/
structure IMemMgr (σ ω : Type) where
  getBundlePriorityList : BundleInfos → σ → (Int32 × BundleInfos) × σ
  notifyDistDevStatus : Int32 → Int32 → ParcelString → Bool → σ → Int32 × σ
  getKillLevel : σ → Int32
  registerActiveApps : Int32 → Int32 → σ → Int32 × σ
  deregisterActiveApps : Int32 → Int32 → σ → Int32 × σ
  subscribeAppState : ω → σ → Int32 × σ
  unsubscribeAppState : ω → σ → Int32 × σ
  getAvailableMemory : Int32 → σ → (Int32 × Int32) × σ
  getTotalMemory : Int32 → σ → (Int32 × Int32) × σ
  onWindowVisibilityChanged : List (Option WindowInfoParcel) → σ → Int32 × σ
  getReclaimPriorityByPid : Int32 → Int32 → σ → (Int32 × Int32) × σ
  notifyProcessStateChangedSync : MemMgrProcessStateInfo → σ → Int32 × σ
  notifyProcessStateChangedAsync : MemMgrProcessStateInfo → σ → Int32 × σ
  notifyProcessStatus : Int32 → Int32 → Int32 → Int32 → σ → Int32 × σ
  setCritical : Int32 → Bool → Int32 → σ → Int32 × σ

variable {β σ ω : Type}

/-- The other end: what a message is answered with, and the state after it. -/
abbrev Remote (β σ : Type) := UInt32 → List β → σ → (Int32 × List β) × σ

/-- What is read out of a reply. -/
inductive CallValue where
  | number (value : Int32)
  | bundles (list : BundleInfos)
  deriving DecidableEq

/-- The code a caller gets, and the value that is read out if there is one. -/
abbrev CallResult := Int32 × Option CallValue

def descriptor : ParcelString := ⟨"ohos.memory.MemMgr", by decide⟩

section

variable (format : ParcelFormat β ω) (codes : IpcCodes) (room : List β → Bool)

namespace MemMgrProxy

variable (remote : Option (Remote β σ))

/-- The token and the arguments in a parcel, or the error if an argument cannot be written. -/
def request (notWritten : Int32) (arguments : List (List β)) : Except Int32 (List β) :=
  match Codec.append room [] [format.interfaceToken.encode descriptor] with
  | none => .error codes.errFlattenObject
  | some data =>
      match Codec.append room data arguments with
      | none => .error notWritten
      | some data => .ok data

def readResult (reply : List β) : CallResult :=
  match format.int32.decode reply with
  | none => (codes.ipcProxyErr, none)
  | some (ret, _) => (ret, none)

def readValue (reply : List β) : CallResult :=
  match format.int32.decode reply with
  | none => (codes.ipcProxyErr, none)
  | some (value, _) => (0, some (.number value))

def readBundles (reply : List β) : CallResult :=
  match (format.readParcelable (BundleInfos.unmarshalling format) reply).1 with
  | none => (-1, none)
  | some list => (0, some (.bundles list))

def send (notWritten : Int32) (code : MemMgrInterfaceCode) (arguments : List (List β))
    (read : List β → CallResult) (s : σ) : CallResult × σ :=
  match remote with
  | none => ((codes.errNullObject, none), s)
  | some sendRequest =>
      match request format codes room notWritten arguments with
      | .error error => ((error, none), s)
      | .ok data =>
          let ((error, reply), s) := sendRequest code.toUInt32 data s
          (if error ≠ 0 then (error, none) else read reply, s)

def transact (code : MemMgrInterfaceCode) (arguments : List (List β)) (read : List β → CallResult) :
    σ → CallResult × σ :=
  send format codes room remote codes.errInvalidData code arguments read

/-- A call that does not ask what has become of it. -/
def notify (code : MemMgrInterfaceCode) (arguments : List (List β)) (s : σ) : CallResult × σ :=
  match remote with
  | none => ((codes.errNullObject, none), s)
  | some sendRequest =>
      match request format codes room codes.errInvalidData arguments with
      | .error error => ((error, none), s)
      | .ok data => ((0, none), (sendRequest code.toUInt32 data s).2)

def getBundlePriorityListInfos (bundlePrioList : BundleInfos) : σ → CallResult × σ :=
  send format codes room remote codes.errFlattenObject .getBundlePriorityList
    [format.writeParcelable (BundleInfos.marshalling format) (some bundlePrioList)] (readBundles format)

def notifyDistDevStatus (pid uid : Int32) (name : ParcelString) (connected : Bool) : σ → CallResult × σ :=
  transact format codes room remote .notifyDistDevStatus
    [format.int32.encode pid, format.int32.encode uid, format.string.encode name, format.bool.encode connected]
    (readResult format codes)

def getKillLevelOfLmkd : σ → CallResult × σ :=
  transact format codes room remote .getKillLevelOfLmkd [] (readValue format codes)

def registerActiveApps (pid uid : Int32) : σ → CallResult × σ :=
  transact format codes room remote .registerActiveApps [format.int32.encode pid, format.int32.encode uid]
    (readResult format codes)

def deregisterActiveApps (pid uid : Int32) : σ → CallResult × σ :=
  transact format codes room remote .deregisterActiveApps [format.int32.encode pid, format.int32.encode uid]
    (readResult format codes)

def subscribeAppState (subscriber : Option ω) (s : σ) : CallResult × σ :=
  match subscriber with
  | none => ((codes.errNullObject, none), s)
  | some subscriber =>
      transact format codes room remote .subscribeAppState [format.remoteObject.encode subscriber]
        (readResult format codes) s

def unsubscribeAppState (subscriber : Option ω) (s : σ) : CallResult × σ :=
  match subscriber with
  | none => ((codes.errNullObject, none), s)
  | some subscriber =>
      transact format codes room remote .unsubscribeAppState [format.remoteObject.encode subscriber]
        (readResult format codes) s

def getAvailableMemory : σ → CallResult × σ :=
  transact format codes room remote .getAvailableMemory [] (readValue format codes)

def getTotalMemory : σ → CallResult × σ :=
  transact format codes room remote .getTotalMemory [] (readValue format codes)

def onWindowVisibilityChanged (infos : List (Option WindowInfoParcel)) : σ → CallResult × σ :=
  transact format codes room remote .onWindowVisibilityChanged
    (format.uint32.encode (UInt32.ofNat infos.length) ::
      infos.map (format.writeParcelable (WindowInfoParcel.marshalling format)))
    (readResult format codes)

def getReclaimPriorityByPid (pid : Int32) : σ → CallResult × σ :=
  transact format codes room remote .getPriorityByPid [format.int32.encode pid] (readValue format codes)

def notifyProcessStateChangedSync (processStateInfo : MemMgrProcessStateInfo) : σ → CallResult × σ :=
  transact format codes room remote .notifyProcessStateChangedSync
    [format.writeParcelable (MemMgrProcessStateInfo.marshalling format) (some processStateInfo)]
    (readResult format codes)

def notifyProcessStateChangedAsync (processStateInfo : MemMgrProcessStateInfo) : σ → CallResult × σ :=
  transact format codes room remote .notifyProcessStateChangedAsync
    [format.writeParcelable (MemMgrProcessStateInfo.marshalling format) (some processStateInfo)]
    (readResult format codes)

def notifyProcessStatus (pid type status saId : Int32) : σ → CallResult × σ :=
  notify format codes room remote .notifyProcessStatus
    [format.int32.encode pid, format.int32.encode type, format.int32.encode status, format.int32.encode saId]

def setCritical (pid : Int32) (critical : Bool) (saId : Int32) : σ → CallResult × σ :=
  notify format codes room remote .setCritical
    [format.int32.encode pid, format.bool.encode critical, format.int32.encode saId]

end MemMgrProxy

namespace MemMgrStub

variable (service : IMemMgr σ ω) (caller : Caller)

def maxParcelSize : Nat := 100000
def cameraServiceUid : Int32 := 1047
def foundationUid : Int32 := 5523

/-- The answer with a value in the reply, if that can be written. -/
def answer (ret value : Int32) : Int32 × List β :=
  match Codec.append room [] [format.int32.encode value] with
  | none => (codes.ipcStubErr, [])
  | some reply => (ret, reply)

def refuse (s : σ) : (Int32 × List β) × σ := ((codes.ipcStubErr, []), s)

/-- What a handler does with the arguments it has read, and with the result of the service. -/
def handleResult {α : Type} (arguments : Option (α × List β)) (call : α → σ → Int32 × σ) (s : σ) :
    (Int32 × List β) × σ :=
  match arguments with
  | none => refuse codes s
  | some (arguments, _) =>
      let (ret, s) := call arguments s
      (answer format codes room ret ret, s)

/-- A handler that replies with a value and answers with the result. -/
def handleValue (call : σ → (Int32 × Int32) × σ) (s : σ) : (Int32 × List β) × σ :=
  let ((ret, value), s) := call s
  (answer format codes room ret value, s)

def readPidAndUid (data : List β) : Option ((Int32 × Int32) × List β) := do
  let (pid, data) ← format.int32.decode data
  let (uid, data) ← format.int32.decode data
  return ((pid, uid), data)

/-- The list in the reply. Nobody looks whether it could be written. -/
def replyBundles (list : BundleInfos) : List β :=
  let reply := format.writeParcelable (BundleInfos.marshalling format) (some list)
  if room reply then reply else format.torn reply

def handleGetBunldePriorityListInfos (data : List β) (s : σ) : (Int32 × List β) × σ :=
  match (format.readParcelable (BundleInfos.unmarshalling format) data).1 with
  | none => ((-1, []), s)
  | some list =>
      let ((ret, list), s) := service.getBundlePriorityList list s
      ((ret, replyBundles format room list), s)

def handleNotifyDistDevStatus (data : List β) : σ → (Int32 × List β) × σ :=
  handleResult format codes room
    (do
      let (pid, data) ← format.int32.decode data
      let (uid, data) ← format.int32.decode data
      let (name, data) ← format.string.decode data
      let (connected, data) ← format.bool.decode data
      return ((pid, uid, name, connected), data))
    fun (pid, uid, name, connected) => service.notifyDistDevStatus pid uid name connected

/-- `LowMemoryKiller` is asked without the service. -/
def handleGetKillLevelOfLmkd (s : σ) : (Int32 × List β) × σ :=
  (answer format codes room 0 (service.getKillLevel s), s)

def handleRegisterActiveApps (data : List β) : σ → (Int32 × List β) × σ :=
  handleResult format codes room (readPidAndUid format data) fun (pid, uid) =>
    service.registerActiveApps pid uid

def handleDeregisterActiveApps (data : List β) : σ → (Int32 × List β) × σ :=
  handleResult format codes room (readPidAndUid format data) fun (pid, uid) =>
    service.deregisterActiveApps pid uid

def handleSubscribeAppState (data : List β) : σ → (Int32 × List β) × σ :=
  handleResult format codes room (format.remoteObject.decode data) service.subscribeAppState

def handleUnsubscribeAppState (data : List β) : σ → (Int32 × List β) × σ :=
  handleResult format codes room (format.remoteObject.decode data) service.unsubscribeAppState

def handleGetAvailableMemory : σ → (Int32 × List β) × σ :=
  handleValue format codes room (service.getAvailableMemory 0)

def handleGetTotalMemory : σ → (Int32 × List β) × σ :=
  handleValue format codes room (service.getTotalMemory 0)

/-- One entry of the list, for which a number has to be left at least. -/
def readInfo (data : List β) : Option (Option WindowInfoParcel × List β) :=
  if 4 > data.length then none
  else some (format.readParcelable (WindowInfoParcel.unmarshalling format) data)

def readInfos (data : List β) : Option (List (Option WindowInfoParcel) × List β) :=
  let (len, data) := (format.uint32.decode data).getD (0, data)
  if len.toNat > maxParcelSize then none
  else if len.toNat > data.length then none
  else Codec.readMany (readInfo format) len.toNat data

def handleOnWindowVisibilityChanged (data : List β) : σ → (Int32 × List β) × σ :=
  handleResult format codes room (readInfos format data) service.onWindowVisibilityChanged

def isCameraServiceCalling : Bool := caller.uid = cameraServiceUid

/-- The priority that is passed to the service. -/
def priorityAtFirst : Int32 := Int32.ofInt (reclaimPriorityUnknown + 1)

/-- A pid that cannot be read is 0. -/
def handleGetReclaimPriorityByPid (data : List β) (s : σ) : (Int32 × List β) × σ :=
  if !isCameraServiceCalling caller then refuse codes s
  else
    let (pid, _) := (format.uint32.decode data).getD (0, data)
    handleValue format codes room (service.getReclaimPriorityByPid pid.toInt32 priorityAtFirst) s

def checkCallingToken : Bool := caller.nativeOrShell

def isFoundationCalling : Bool := caller.uid = foundationUid

def readProcessStateInfo (data : List β) : Option (MemMgrProcessStateInfo × List β) :=
  match format.readParcelable (MemMgrProcessStateInfo.unmarshalling format) data with
  | (none, _) => none
  | (some processStateInfo, data) => some (processStateInfo, data)

def handleNotifyProcessStateChangedSync (data : List β) (s : σ) : (Int32 × List β) × σ :=
  if !isFoundationCalling caller then refuse codes s
  else
    handleResult format codes room (readProcessStateInfo format data)
      service.notifyProcessStateChangedSync s

def handleNotifyProcessStateChangedAsync (data : List β) (s : σ) : (Int32 × List β) × σ :=
  if !isFoundationCalling caller then refuse codes s
  else
    handleResult format codes room (readProcessStateInfo format data)
      service.notifyProcessStateChangedAsync s

def readProcessStatus (data : List β) : Option (Int32 × Int32 × Int32 × Int32) := do
  let (pid, data) ← format.int32.decode data
  let (type, data) ← format.int32.decode data
  let (status, data) ← format.int32.decode data
  let (saId, _) ← format.int32.decode data
  return (pid, type, status, saId)

/-- What the service answers is dropped. -/
def handleNotifyProcessStatus (data : List β) (s : σ) : (Int32 × List β) × σ :=
  if !checkCallingToken caller then refuse codes s
  else
    match readProcessStatus format data with
    | none => refuse codes s
    | some (pid, type, status, saId) => ((0, []), (service.notifyProcessStatus pid type status saId s).2)

def readCritical (data : List β) : Option (Int32 × Bool × Int32) := do
  let (pid, data) ← format.int32.decode data
  let (critical, data) ← format.bool.decode data
  let (saId, _) ← format.int32.decode data
  return (pid, critical, saId)

/-- A process can speak for itself only, and is not told when it does not. -/
def handleSetCritical (data : List β) (s : σ) : (Int32 × List β) × σ :=
  if !checkCallingToken caller then refuse codes s
  else
    match readCritical format data with
    | none => refuse codes s
    | some (pid, critical, saId) =>
        if caller.pid ≠ pid then ((0, []), s)
        else ((0, []), (service.setCritical pid critical saId s).2)

def onRemoteRequestInner (code : UInt32) (data : List β) (s : σ) : (Int32 × List β) × σ :=
  match MemMgrInterfaceCode.ofUInt32 code with
  | some .getBundlePriorityList => handleGetBunldePriorityListInfos format room service data s
  | some .notifyDistDevStatus => handleNotifyDistDevStatus format codes room service data s
  | some .getKillLevelOfLmkd => handleGetKillLevelOfLmkd format codes room service s
  | some .registerActiveApps => handleRegisterActiveApps format codes room service data s
  | some .deregisterActiveApps => handleDeregisterActiveApps format codes room service data s
  | some .subscribeAppState => handleSubscribeAppState format codes room service data s
  | some .unsubscribeAppState => handleUnsubscribeAppState format codes room service data s
  | some .getAvailableMemory => handleGetAvailableMemory format codes room service s
  | some .getTotalMemory => handleGetTotalMemory format codes room service s
  | some .onWindowVisibilityChanged => handleOnWindowVisibilityChanged format codes room service data s
  | some .getPriorityByPid => handleGetReclaimPriorityByPid format codes room service caller data s
  | some .notifyProcessStateChangedSync =>
      handleNotifyProcessStateChangedSync format codes room service caller data s
  | some .notifyProcessStateChangedAsync =>
      handleNotifyProcessStateChangedAsync format codes room service caller data s
  | some .notifyProcessStatus => handleNotifyProcessStatus format codes service caller data s
  | some .setCritical => handleSetCritical format codes service caller data s
  | none => ((codes.unknownTransaction, []), s)

/-- A token that cannot be read is empty. -/
def onRemoteRequest (code : UInt32) (data : List β) (s : σ) : (Int32 × List β) × σ :=
  let (remoteDescriptor, data) := (format.interfaceToken.decode data).getD (⟨"", by decide⟩, data)
  if descriptor ≠ remoteDescriptor then ((codes.errInvalidState, []), s)
  else onRemoteRequestInner format codes room service caller code data s

end MemMgrStub
end
end MemMgr
