import MemMgr.MemMgrCalls
import MemMgr.SubscriberMessages

/-! What a subscriber is told, on its way to the process that it lives in. All but the end of a
subscription travels one way: the manager does not wait, and the messages of an object are handled one
after the other. A message may be lost, and the listener may be gone when it arrives. -/
namespace MemMgr

inductive AppStateSubscriberInterfaceCode where
  | onConnected
  | onDisconnected
  | onAppStateChanged
  | forceReclaim
  | onTrim
  deriving DecidableEq

def AppStateSubscriberInterfaceCode.toUInt32 : AppStateSubscriberInterfaceCode → UInt32
  | .onConnected => 1
  | .onDisconnected => 2
  | .onAppStateChanged => 3
  | .forceReclaim => 4
  | .onTrim => 5

def AppStateSubscriberInterfaceCode.ofUInt32 (code : UInt32) : Option AppStateSubscriberInterfaceCode :=
  match code.toNat with
  | 1 => some .onConnected
  | 2 => some .onDisconnected
  | 3 => some .onAppStateChanged
  | 4 => some .forceReclaim
  | 5 => some .onTrim
  | _ => none

def SystemMemoryLevel.toInt32 : SystemMemoryLevel → Int32
  | .unknown => 0
  | .memoryLevelPurgeable => 1
  | .memoryLevelModerate => 2
  | .memoryLevelLow => 3
  | .memoryLevelCritical => 4

/-- What a subscriber is called with. A level is any number that was received. -/
inductive SubscriberCall where
  | onConnected
  | onDisconnected
  | onAppStateChanged (pid uid state : Int32)
  | forceReclaim (pid uid : Int32)
  | onTrim (level : Int32)
  deriving DecidableEq

/-- A code and a parcel. -/
abbrev SubscriberRequest (β : Type) := UInt32 × List β

variable {β ω : Type} (format : ParcelFormat β ω) (room : List β → Bool)

namespace AppStateSubscriberProxy

def descriptor : ParcelString := ⟨"ohos.resourceschedule.IAppStateSubscriber", by decide⟩

/-- The request, if there is room for the token and then for each argument. -/
def request (code : AppStateSubscriberInterfaceCode) (arguments : List (List β)) :
    Option (SubscriberRequest β) := do
  let data ← Codec.append room [] [format.interfaceToken.encode descriptor]
  let data ← Codec.append room data arguments
  return (code.toUInt32, data)

def onConnected : Option (SubscriberRequest β) := request format room .onConnected []

def onDisconnected : Option (SubscriberRequest β) := request format room .onDisconnected []

def onAppStateChanged (pid uid state : Int32) : Option (SubscriberRequest β) :=
  request format room .onAppStateChanged
    [format.int32.encode pid, format.int32.encode uid, format.int32.encode state]

def onTrim (level : Int32) : Option (SubscriberRequest β) :=
  request format room .onTrim [format.int32.encode level]

def forceReclaim (pid uid : Int32) : Option (SubscriberRequest β) :=
  request format room .forceReclaim [format.int32.encode pid, format.int32.encode uid]

def call : SubscriberCall → Option (SubscriberRequest β)
  | .onConnected => onConnected format room
  | .onDisconnected => onDisconnected format room
  | .onAppStateChanged pid uid state => onAppStateChanged format room pid uid state
  | .forceReclaim pid uid => forceReclaim format room pid uid
  | .onTrim level => onTrim format room level

end AppStateSubscriberProxy

namespace AppStateSubscriberStub

variable (codes : IpcCodes)

/-- The answer, and what the subscriber is called with if the arguments can be read. -/
def handle (arguments : Option SubscriberCall) : Int32 × Option SubscriberCall :=
  match arguments with
  | none => (-1, none)
  | some call => (0, some call)

def handleOnConnected : Int32 × Option SubscriberCall := handle (some .onConnected)

def handleOnDisconnected : Int32 × Option SubscriberCall := handle (some .onDisconnected)

def handleOnAppStateChanged (data : List β) : Int32 × Option SubscriberCall :=
  handle do
    let (pid, data) ← format.int32.decode data
    let (uid, data) ← format.int32.decode data
    let (state, _) ← format.int32.decode data
    return .onAppStateChanged pid uid state

def handleOnTrim (data : List β) : Int32 × Option SubscriberCall :=
  handle do
    let (level, _) ← format.int32.decode data
    return .onTrim level

def handleForceReclaim (data : List β) : Int32 × Option SubscriberCall :=
  handle do
    let (pid, data) ← format.int32.decode data
    let (uid, _) ← format.int32.decode data
    return .forceReclaim pid uid

def onRemoteRequestInner (code : UInt32) (data : List β) : Int32 × Option SubscriberCall :=
  match AppStateSubscriberInterfaceCode.ofUInt32 code with
  | some .onConnected => handleOnConnected
  | some .onDisconnected => handleOnDisconnected
  | some .onAppStateChanged => handleOnAppStateChanged format data
  | some .onTrim => handleOnTrim format data
  | some .forceReclaim => handleForceReclaim format data
  | none => (codes.unknownTransaction, none)

theorem utf8ByteSize_empty : "".utf8ByteSize < 2 ^ 31 := by decide

/-- A token that cannot be read is empty. -/
def onRemoteRequest (code : UInt32) (data : List β) : Int32 × Option SubscriberCall :=
  let (remoteDescriptor, data) := (format.interfaceToken.decode data).getD (⟨"", utf8ByteSize_empty⟩, data)
  if AppStateSubscriberProxy.descriptor ≠ remoteDescriptor then (-1, none)
  else onRemoteRequestInner format codes code data

end AppStateSubscriberStub

open AppStateSubscriberProxy AppStateSubscriberStub

variable {format} {room} {codes : IpcCodes}

/-- A request that is written is the token and the arguments in their order. -/
theorem request_eq {code : AppStateSubscriberInterfaceCode} {arguments : List (List β)}
    {sent : SubscriberRequest β} (h : request format room code arguments = some sent) :
    sent = (code.toUInt32,
      format.interfaceToken.encode AppStateSubscriberProxy.descriptor ++ arguments.flatten) := by
  simp only [request, bind, Option.bind_eq_some_iff, pure, Option.some.injEq] at h
  obtain ⟨token, hToken, data, hData, rfl⟩ := h
  rw [Codec.eq_of_append hData, Codec.eq_of_append hToken, List.nil_append, List.flatten_singleton]

/-- A message that starts with the token reaches its handler. -/
theorem onRemoteRequest_token (code : UInt32) (data : List β) :
    onRemoteRequest format codes code
        (format.interfaceToken.encode AppStateSubscriberProxy.descriptor ++ data) =
      onRemoteRequestInner format codes code data := by
  rw [onRemoteRequest, Codec.decode_encode, Option.getD_some]
  exact if_neg (not_not.mpr rfl)

/-- Whatever is sent calls the subscriber as the proxy was called. -/
theorem onRemoteRequest_call {call : SubscriberCall} {sent : SubscriberRequest β}
    (h : AppStateSubscriberProxy.call format room call = some sent) :
    onRemoteRequest format codes sent.1 sent.2 = (0, some call) := by
  cases call with
  | onConnected =>
      obtain rfl := request_eq h
      rw [onRemoteRequest_token]
      rfl
  | onDisconnected =>
      obtain rfl := request_eq h
      rw [onRemoteRequest_token]
      rfl
  | onAppStateChanged pid uid state =>
      obtain rfl := request_eq h
      rw [onRemoteRequest_token]
      change handleOnAppStateChanged format _ = _
      simp [handleOnAppStateChanged, handle, Codec.decode_encode, Codec.decode_encode_nil]
  | forceReclaim pid uid =>
      obtain rfl := request_eq h
      rw [onRemoteRequest_token]
      change handleForceReclaim format _ = _
      simp [handleForceReclaim, handle, Codec.decode_encode, Codec.decode_encode_nil]
  | onTrim level =>
      obtain rfl := request_eq h
      rw [onRemoteRequest_token]
      change handleOnTrim format _ = _
      simp [handleOnTrim, handle, Codec.decode_encode_nil]

end MemMgr
