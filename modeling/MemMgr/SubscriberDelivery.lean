import MemMgr.AppStateSubscriberCalls

/-! A subscriber in its own process, with the manager at the other end. What the listener is called
with comes from the calls of the manager, through all that may be lost or held up on the way. -/
namespace MemMgr

open PurgeableMemManager (Output toldTo)

/-- The manager, and one remote object of a subscriber. -/
structure SubscriberLink (β : Type) where
  manager : PurgeableMemManager
  /-- The one-way messages to the object, the next one first. -/
  inFlight : List (SubscriberRequest β)
  isListenerAlive : Bool

namespace SubscriberLink

/-- A step of the manager with the messages that get through, the next message of the object, or the
end of the listener. -/
inductive Op where
  | manager (op : PurgeableMemManager.Op) (sent : Nat → Bool)
  | deliver
  | onListenerDied

variable {β ω : Type} (format : ParcelFormat β ω) (room : List β → Bool) (codes : IpcCodes)
variable (object : RemoteObject)

def init : SubscriberLink β := ⟨PurgeableMemManager.init, [], true⟩

def callOf : SubscriberMessage → SubscriberCall
  | .onAppStateChanged pid uid state => .onAppStateChanged (.ofInt pid) (.ofInt uid) (.ofInt state)
  | .forceReclaim pid uid => .forceReclaim (.ofInt pid) (.ofInt uid)
  | .onTrim level => .onTrim level.toInt32

/-- The one-way calls on the proxy of the object. -/
def oneWayCall : Output → Option SubscriberCall
  | .told subscriber message => if subscriber.asObject = some object then some (callOf message) else none
  | .connection (.onConnected connected) => if connected = object then some .onConnected else none
  | _ => none

/-- The call that the manager waits for. -/
def waitingCall : Output → Option SubscriberCall
  | .connection (.onDisconnected disconnected) =>
      if disconnected = object then some .onDisconnected else none
  | _ => none

/-- The calls in the order they are made, each with a number. -/
def sendAll : List SubscriberCall → (Nat → Bool) → List (SubscriberRequest β)
  | [], _ => []
  | call :: calls, sent =>
      (if sent 0 then (AppStateSubscriberProxy.call format room call).toList else []) ++
        sendAll calls fun i => sent (i + 1)

def received (request : SubscriberRequest β) : Option SubscriberCall :=
  (AppStateSubscriberStub.onRemoteRequest format codes request.1 request.2).2

variable (s : SubscriberLink β)

/-- What the listener is called with, while it is there. -/
def forward (calls : List SubscriberCall) : List SubscriberCall := if s.isListenerAlive then calls else []

def step : Op → SubscriberLink β × List SubscriberCall
  | .manager op sent =>
      let (manager, outputs) := PurgeableMemManager.step s.manager op
      let waiting := (outputs.filterMap (waitingCall object)).filterMap
        (AppStateSubscriberProxy.call format room)
      ({ s with
          manager
          inFlight := s.inFlight ++ sendAll format room (outputs.filterMap (oneWayCall object)) sent },
        s.forward (waiting.filterMap (received format codes)))
  | .deliver =>
      match s.inFlight with
      | [] => (s, [])
      | request :: inFlight =>
          ({ s with inFlight }, s.forward (received format codes request).toList)
  | .onListenerDied => ({ s with isListenerAlive := false }, [])

/-- The steps of the manager. -/
def managerOps (ops : List Op) : List PurgeableMemManager.Op :=
  ops.filterMap fun
    | .manager op _ => some op
    | _ => none

def isOneWay : SubscriberCall → Bool
  | .onDisconnected => false
  | _ => true

/-- What is on its way. -/
def pending : List SubscriberCall := s.inFlight.filterMap (received format codes)

abbrev run (ops : List Op) : SubscriberLink β :=
  Transducer.finalState (step format room codes object) init ops

/-- The calls of the listener, in order. -/
abbrev calls (ops : List Op) : List SubscriberCall :=
  Transducer.outputs (step format room codes object) init ops

variable {format} {room} {codes} {object} {s}

theorem managerOps_concat (ops : List Op) (op : Op) :
    managerOps (ops ++ [op]) = managerOps ops ++ managerOps [op] :=
  List.filterMap_append

theorem manager_run (ops : List Op) :
    (run format room codes object ops).manager = PurgeableMemManager.run (managerOps ops) := by
  induction ops using List.reverseRecOn with
  | nil => rfl
  | append_singleton ops op ih =>
      rw [run, Transducer.finalState_concat, managerOps_concat, PurgeableMemManager.run,
        Transducer.finalState_append]
      cases op with
      | manager op sent =>
          rw [step]
          exact congrArg (fun m => (PurgeableMemManager.step m op).1) ih
      | deliver =>
          refine Eq.trans ?_ ih
          rw [step]
          split <;> rfl
      | onListenerDied => exact ih

theorem filterMap_sendAll (calls : List SubscriberCall) (sent : Nat → Bool) :
    ((sendAll format room calls sent).filterMap (received format codes)).Sublist calls := by
  induction calls generalizing sent with
  | nil => exact List.Sublist.refl _
  | cons call calls ih =>
      rw [sendAll, List.filterMap_append, ← List.singleton_append]
      apply List.Sublist.append _ (ih _)
      split_ifs
      · cases hSent : AppStateSubscriberProxy.call format room call with
        | none => exact List.nil_sublist _
        | some request => simp [received, onRemoteRequest_call hSent]
      · exact List.nil_sublist _

/-- What a step adds to the one-way calls. -/
def newCalls (object : RemoteObject) (s : SubscriberLink β) : Op → List SubscriberCall
  | .manager op _ => (PurgeableMemManager.step s.manager op).2.filterMap (oneWayCall object)
  | .deliver => []
  | .onListenerDied => []

theorem filter_waiting (outputs : List Output) :
    (((outputs.filterMap (waitingCall object)).filterMap
      (AppStateSubscriberProxy.call format room)).filterMap (received format codes)).filter isOneWay = [] := by
  rw [List.filter_eq_nil_iff]
  intro call hCall
  simp only [List.mem_filterMap] at hCall
  obtain ⟨request, ⟨waiting, ⟨output, -, hWaiting⟩, hSent⟩, hReceived⟩ := hCall
  rw [received, onRemoteRequest_call hSent] at hReceived
  obtain rfl := Option.some.inj hReceived
  cases output with
  | connection output =>
      cases output with
      | onDisconnected disconnected =>
          rw [waitingCall] at hWaiting
          split_ifs at hWaiting
          obtain rfl := Option.some.inj hWaiting
          simp [isOneWay]
      | _ => cases hWaiting
  | _ => cases hWaiting

theorem filter_forward_nil {calls : List SubscriberCall} (h : calls.filter isOneWay = []) :
    (s.forward calls).filter isOneWay = [] := by
  rw [forward]
  split_ifs
  · exact h
  · rfl

theorem pending_cons {request : SubscriberRequest β} {inFlight : List (SubscriberRequest β)}
    (h : s.inFlight = request :: inFlight) : pending format codes s =
      (received format codes request).toList ++ pending format codes { s with inFlight } := by
  rw [pending, h, List.filterMap_cons, pending]
  cases received format codes request <;> rfl

/-- Nothing arrives that was not on its way, and nothing is on its way that was not sent. -/
theorem step_sublist (s : SubscriberLink β) (op : Op) :
    ((step format room codes object s op).2.filter isOneWay ++
        pending format codes (step format room codes object s op).1).Sublist
      (pending format codes s ++ newCalls object s op) := by
  cases op with
  | manager op sent =>
      rw [step]
      dsimp only
      rw [filter_forward_nil (filter_waiting _), List.nil_append, pending, List.filterMap_append, newCalls]
      exact (List.Sublist.refl _).append (filterMap_sendAll _ sent)
  | deliver =>
      rw [step, newCalls, List.append_nil]
      cases hInFlight : s.inFlight with
      | nil => simp [pending, hInFlight]
      | cons request inFlight =>
          have hFirst : ((s.forward (received format codes request).toList).filter isOneWay).Sublist
              (received format codes request).toList := by
            refine List.filter_sublist.trans ?_
            rw [forward]
            split_ifs
            · exact List.Sublist.refl _
            · exact List.nil_sublist _
          rw [pending_cons hInFlight]
          exact hFirst.append (List.Sublist.refl _)
  | onListenerDied =>
      rw [newCalls, List.append_nil]
      exact List.Sublist.refl _

theorem oneWay_concat (ops : List Op) (op : Op) :
    (PurgeableMemManager.told (managerOps (ops ++ [op]))).filterMap (oneWayCall object) =
      (PurgeableMemManager.told (managerOps ops)).filterMap (oneWayCall object) ++
        newCalls object (run format room codes object ops) op := by
  rw [managerOps_concat]
  cases op with
  | manager op sent =>
      rw [newCalls, manager_run]
      have hLast : managerOps [.manager op sent] = [op] := rfl
      rw [hLast, PurgeableMemManager.told, Transducer.outputs_concat, List.filterMap_append]
  | deliver => simp [managerOps, newCalls]
  | onListenerDied => simp [managerOps, newCalls]

theorem calls_sublist (ops : List Op) :
    ((calls format room codes object ops).filter isOneWay ++
        pending format codes (run format room codes object ops)).Sublist
      ((PurgeableMemManager.told (managerOps ops)).filterMap (oneWayCall object)) := by
  induction ops using List.reverseRecOn with
  | nil => exact List.Sublist.refl _
  | append_singleton ops op ih =>
      rw [@oneWay_concat β ω format room codes object, calls, Transducer.outputs_concat, run,
        Transducer.finalState_concat, List.filter_append, List.append_assoc]
      refine ((step_sublist _ op).append_left _).trans ?_
      rw [← List.append_assoc]
      exact ih.append_right _

/-- There is always room, every message gets through, and the listener stays. -/
structure Reliable (room : List β → Bool) (ops : List Op) : Prop where
  room : ∀ content, room content = true
  sent : ∀ op sent, .manager op sent ∈ ops → ∀ i, sent i = true
  alive : .onListenerDied ∉ ops

theorem Reliable.of_concat {ops : List Op} {op : Op} (h : Reliable room (ops ++ [op])) : Reliable room ops :=
  ⟨h.room, fun op sent hMem => h.sent op sent (List.mem_append_left _ hMem),
    fun hMem => h.alive (List.mem_append_left _ hMem)⟩

theorem request_of_room (hRoom : ∀ content, room content = true) (code : AppStateSubscriberInterfaceCode)
    (arguments : List (List β)) :
    ∃ request, AppStateSubscriberProxy.request format room code arguments = some request := by
  simp [AppStateSubscriberProxy.request, Codec.append_of_room hRoom]

theorem call_of_room (hRoom : ∀ content, room content = true) (call : SubscriberCall) :
    ∃ request, AppStateSubscriberProxy.call format room call = some request := by
  cases call <;> exact request_of_room hRoom _ _

theorem filterMap_sendAll_of_room (hRoom : ∀ content, room content = true) {sent : Nat → Bool}
    (hSent : ∀ i, sent i = true) (calls : List SubscriberCall) :
    (sendAll format room calls sent).filterMap (received format codes) = calls := by
  induction calls generalizing sent with
  | nil => rfl
  | cons call calls ih =>
      obtain ⟨request, hRequest⟩ := @call_of_room β ω format room hRoom call
      rw [sendAll, if_pos (hSent 0), List.filterMap_append, ih fun i => hSent (i + 1), hRequest]
      simp [received, onRemoteRequest_call hRequest]

theorem isOneWay_of_oneWayCall {output : Output} {call : SubscriberCall}
    (h : oneWayCall object output = some call) : isOneWay call = true := by
  cases output with
  | told subscriber message =>
      rw [oneWayCall] at h
      split_ifs at h
      obtain rfl := Option.some.inj h
      cases message <;> rfl
  | connection output =>
      cases output with
      | onConnected connected =>
          rw [oneWayCall] at h
          split_ifs at h
          obtain rfl := Option.some.inj h
          rfl
      | _ => cases h
  | wrote write done => cases h

/-- The listener is there, and what is on its way travels one way. -/
structure Arriving (format : ParcelFormat β ω) (codes : IpcCodes) (s : SubscriberLink β) : Prop where
  alive : s.isListenerAlive = true
  oneWay : ∀ call ∈ pending format codes s, isOneWay call = true

theorem step_reliable {op : Op} (hRoom : ∀ content, room content = true)
    (hSent : ∀ manager sent, op = .manager manager sent → ∀ i, sent i = true) (hAlive : op ≠ .onListenerDied)
    (h : Arriving format codes s) :
    Arriving format codes (step format room codes object s op).1 ∧
      (step format room codes object s op).2.filter isOneWay ++
          pending format codes (step format room codes object s op).1 =
        pending format codes s ++ newCalls object s op := by
  cases op with
  | manager op sent =>
      have hNew := @filterMap_sendAll_of_room β ω format room codes hRoom sent (hSent op sent rfl)
        ((PurgeableMemManager.step s.manager op).2.filterMap (oneWayCall object))
      have hPending : pending format codes (step format room codes object s (.manager op sent)).1 =
          pending format codes s ++ newCalls object s (.manager op sent) := by
        rw [step, pending]
        dsimp only
        rw [List.filterMap_append, hNew]
        rfl
      refine ⟨⟨h.alive, ?_⟩, ?_⟩
      · intro call hCall
        rw [hPending] at hCall
        rcases List.mem_append.mp hCall with hOld | hCall
        · exact h.oneWay call hOld
        · obtain ⟨output, -, hOutput⟩ := List.mem_filterMap.mp hCall
          exact isOneWay_of_oneWayCall hOutput
      · rw [hPending, step]
        dsimp only
        rw [filter_forward_nil (filter_waiting _), List.nil_append]
  | deliver =>
      rw [newCalls, List.append_nil, step]
      cases hInFlight : s.inFlight with
      | nil => exact ⟨h, rfl⟩
      | cons request inFlight =>
          have hAll := h.oneWay
          rw [pending_cons hInFlight] at hAll ⊢
          have hFirst : (received format codes request).toList.filter isOneWay =
              (received format codes request).toList :=
            List.filter_eq_self.mpr fun call hCall => hAll call (List.mem_append_left _ hCall)
          refine ⟨⟨h.alive, fun call hCall => hAll call (List.mem_append_right _ hCall)⟩, ?_⟩
          dsimp only
          rw [forward, if_pos h.alive, hFirst]
  | onListenerDied => exact absurd rfl hAlive

/-- If nothing goes wrong the listener is called with everything, or it is on its way. -/
theorem calls_reliable {ops : List Op} (h : Reliable room ops) :
    Arriving format codes (run format room codes object ops) ∧
      (calls format room codes object ops).filter isOneWay ++
          pending format codes (run format room codes object ops) =
        (PurgeableMemManager.told (managerOps ops)).filterMap (oneWayCall object) := by
  induction ops using List.reverseRecOn with
  | nil => exact ⟨⟨rfl, by simp [pending, init]⟩, rfl⟩
  | append_singleton ops op ih =>
      obtain ⟨hArriving, hSame⟩ := ih h.of_concat
      have hAlive : op ≠ .onListenerDied := by
        rintro rfl
        exact h.alive (by simp)
      have hSent : ∀ manager sent, op = .manager manager sent → ∀ i, sent i = true := by
        rintro manager sent rfl
        exact h.sent manager sent (by simp)
      obtain ⟨hNext, hStep⟩ := @step_reliable β ω format room codes object _ op h.room hSent hAlive hArriving
      rw [@oneWay_concat β ω format room codes object, calls, Transducer.outputs_concat, run,
        Transducer.finalState_concat, List.filter_append, List.append_assoc, ← hSame]
      refine ⟨hNext, ?_⟩
      rw [hStep, List.append_assoc]

/-- The change of a state that a listener is called with. -/
def changeReceived : SubscriberCall → Option (Int32 × Int32 × Int32)
  | .onAppStateChanged pid uid state => some (pid, uid, state)
  | _ => none

/-- A change as it is sent. -/
def asSent : Int × Int × Int → Int32 × Int32 × Int32
  | (pid, uid, state) => (.ofInt pid, .ofInt uid, .ofInt state)

theorem filterMap_oneWay (calls : List SubscriberCall) :
    (calls.filter isOneWay).filterMap changeReceived = calls.filterMap changeReceived := by
  rw [List.filterMap_filter]
  congr 1
  funext call
  cases call <;> rfl

theorem filterMap_changeReceived (outputs : List Output) :
    (outputs.filterMap (oneWayCall object)).filterMap changeReceived =
      ((toldTo object outputs).filterMap PurgeableMemManager.changeTold).map asSent := by
  rw [toldTo, List.filterMap_filterMap, List.filterMap_filterMap, List.map_filterMap]
  congr 1
  funext output
  cases output with
  | told subscriber message =>
      by_cases hObject : subscriber.asObject = some object
      · dsimp only
        rw [oneWayCall, if_pos hObject, if_pos hObject]
        cases message <;> rfl
      · dsimp only
        rw [oneWayCall, if_neg hObject, if_neg hObject]
        rfl
  | connection output =>
      cases output with
      | onConnected connected =>
          rw [oneWayCall]
          split_ifs <;> rfl
      | _ => rfl
  | wrote write done => rfl

/-- Whatever is lost or held up, the listener is called of changes only that were asked for, in the order
of the calls and of each at most once; and if nothing is lost it is called with everything that its
object was told, in order, but for what is still on its way. -/
theorem listener_calls (format : ParcelFormat β ω) (room : List β → Bool) (codes : IpcCodes)
    (object : RemoteObject) (ops : List Op) :
    ((calls format room codes object ops).filterMap changeReceived).Sublist
        (((managerOps ops).filterMap PurgeableMemManager.changeAsked).map asSent) ∧
      (Reliable room ops →
        (calls format room codes object ops).filter isOneWay ++
            pending format codes (run format room codes object ops) =
          (PurgeableMemManager.told (managerOps ops)).filterMap (oneWayCall object)) := by
  refine ⟨?_, fun h => (calls_reliable h).2⟩
  have hArrived := (List.sublist_append_left _ _).trans
    (@calls_sublist β ω format room codes object ops)
  have hChanges := hArrived.filterMap changeReceived
  rw [filterMap_oneWay, filterMap_changeReceived] at hChanges
  exact hChanges.trans ((PurgeableMemManager.changesTold_sublist (managerOps ops) object).map asSent)

def someCodes : IpcCodes where
  errNullObject := 1
  errFlattenObject := 2
  errInvalidData := 3
  errInvalidState := 4
  ipcProxyErr := 5
  ipcStubErr := 6
  unknownTransaction := 7
  errNullObject_ne := by decide
  errFlattenObject_ne := by decide
  errInvalidData_ne := by decide
  errInvalidState_ne := by decide
  ipcProxyErr_ne := by decide
  ipcStubErr_ne := by decide
  unknownTransaction_ne := by decide

/-- One of three subscribers, with its first message delivered. -/
def linked : List Op :=
  (PurgeableMemManager.connected ++ PurgeableMemManager.changed).map (fun op => .manager op fun _ => true) ++
    [.deliver]

theorem reliable_linked : Reliable (fun _ : List UInt8 => true) linked where
  room _ := rfl
  sent op sent hMem i := by
    rcases List.mem_append.mp hMem with hManager | hDeliver
    · obtain ⟨op', -, hSame⟩ := List.mem_map.mp hManager
      obtain ⟨-, rfl⟩ := Op.manager.inj hSame
      rfl
    · cases List.mem_singleton.mp hDeliver
  alive hMem := by
    rcases List.mem_append.mp hMem with hManager | hDeliver
    · obtain ⟨op', -, hSame⟩ := List.mem_map.mp hManager
      cases hSame
    · cases List.mem_singleton.mp hDeliver

theorem listener_calls_linked :
    (calls ByteParcel.format (fun _ => true) someCodes 1 linked).filter isOneWay ++
        pending ByteParcel.format someCodes (run ByteParcel.format (fun _ => true) someCodes 1 linked) =
      [.onConnected, .forceReclaim 10 2000, .onAppStateChanged 10 2000 4] := by
  refine ((listener_calls ByteParcel.format (fun _ => true) someCodes 1 linked).2 reliable_linked).trans ?_
  decide

end SubscriberLink
end MemMgr
