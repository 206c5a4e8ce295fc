import Std.Data.ExtTreeSet
import MemMgr.Library.Transducer

/-! The subscribers of `PurgeableMemManager`. A subscription is posted to the handler and
carried out there. An end of one is carried out at once, on the thread of the call. -/
namespace MemMgr

open Std (ExtTreeSet)

def purgeableSubscriberMaxNum : Nat := 100

/-- What a remote object is compared by. -/
abbrev RemoteObject := Nat

/-- A proxy, which is only compared by the object behind it. -/
structure IAppStateSubscriber where
  asObject : Option RemoteObject
  deriving DecidableEq

/-- What `GetTokenTypeFlag` answers for a caller. -/
inductive ATokenType where
  | tokenNative
  | tokenShell
  | other
  deriving DecidableEq

inductive SubscriberTask where
  | addSubscriberInner (subscriber : IAppStateSubscriber)
  | onRemoteSubscriberDiedInner (object : Option RemoteObject)
  deriving DecidableEq

/-- The tasks of the handler that concern subscribers, the next one first. -/
structure AppStateSubscribers where
  initialized : Bool
  appStateSubscribers : List IAppStateSubscriber
  /-- The objects that have a death recipient. -/
  subscriberRecipients : ExtTreeSet RemoteObject
  handler : List SubscriberTask

namespace AppStateSubscribers

/-- What callers and subscribers are told. -/
inductive Output where
  | returned (code : Int)
  | addDeathRecipient (object : RemoteObject)
  | removeDeathRecipient (object : RemoteObject)
  | onConnected (object : RemoteObject)
  | onDisconnected (object : RemoteObject)
  deriving DecidableEq

/-- A call, a death notice, or the handler taking its next task, with memory for a
recipient or not. -/
inductive Op where
  | subscribeAppState (token : ATokenType) (subscriber : Option IAppStateSubscriber)
  | unsubscribeAppState (token : ATokenType) (subscriber : Option IAppStateSubscriber)
  | onRemoteSubscriberDied (object : Option RemoteObject)
  | runTask (makeRecipient : Bool)

def init : AppStateSubscribers := ⟨true, [], ∅, []⟩

def checkCallingToken (token : ATokenType) : Bool := token = .tokenNative ∨ token = .tokenShell

variable (m : AppStateSubscribers)

def addSubscriberInner (makeRecipient : Bool) (subscriber : IAppStateSubscriber) :
    AppStateSubscribers × List Output :=
  match subscriber.asObject with
  | none => (m, [])
  | some remoteObj =>
      if m.appStateSubscribers.any fun target => target.asObject = remoteObj then (m, [])
      else if m.appStateSubscribers.length ≥ purgeableSubscriberMaxNum then (m, [])
      else
        let m := { m with appStateSubscribers := m.appStateSubscribers ++ [subscriber] }
        if remoteObj ∈ m.subscriberRecipients then (m, [])
        else if makeRecipient = false then (m, [])
        else
          ({ m with subscriberRecipients := m.subscriberRecipients.insert remoteObj },
            [.addDeathRecipient remoteObj, .onConnected remoteObj])

def removeSubscriberInner (subscriber : IAppStateSubscriber) : AppStateSubscribers × List Output :=
  match subscriber.asObject with
  | none => (m, [])
  | some remote =>
      if m.appStateSubscribers.any fun target => target.asObject = remote then
        ({ m with
            subscriberRecipients := m.subscriberRecipients.erase remote
            appStateSubscribers :=
              m.appStateSubscribers.eraseP fun target => target.asObject = remote },
          (if remote ∈ m.subscriberRecipients then [.removeDeathRecipient remote] else []) ++
            [.onDisconnected remote])
      else (m, [])

def onRemoteSubscriberDiedInner (object : Option RemoteObject) : AppStateSubscribers :=
  match object with
  | none => m
  | some objectProxy =>
      { m with
        appStateSubscribers := m.appStateSubscribers.filter fun target => target.asObject ≠ objectProxy
        subscriberRecipients := m.subscriberRecipients.erase objectProxy }

def addSubscriber (token : ATokenType) (subscriber : Option IAppStateSubscriber) : AppStateSubscribers :=
  if checkCallingToken token = false then m
  else if m.initialized = false then m
  else
    match subscriber with
    | none => m
    | some subscriber => { m with handler := m.handler ++ [.addSubscriberInner subscriber] }

def removeSubscriber (token : ATokenType) (subscriber : Option IAppStateSubscriber) :
    AppStateSubscribers × List Output :=
  if checkCallingToken token = false then (m, [])
  else if m.initialized = false then (m, [])
  else
    match subscriber with
    | none => (m, [])
    | some subscriber => m.removeSubscriberInner subscriber

/-- Death notices are posted, and their thread waits. -/
def onRemoteSubscriberDied (object : Option RemoteObject) : AppStateSubscribers :=
  match object with
  | none => m
  | some object => { m with handler := m.handler ++ [.onRemoteSubscriberDiedInner (some object)] }

def runTask (makeRecipient : Bool) : AppStateSubscribers × List Output :=
  match m.handler with
  | [] => (m, [])
  | .addSubscriberInner subscriber :: tasks =>
      addSubscriberInner { m with handler := tasks } makeRecipient subscriber
  | .onRemoteSubscriberDiedInner object :: tasks =>
      (onRemoteSubscriberDiedInner { m with handler := tasks } object, [])

/-- Both calls return 0, whatever becomes of them. -/
def step : Op → AppStateSubscribers × List Output
  | .subscribeAppState token subscriber => (m.addSubscriber token subscriber, [.returned 0])
  | .unsubscribeAppState token subscriber =>
      let (m, told) := m.removeSubscriber token subscriber
      (m, told ++ [.returned 0])
  | .onRemoteSubscriberDied object => (m.onRemoteSubscriberDied object, [])
  | .runTask makeRecipient => m.runTask makeRecipient

abbrev run (ops : List Op) : AppStateSubscribers := Transducer.finalState step init ops

def Subscribed (object : RemoteObject) : Prop :=
  ∃ target ∈ m.appStateSubscribers, target.asObject = some object

/-- A subscription of the object is still queued. -/
def Pending (object : RemoteObject) : Prop :=
  ∃ subscriber, SubscriberTask.addSubscriberInner subscriber ∈ m.handler ∧
    subscriber.asObject = some object

/-- Whether a call that is let in subscribes the object, or ends its subscription. -/
def callOf (object : RemoteObject) : Op → Option Bool
  | .subscribeAppState token subscriber =>
      if checkCallingToken token ∧ subscriber.bind (·.asObject) = some object then some true else none
  | .unsubscribeAppState token subscriber =>
      if checkCallingToken token ∧ subscriber.bind (·.asObject) = some object then some false else none
  | _ => none

/-- Whether the last call for the object subscribed it. -/
def lastCall (object : RemoteObject) (ops : List Op) : Option Bool :=
  (ops.filterMap (callOf object)).getLast?

/-- The last call ended a subscription while one was still queued. -/
def UnsubscribedTooSoon (object : RemoteObject) (ops : List Op) : Prop :=
  ∃ before op after, ops = before ++ op :: after ∧ callOf object op = some false ∧
    (∀ later ∈ after, callOf object later = none) ∧ (run before).Pending object

/-- No subscriber dies, and no task is run at the limit. -/
def BelowLimit (m : AppStateSubscribers) : Op → Prop
  | .onRemoteSubscriberDied _ => False
  | .runTask _ => m.appStateSubscribers.length < purgeableSubscriberMaxNum
  | _ => True

variable {m} {object : RemoteObject} {subscriber : IAppStateSubscriber}

/-- The subscribed objects, in order. -/
def objects (m : AppStateSubscribers) : List (Option RemoteObject) :=
  m.appStateSubscribers.map (·.asObject)

/-- An object is subscribed when one of the subscribers is reached through it. -/
theorem subscribed_iff : m.Subscribed object ↔ some object ∈ m.objects :=
  List.mem_map.symm

theorem any_iff {remote : RemoteObject} :
    (m.appStateSubscribers.any fun target => target.asObject = remote) = true ↔
      some remote ∈ m.objects := by
  simp [objects]

/-- What a task does to the list, below the limit. -/
theorem objects_addSubscriberInner (makeRecipient : Bool)
    (hLimit : m.appStateSubscribers.length < purgeableSubscriberMaxNum) :
    (m.addSubscriberInner makeRecipient subscriber).1.objects =
      if subscriber.asObject = none ∨ subscriber.asObject ∈ m.objects then m.objects
      else m.objects ++ [subscriber.asObject] := by
  rw [addSubscriberInner]
  cases hObject : subscriber.asObject with
  | none => simp
  | some remoteObj =>
      dsimp only
      by_cases hAny : some remoteObj ∈ m.objects
      · rw [if_pos (any_iff.mpr hAny), if_pos (Or.inr hAny)]
      · have hNew : ¬ (some remoteObj = none ∨ some remoteObj ∈ m.objects) := by simp [hAny]
        rw [if_neg (any_iff.not.mpr hAny), if_neg (Nat.not_le.mpr hLimit), if_neg hNew]
        split_ifs <;> simp [objects, hObject]

/-- To add a subscriber leaves the waiting tasks alone. -/
theorem addSubscriberInner_same (makeRecipient : Bool) :
    (m.addSubscriberInner makeRecipient subscriber).1.handler = m.handler ∧
      (m.addSubscriberInner makeRecipient subscriber).1.initialized = m.initialized := by
  rw [addSubscriberInner]
  split
  · exact ⟨rfl, rfl⟩
  · dsimp only
    split_ifs <;> exact ⟨rfl, rfl⟩

/-- One entry of the object is removed, and none if the subscriber has no object. -/
theorem objects_removeSubscriberInner : (m.removeSubscriberInner subscriber).1.objects =
    if subscriber.asObject = none then m.objects else m.objects.erase subscriber.asObject := by
  rw [removeSubscriberInner]
  cases hObject : subscriber.asObject with
  | none => simp
  | some remote =>
      dsimp only
      have hSome : some remote ≠ none := by simp
      by_cases hAny : some remote ∈ m.objects
      · rw [if_pos (any_iff.mpr hAny), if_neg hSome]
        rw [objects, objects, List.erase_eq_eraseP, List.eraseP_map]
        dsimp only
        congr 2
        funext target
        rw [Bool.eq_iff_iff, decide_eq_true_iff, Function.comp_apply, beq_iff_eq, eq_comm]
      · rw [if_neg (any_iff.not.mpr hAny), if_neg hSome, List.erase_of_not_mem hAny]

/-- To remove a subscriber leaves the waiting tasks alone. -/
theorem removeSubscriberInner_same : (m.removeSubscriberInner subscriber).1.handler = m.handler ∧
    (m.removeSubscriberInner subscriber).1.initialized = m.initialized := by
  rw [removeSubscriberInner]
  split
  · exact ⟨rfl, rfl⟩
  · split_ifs <;> exact ⟨rfl, rfl⟩

/-- A subscription that is let in waits for its turn at the handler. -/
theorem addSubscriber_accepted {token : ATokenType} (hToken : checkCallingToken token = true)
    (hInitialized : m.initialized = true) : m.addSubscriber token (some subscriber) =
      { m with handler := m.handler ++ [.addSubscriberInner subscriber] } := by
  simp [addSubscriber, hToken, hInitialized]

/-- An end of a subscription that is let in is carried out at once. -/
theorem removeSubscriber_accepted {token : ATokenType} (hToken : checkCallingToken token = true)
    (hInitialized : m.initialized = true) :
    m.removeSubscriber token (some subscriber) = m.removeSubscriberInner subscriber := by
  simp [removeSubscriber, hToken, hInitialized]

/-- What the calls for an object have come to: it is subscribed, or will be, when it is wanted. -/
structure Consistent (object : RemoteObject) (wanted : Prop) (m : AppStateSubscribers) : Prop where
  initialized : m.initialized = true
  nodup : m.objects.Nodup
  subscriptions : ∀ task ∈ m.handler, ∃ subscriber, task = .addSubscriberInner subscriber
  wanted : m.Subscribed object ∨ m.Pending object ↔ wanted

/-- Before any call, no one is subscribed and no one is to be. -/
theorem Consistent.init : Consistent object False init where
  initialized := rfl
  nodup := List.nodup_nil
  subscriptions := by simp [AppStateSubscribers.init]
  wanted := by simp [AppStateSubscribers.init, Subscribed, Pending]

theorem Consistent.congr {wanted wanted' : Prop} (h : Consistent object wanted m)
    (hIff : wanted ↔ wanted') : Consistent object wanted' m :=
  ⟨h.initialized, h.nodup, h.subscriptions, h.wanted.trans hIff⟩

/-- What a step makes of what is wanted for an object. -/
def wantedAfter (m : AppStateSubscribers) (object : RemoteObject) (wanted : Prop) (op : Op) : Prop :=
  match callOf object op with
  | none => wanted
  | some true => True
  | some false => m.Pending object

/-- After a call to subscribe the object will be subscribed once the handler has caught up. -/
theorem Consistent.subscribe {wanted : Prop} (h : Consistent object wanted m) (token : ATokenType)
    (subscriber : Option IAppStateSubscriber) :
    Consistent object (wantedAfter m object wanted (.subscribeAppState token subscriber))
      (m.addSubscriber token subscriber) := by
  rw [wantedAfter, callOf]
  cases hToken : checkCallingToken token with
  | false => simpa [addSubscriber, hToken] using h
  | true =>
      cases subscriber with
      | none => simpa [addSubscriber] using h
      | some subscriber =>
          have hPending : Pending { m with handler := m.handler ++ [.addSubscriberInner subscriber] } object ↔
              m.Pending object ∨ subscriber.asObject = some object := by
            simp only [Pending, List.mem_append, List.mem_singleton, SubscriberTask.addSubscriberInner.injEq]
            grind
          rw [addSubscriber_accepted hToken h.initialized]
          refine ⟨h.initialized, h.nodup, ?_, ?_⟩
          · intro task hTask
            rcases List.mem_append.mp hTask with hOld | hNew
            · exact h.subscriptions task hOld
            · exact ⟨subscriber, List.mem_singleton.mp hNew⟩
          · rw [hPending, ← or_assoc]
            by_cases hObject : subscriber.asObject = some object
            · simp [hObject]
            · simp only [Option.bind_some, hObject, and_false, ↓reduceIte, or_false]
              exact h.wanted

/-- After a call to unsubscribe without a waiting subscription the object stays out. -/
theorem Consistent.unsubscribe {wanted : Prop} (h : Consistent object wanted m) (token : ATokenType)
    (subscriber : Option IAppStateSubscriber) :
    Consistent object (wantedAfter m object wanted (.unsubscribeAppState token subscriber))
      (m.removeSubscriber token subscriber).1 := by
  rw [wantedAfter, callOf]
  cases hToken : checkCallingToken token with
  | false => simpa [removeSubscriber, hToken] using h
  | true =>
      cases subscriber with
      | none => simpa [removeSubscriber] using h
      | some subscriber =>
          rw [removeSubscriber_accepted hToken h.initialized]
          obtain ⟨hHandler, hInitialized⟩ := @removeSubscriberInner_same m subscriber
          have hObjects := @objects_removeSubscriberInner m subscriber
          have hPending : (m.removeSubscriberInner subscriber).1.Pending object ↔ m.Pending object := by
            rw [Pending, Pending, hHandler]
          refine ⟨hInitialized.trans h.initialized, ?_, hHandler ▸ h.subscriptions, ?_⟩
          · rw [hObjects]
            split_ifs
            · exact h.nodup
            · exact h.nodup.erase _
          · rw [hPending, subscribed_iff, hObjects]
            by_cases hObject : subscriber.asObject = some object
            · simp [hObject, h.nodup.mem_erase_iff]
            · simp only [Option.bind_some, hObject, and_false, ↓reduceIte]
              rw [← h.wanted, subscribed_iff]
              split_ifs
              · rfl
              · rw [h.nodup.mem_erase_iff]
                simp [Ne.symm hObject]

/-- A turn of the handler carries out one subscription and keeps what is to be. -/
theorem Consistent.runTask {wanted : Prop} (h : Consistent object wanted m) (makeRecipient : Bool)
    (hLimit : m.appStateSubscribers.length < purgeableSubscriberMaxNum) :
    Consistent object wanted (m.runTask makeRecipient).1 := by
  rw [AppStateSubscribers.runTask]
  cases hHandler : m.handler with
  | nil => exact h
  | cons task tasks =>
      obtain ⟨subscriber, rfl⟩ := h.subscriptions task (by simp [hHandler])
      dsimp only
      obtain ⟨hSame, hInitialized⟩ := @addSubscriberInner_same { m with handler := tasks } subscriber
        makeRecipient
      have hObjects := @objects_addSubscriberInner { m with handler := tasks } subscriber makeRecipient
        hLimit
      have hPending : m.Pending object ↔ subscriber.asObject = some object ∨
          Pending (addSubscriberInner { m with handler := tasks } makeRecipient subscriber).1 object := by
        simp only [Pending, hHandler, hSame, List.mem_cons, SubscriberTask.addSubscriberInner.injEq]
        grind
      refine ⟨hInitialized.trans h.initialized, ?_, ?_, ?_⟩
      · rw [hObjects]
        split_ifs with hKnown
        · exact h.nodup
        · rw [not_or] at hKnown
          have hNew : subscriber.asObject ∉ objects { m with handler := tasks } := hKnown.2
          rw [List.nodup_append]
          exact ⟨h.nodup, by simp, by grind⟩
      · intro task hTask
        rw [hSame] at hTask
        exact h.subscriptions task (by simp [hHandler, show task ∈ tasks from hTask])
      · rw [← h.wanted, hPending, subscribed_iff, subscribed_iff, hObjects]
        change _ ↔ some object ∈ objects { m with handler := tasks } ∨ _
        split_ifs with hKnown
        · grind
        · rw [List.mem_append, List.mem_singleton]
          grind

/-- Every operation within the limits keeps the subscribers in line with the last calls. -/
theorem Consistent.step {wanted : Prop} (h : Consistent object wanted m) (op : Op)
    (hAllowed : BelowLimit m op) : Consistent object (wantedAfter m object wanted op) (step m op).1 := by
  cases op with
  | subscribeAppState token subscriber => exact h.subscribe token subscriber
  | unsubscribeAppState token subscriber => exact h.unsubscribe token subscriber
  | onRemoteSubscriberDied died => cases hAllowed
  | runTask makeRecipient => exact h.runTask makeRecipient hAllowed

/-- The last call of a longer history is the new one if it concerns the object. -/
theorem lastCall_concat (ops : List Op) (op : Op) : lastCall object (ops ++ [op]) =
    match callOf object op with
    | none => lastCall object ops
    | some call => some call := by
  rw [lastCall, List.filterMap_append, lastCall]
  cases hCall : callOf object op <;> simp [hCall]

/-- A call to unsubscribe comes too soon just when a subscription is still waiting. -/
theorem unsubscribedTooSoon_concat (ops : List Op) (op : Op) :
    UnsubscribedTooSoon object (ops ++ [op]) ↔
      match callOf object op with
      | none => UnsubscribedTooSoon object ops
      | some true => False
      | some false => (run ops).Pending object := by
  constructor
  · rintro ⟨before, call, after, hOps, hCall, hLater, hPending⟩
    rcases List.eq_nil_or_concat after with rfl | ⟨rest, last, rfl⟩
    · obtain ⟨rfl, hLast⟩ := List.append_inj' hOps rfl
      rw [(List.cons.inj hLast).1, hCall]
      exact hPending
    · have hSplit : ops ++ [op] = (before ++ call :: rest) ++ [last] := by
        simpa using hOps
      obtain ⟨rfl, hLast⟩ := List.append_inj' hSplit rfl
      rw [(List.cons.inj hLast).1, hLater last (by simp)]
      exact ⟨before, call, rest, rfl, hCall, fun later hMem => hLater later (by simp [hMem]), hPending⟩
  · intro h
    cases hCall : callOf object op with
    | none =>
        rw [hCall] at h
        obtain ⟨before, call, after, rfl, hWas, hLater, hPending⟩ := h
        refine ⟨before, call, after ++ [op], by simp, hWas, ?_, hPending⟩
        intro later hMem
        rcases List.mem_append.mp hMem with hOld | hNew
        · exact hLater later hOld
        · rw [List.mem_singleton.mp hNew, hCall]
    | some call =>
        rw [hCall] at h
        cases call with
        | true => cases h
        | false => exact ⟨ops, op, [], rfl, hCall, by simp, h⟩

/-- One who unsubscribed too soon has asked for the end last. -/
theorem UnsubscribedTooSoon.lastCall {ops : List Op} (h : UnsubscribedTooSoon object ops) :
    AppStateSubscribers.lastCall object ops = some false := by
  obtain ⟨before, op, after, rfl, hCall, hLater, -⟩ := h
  have hNone : after.filterMap (callOf object) = [] := List.filterMap_eq_nil_iff.mpr hLater
  rw [AppStateSubscribers.lastCall, List.filterMap_append, List.filterMap_cons, hCall, hNone]
  simp

/-- What is wanted for an object: its last call, or a subscription that outlived it. -/
theorem consistent_run {ops : List Op} (hAllowed : Transducer.AllowedAll step BelowLimit init ops) :
    Consistent object (lastCall object ops = some true ∨ UnsubscribedTooSoon object ops) (run ops) := by
  induction ops using List.reverseRecOn with
  | nil =>
      apply Consistent.init.congr
      simp [lastCall, UnsubscribedTooSoon]
  | append_singleton ops op ih =>
      have hStep := (ih hAllowed.of_append).step op (hAllowed ops op (List.prefix_refl _))
      rw [run, Transducer.finalState_concat]
      apply hStep.congr
      rw [wantedAfter, lastCall_concat, unsubscribedTooSoon_concat]
      cases callOf object op with
      | none => rfl
      | some call => cases call <;> simp

/-- Once the queue is empty an object is subscribed just when its last call subscribed it, unless
that call ended a subscription that was still queued. -/
theorem subscribed_iff_lastCall_iff {ops : List Op}
    (hAllowed : Transducer.AllowedAll step BelowLimit init ops) (hDrained : (run ops).handler = []) :
    ((run ops).Subscribed object ↔ lastCall object ops = some true) ↔
      ¬ UnsubscribedTooSoon object ops := by
  have hNone : ¬ (run ops).Pending object := by simp [Pending, hDrained]
  have hWanted := (@consistent_run object ops hAllowed).wanted
  rw [or_iff_left hNone] at hWanted
  rw [hWanted]
  constructor
  · intro h hSoon
    have hTrue := h.mp (Or.inr hSoon)
    rw [hSoon.lastCall] at hTrue
    cases hTrue
  · intro hLate
    rw [or_iff_left hLate]

instance (m : AppStateSubscribers) (object : RemoteObject) : Decidable (m.Subscribed object) :=
  inferInstanceAs (Decidable (∃ target ∈ m.appStateSubscribers, _))

instance (m : AppStateSubscribers) (op : Op) : Decidable (BelowLimit m op) :=
  match op with
  | .subscribeAppState _ _ => isTrue trivial
  | .unsubscribeAppState _ _ => isTrue trivial
  | .onRemoteSubscriberDied _ => isFalse id
  | .runTask _ => inferInstanceAs (Decidable (_ < _))

/-- A client that subscribes and ends its subscription. -/
def subscribe : Op := .subscribeAppState .tokenNative (some ⟨some 7⟩)

def unsubscribe : Op := .unsubscribeAppState .tokenNative (some ⟨some 7⟩)

theorem subscribed_iff_lastCall_drained :
    ((run [subscribe, .runTask true, unsubscribe]).Subscribed 7 ↔
      lastCall 7 [subscribe, .runTask true, unsubscribe] = some true) ↔
        ¬ UnsubscribedTooSoon 7 [subscribe, .runTask true, unsubscribe] := by
  apply subscribed_iff_lastCall_iff
  · decide
  · decide

/-- The queue drains after the second call, and the client stays subscribed. -/
theorem subscribed_after_unsubscribe : ∃ ops object,
    Transducer.AllowedAll step BelowLimit init ops ∧ (run ops).handler = [] ∧
      ¬ ((run ops).Subscribed object ↔ lastCall object ops = some true) := by
  refine ⟨[subscribe, unsubscribe, .runTask true], 7, ?_⟩
  decide

end AppStateSubscribers
end MemMgr
