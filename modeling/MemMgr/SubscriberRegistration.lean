import MemMgr.AppStateSubscribers

/-! The two containers of the subscribers. The list is extended before the death recipient is made,
so the two agree as long as no recipient is missing. -/
namespace MemMgr.AppStateSubscribers

/-- What is carried out under the lock of the subscribers. -/
inductive InnerCall where
  | addSubscriberInner (makeRecipient : Bool) (subscriber : IAppStateSubscriber)
  | removeSubscriberInner (subscriber : IAppStateSubscriber)
  | onRemoteSubscriberDiedInner (object : Option RemoteObject)

variable (m : AppStateSubscribers)

def innerStep : InnerCall → AppStateSubscribers × List Output
  | .addSubscriberInner makeRecipient subscriber => m.addSubscriberInner makeRecipient subscriber
  | .removeSubscriberInner subscriber => m.removeSubscriberInner subscriber
  | .onRemoteSubscriberDiedInner object => (m.onRemoteSubscriberDiedInner object, [])

abbrev innerRun (calls : List InnerCall) : AppStateSubscribers :=
  Transducer.finalState innerStep init calls

/-- No object is held twice, and there are not too many. -/
structure Bounded : Prop where
  nodup : m.objects.Nodup
  atMost : m.appStateSubscribers.length ≤ purgeableSubscriberMaxNum

/-- Each subscribed object has its death recipient, and no other one has. -/
structure Registered : Prop extends Bounded m where
  recipients : ∀ object, object ∈ m.subscriberRecipients ↔ m.Subscribed object

/-- The subscription is not left out, or it leaves nothing behind. -/
def ConnectsOrKeeps (makeRecipient : Bool) (subscriber : IAppStateSubscriber) : Prop :=
  let (m', told) := m.addSubscriberInner makeRecipient subscriber
  (∀ object, Output.onConnected object ∉ told) →
    m'.appStateSubscribers = m.appStateSubscribers ∧ m'.subscriberRecipients = m.subscriberRecipients

/-- Registration is all or nothing throughout the calls. -/
def AllOrNothing (calls : List InnerCall) : Prop :=
  (∀ before, before <+: calls → Registered (innerRun before)) ∧
    ∀ before makeRecipient subscriber,
      before ++ [.addSubscriberInner makeRecipient subscriber] <+: calls →
        ConnectsOrKeeps (innerRun before) makeRecipient subscriber

/-- The object is new, and there is room for it. -/
structure Admits (object : RemoteObject) : Prop where
  isNew : ¬ m.Subscribed object
  room : m.appStateSubscribers.length < purgeableSubscriberMaxNum

/-- A subscription that gets as far as its death recipient finds the memory for it. -/
def RecipientMade : InnerCall → Prop
  | .addSubscriberInner makeRecipient subscriber =>
      ∀ object, subscriber.asObject = some object → m.Admits object → makeRecipient = true
  | _ => True

variable {m} {object : RemoteObject} {subscriber : IAppStateSubscriber} {makeRecipient : Bool}

theorem addSubscriberInner_refused
    (h : ∀ object, subscriber.asObject = some object → ¬ m.Admits object) :
    m.addSubscriberInner makeRecipient subscriber = (m, []) := by
  rw [addSubscriberInner]
  cases hObject : subscriber.asObject with
  | none => rfl
  | some remoteObj =>
      dsimp only
      by_cases hKnown : m.Subscribed remoteObj
      · rw [if_pos (any_iff.mpr (subscribed_iff.mp hKnown))]
      · have hFull : m.appStateSubscribers.length ≥ purgeableSubscriberMaxNum :=
          Nat.not_lt.mp fun hRoom => h remoteObj hObject ⟨hKnown, hRoom⟩
        rw [if_neg (any_iff.not.mpr (subscribed_iff.not.mp hKnown)), if_pos hFull]

theorem addSubscriberInner_admitted (hObject : subscriber.asObject = some object)
    (hAdmits : m.Admits object) : m.addSubscriberInner makeRecipient subscriber =
      if object ∈ m.subscriberRecipients ∨ makeRecipient = false then
        ({ m with appStateSubscribers := m.appStateSubscribers ++ [subscriber] }, [])
      else
        ({ m with
            appStateSubscribers := m.appStateSubscribers ++ [subscriber]
            subscriberRecipients := m.subscriberRecipients.insert object },
          [.addDeathRecipient object, .onConnected object]) := by
  rw [addSubscriberInner, hObject]
  dsimp only
  rw [if_neg (any_iff.not.mpr (subscribed_iff.not.mp hAdmits.isNew)),
    if_neg (Nat.not_le.mpr hAdmits.room)]
  by_cases hRecipient : object ∈ m.subscriberRecipients
  · rw [if_pos hRecipient, if_pos (Or.inl hRecipient)]
  · simp only [hRecipient, ↓reduceIte, false_or]

/-- The two ways a subscription goes. -/
theorem refused_or_admitted (m : AppStateSubscribers) (subscriber : IAppStateSubscriber) :
    (∀ object, subscriber.asObject = some object → ¬ m.Admits object) ∨
      ∃ object, subscriber.asObject = some object ∧ m.Admits object := by
  by_cases hAdmitted : ∃ object, subscriber.asObject = some object ∧ m.Admits object
  · exact Or.inr hAdmitted
  · refine Or.inl fun object hObject hAdmits => hAdmitted ⟨object, hObject, hAdmits⟩

/-- What is left of a subscription that is ended. -/
theorem removeSubscriberInner_subscribed (hObject : subscriber.asObject = some object)
    (hKnown : m.Subscribed object) : (m.removeSubscriberInner subscriber).1.subscriberRecipients =
      m.subscriberRecipients.erase object := by
  rw [removeSubscriberInner, hObject]
  dsimp only
  rw [if_pos (any_iff.mpr (subscribed_iff.mp hKnown))]

theorem removeSubscriberInner_unknown
    (h : ∀ object, subscriber.asObject = some object → ¬ m.Subscribed object) :
    m.removeSubscriberInner subscriber = (m, []) := by
  rw [removeSubscriberInner]
  cases hObject : subscriber.asObject with
  | none => rfl
  | some remote =>
      dsimp only
      rw [if_neg (any_iff.not.mpr (subscribed_iff.not.mp (h remote hObject)))]

theorem mem_erase_iff {recipients : Std.ExtTreeSet RemoteObject} {other : RemoteObject} :
    other ∈ recipients.erase object ↔ other ≠ object ∧ other ∈ recipients := by
  rw [Std.ExtTreeSet.mem_erase, ne_eq, Std.LawfulEqCmp.compare_eq_iff_eq, ne_eq, eq_comm]

namespace Bounded

theorem length_objects : m.objects.length = m.appStateSubscribers.length := List.length_map _

/-- Extended by a subscriber that is admitted, whatever becomes of its recipient. -/
theorem admitted (h : Bounded m) (hObject : subscriber.asObject = some object) (hAdmits : m.Admits object)
    {m' : AppStateSubscribers}
    (hExtended : m'.appStateSubscribers = m.appStateSubscribers ++ [subscriber]) : Bounded m' := by
  constructor
  · rw [objects, hExtended, List.map_append, List.nodup_append]
    refine ⟨h.nodup, by simp, ?_⟩
    intro known hKnown added hAdded hSame
    rw [List.map_singleton, List.mem_singleton, hObject] at hAdded
    rw [hSame, hAdded] at hKnown
    exact hAdmits.isNew (subscribed_iff.mpr hKnown)
  · rw [hExtended, List.length_append]
    exact hAdmits.room

/-- A smaller list stays bounded. -/
theorem sublist (h : Bounded m) {m' : AppStateSubscribers} (hLess : m'.objects.Sublist m.objects) :
    Bounded m' := by
  refine ⟨h.nodup.sublist hLess, ?_⟩
  rw [← length_objects]
  exact Nat.le_trans hLess.length_le (length_objects ▸ h.atMost)

end Bounded

theorem objects_removeSubscriberInner_sublist :
    (m.removeSubscriberInner subscriber).1.objects.Sublist m.objects := by
  rw [objects_removeSubscriberInner]
  split_ifs
  · exact List.Sublist.refl _
  · exact List.erase_sublist

theorem objects_onRemoteSubscriberDiedInner :
    (m.onRemoteSubscriberDiedInner (some object)).objects =
      m.objects.filter fun target => target ≠ some object := by
  rw [objects, objects, List.filter_map]
  rfl

theorem Bounded.step (h : Bounded m) (call : InnerCall) : Bounded (innerStep m call).1 := by
  cases call with
  | addSubscriberInner makeRecipient subscriber =>
      rw [innerStep]
      rcases refused_or_admitted m subscriber with hRefused | ⟨object, hObject, hAdmits⟩
      · rw [addSubscriberInner_refused hRefused]
        exact h
      · rw [addSubscriberInner_admitted hObject hAdmits]
        split_ifs <;> exact h.admitted hObject hAdmits rfl
  | removeSubscriberInner subscriber => exact h.sublist objects_removeSubscriberInner_sublist
  | onRemoteSubscriberDiedInner died =>
      cases died with
      | none => exact h
      | some object =>
          apply h.sublist
          rw [innerStep, objects_onRemoteSubscriberDiedInner]
          exact List.filter_sublist

/-- The bounds on the subscribers hold in every run, whether or not recipients were made. -/
theorem bounded_innerRun (calls : List InnerCall) : Bounded (innerRun calls) := by
  apply Transducer.state_invariant
  · exact ⟨List.nodup_nil, Nat.zero_le _⟩
  · exact fun m call h => h.step call

namespace Registered

theorem init : Registered init where
  nodup := List.nodup_nil
  atMost := Nat.zero_le _
  recipients object := by simp [AppStateSubscribers.init, Subscribed]

theorem addSubscriberInner (h : Registered m)
    (hMade : RecipientMade m (.addSubscriberInner makeRecipient subscriber)) :
    Registered (m.addSubscriberInner makeRecipient subscriber).1 := by
  have hBounded := h.toBounded.step (.addSubscriberInner makeRecipient subscriber)
  refine ⟨hBounded, fun other => ?_⟩
  rcases refused_or_admitted m subscriber with hRefused | ⟨object, hObject, hAdmits⟩
  · rw [addSubscriberInner_refused hRefused]
    exact h.recipients other
  · have hProceeds : ¬ (object ∈ m.subscriberRecipients ∨ makeRecipient = false) := by
      rw [h.recipients, hMade object hObject hAdmits]
      simp [hAdmits.isNew]
    rw [addSubscriberInner_admitted hObject hAdmits, if_neg hProceeds]
    dsimp only
    rw [Std.ExtTreeSet.mem_insert, h.recipients, subscribed_iff, subscribed_iff, objects, objects,
      List.map_append, List.mem_append, List.map_singleton, List.mem_singleton, hObject]
    rw [Std.LawfulEqCmp.compare_eq_iff_eq, Option.some_inj]
    tauto

theorem removeSubscriberInner (h : Registered m) :
    Registered (m.removeSubscriberInner subscriber).1 := by
  have hBounded := h.toBounded.step (.removeSubscriberInner subscriber)
  refine ⟨hBounded, fun other => ?_⟩
  by_cases hKnown : ∃ object, subscriber.asObject = some object ∧ m.Subscribed object
  · obtain ⟨object, hObject, hSubscribed⟩ := hKnown
    rw [removeSubscriberInner_subscribed hObject hSubscribed, mem_erase_iff, h.recipients,
      subscribed_iff, subscribed_iff, objects_removeSubscriberInner, hObject,
      if_neg (Option.some_ne_none object), h.nodup.mem_erase_iff, ne_eq, ne_eq, Option.some_inj]
  · rw [removeSubscriberInner_unknown fun object hObject hSubscribed =>
      hKnown ⟨object, hObject, hSubscribed⟩]
    exact h.recipients other

theorem onRemoteSubscriberDiedInner (h : Registered m) (died : Option RemoteObject) :
    Registered (m.onRemoteSubscriberDiedInner died) := by
  have hBounded := h.toBounded.step (.onRemoteSubscriberDiedInner died)
  refine ⟨hBounded, fun other => ?_⟩
  cases died with
  | none => exact h.recipients other
  | some object =>
      rw [subscribed_iff, objects_onRemoteSubscriberDiedInner, List.mem_filter, ← subscribed_iff,
        ← h.recipients, AppStateSubscribers.onRemoteSubscriberDiedInner]
      dsimp only
      rw [mem_erase_iff, and_comm, decide_eq_true_iff, ne_eq, ne_eq, Option.some_inj]

theorem step (h : Registered m) (call : InnerCall) (hMade : RecipientMade m call) :
    Registered (innerStep m call).1 := by
  cases call with
  | addSubscriberInner makeRecipient subscriber => exact h.addSubscriberInner hMade
  | removeSubscriberInner subscriber => exact h.removeSubscriberInner
  | onRemoteSubscriberDiedInner died => exact h.onRemoteSubscriberDiedInner died

end Registered

/-- Short of its recipient the subscriber stays in the list, and is told nothing. -/
theorem connectsOrKeeps_iff (h : Registered m) : ConnectsOrKeeps m makeRecipient subscriber ↔
    RecipientMade m (.addSubscriberInner makeRecipient subscriber) := by
  rw [ConnectsOrKeeps, RecipientMade]
  rcases refused_or_admitted m subscriber with hRefused | ⟨object, hObject, hAdmits⟩
  · rw [addSubscriberInner_refused hRefused]
    constructor
    · exact fun _ object hObject hAdmits => absurd hAdmits (hRefused object hObject)
    · exact fun _ _ => ⟨rfl, rfl⟩
  · have hNoRecipient : object ∉ m.subscriberRecipients := by
      rw [h.recipients]
      exact hAdmits.isNew
    rw [addSubscriberInner_admitted hObject hAdmits]
    simp only [hNoRecipient, false_or]
    cases makeRecipient with
    | false =>
        constructor
        · intro hKeeps
          have hSame := (hKeeps (by simp)).1
          simp at hSame
        · intro hMade
          exact absurd (hMade object hObject hAdmits) (by simp)
    | true =>
        constructor
        · exact fun _ _ _ _ => rfl
        · intro _ hSilent
          exact absurd (hSilent object) (by simp)

theorem registered_innerRun {calls : List InnerCall}
    (hMade : Transducer.AllowedAll innerStep RecipientMade init calls) :
    Registered (innerRun calls) := by
  induction calls using List.reverseRecOn with
  | nil => exact .init
  | append_singleton calls call ih =>
      rw [innerRun, Transducer.finalState_concat]
      exact (ih hMade.of_append).step call (hMade calls call (List.prefix_refl _))

/-- Registration is all or nothing in just the runs whose subscriptions get their recipients. The
list holds no object twice and stays within its limit in every run. -/
theorem allOrNothing_iff (calls : List InnerCall) :
    (AllOrNothing calls ↔ Transducer.AllowedAll innerStep RecipientMade init calls) ∧
      Bounded (innerRun calls) := by
  refine ⟨?_, bounded_innerRun calls⟩
  constructor
  · rintro ⟨hRegistered, hKeeps⟩ before call hPrefix
    cases call with
    | addSubscriberInner makeRecipient subscriber =>
        have hBefore := hRegistered before ((List.prefix_append before _).trans hPrefix)
        exact (connectsOrKeeps_iff hBefore).mp (hKeeps before makeRecipient subscriber hPrefix)
    | removeSubscriberInner subscriber => trivial
    | onRemoteSubscriberDiedInner died => trivial
  · intro hMade
    have hRegistered : ∀ before, before <+: calls → Registered (innerRun before) := by
      intro before hPrefix
      apply registered_innerRun
      exact fun first call hFirst => hMade first call (hFirst.trans hPrefix)
    refine ⟨hRegistered, fun before makeRecipient subscriber hPrefix => ?_⟩
    have hBefore := hRegistered before ((List.prefix_append before _).trans hPrefix)
    exact (connectsOrKeeps_iff hBefore).mpr (hMade before _ hPrefix)

/-- One subscription for which there is no memory. -/
theorem not_allOrNothing_noMemory : ∃ calls, ¬ AllOrNothing calls := by
  refine ⟨[.addSubscriberInner false ⟨some 7⟩], fun hAll => ?_⟩
  have hKeeps := hAll.2 [] false ⟨some 7⟩ (List.prefix_refl _)
  have hSame := (hKeeps fun _ hTold => absurd hTold List.not_mem_nil).1
  exact absurd hSame (by decide)

end MemMgr.AppStateSubscribers
