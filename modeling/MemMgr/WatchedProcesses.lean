import MemMgr.StatusNotices
import MemMgr.SystemNotifications

/-! A process as the system tells of it, and what the manager knows of it behind the observers and
the handler. Once nothing about the process waits at the handler, the two are the same. -/
namespace MemMgr

open Std (ExtTreeMap)
open Execution ReclaimPriorityManager WindowVisibilityObserver

/-- A process whose notifications are taken in at once. -/
structure WatchedProcess where
  told : ProcessStatus
  windows : Finset Nat
  deriving DecidableEq

namespace WatchedProcess

/-- The status of a watched process: visible while it shows a window, and else what it was
told last. -/
def status (watched : WatchedProcess) : ProcessStatus :=
  { watched.told with isVisible := decide watched.windows.Nonempty }

def hear : StatusNotice → Option WatchedProcess → Option WatchedProcess
  | .created, watched => some (watched.getD ⟨.untold, ∅⟩)
  | .event reason, watched => watched.map fun known => { known with told := known.told.told reason }
  | .linked, watched => watched.map fun known => { known with told := known.told.linked }
  | .gone, _ => none

def heard : Option StatusNotice → Option WatchedProcess → Option WatchedProcess
  | none, watched => watched
  | some notice, watched => hear notice watched

/-- A process that is not there shows nothing. -/
def shown (watched : Option WatchedProcess) : Finset Nat := (watched.map windows).getD ∅

end WatchedProcess

namespace StatusNotice

/-- What a request has to tell a process. -/
def meant (process : Int × Int) (request : UpdateRequest) : Option StatusNotice :=
  if process = (request.target.pid, request.target.uid) then
    match request.reason with
    | .createProcess => some .created
    | .renderCreateProcess => none
    | .abilityStart => none
    | .bindExtension => some .linked
    | .unbindExtension => some .linked
    | reason => some (.ofReason reason)
  else none

/-- The requests are heard in their order. -/
def heardAll (process : Int × Int) (requests : List UpdateRequest) (status : Option ProcessStatus) :
    Option ProcessStatus :=
  requests.foldl (fun status request => heard (meant process request) status) status

end StatusNotice

namespace ReclaimPriorityManager

/-- The manager does not skip the request: there is room for a new process, and a process that is
known is not one of the system. -/
structure Hears (s : ReclaimPriorityManager) (services : Services) (request : UpdateRequest) :
    Prop where
  room : request.reason = .createProcess → s.HasRoom services request.target
  linkable : request.reason ∈ [AppStateUpdateReason.bindExtension, .unbindExtension] →
    s.statusOf (request.target.pid, request.target.uid) ≠ none → s.Linkable services request.target
  heeds : request.reason ∉ [AppStateUpdateReason.createProcess, .renderCreateProcess, .abilityStart,
      .bindExtension, .unbindExtension] →
    s.statusOf (request.target.pid, request.target.uid) ≠ none → s.Heeds request.target.uid

instance (s : ReclaimPriorityManager) (services : Services) : DecidablePred (s.Hears services) :=
  fun request => decidable_of_iff
    ((request.reason = .createProcess → s.HasRoom services request.target) ∧
      (request.reason ∈ [AppStateUpdateReason.bindExtension, .unbindExtension] →
        s.statusOf (request.target.pid, request.target.uid) ≠ none →
          s.Linkable services request.target) ∧
      (request.reason ∉ [AppStateUpdateReason.createProcess, .renderCreateProcess, .abilityStart,
          .bindExtension, .unbindExtension] →
        s.statusOf (request.target.pid, request.target.uid) ≠ none → s.Heeds request.target.uid))
    ⟨fun h => ⟨h.1, h.2.1, h.2.2⟩, fun h => ⟨h.room, h.linkable, h.heeds⟩⟩

end ReclaimPriorityManager

/-- The process whose end is told of. -/
def SystemNotification.died : SystemNotification → Option ProcessData
  | .processDied data => some data
  | _ => none

namespace NotifiedService

/-- What is known of the process once the requests at the handler are heard. -/
def toldStatus (s : NotifiedService) (process : Int × Int) : Option ProcessStatus :=
  StatusNotice.heardAll process (s.handler.map PostedRequest.request)
    (s.service.manager.statusOf process)

/-- The process as it is after an event, if all of it is taken in at once. -/
def watch (process : Int × Int) (states : AbilityState) (watched : Option WatchedProcess) :
    Event → Option WatchedProcess
  | .notify notification _ =>
      WatchedProcess.heard ((notification.request states).bind (StatusNotice.meant process)) watched
  | .windows infos _ => watched.map fun known =>
      { known with windows := infos.reduceOption.foldl (showWindow process.1) known.windows }
  | _ => watched

/-- The system is right about the process. Its end is told with its uid, windows are shown for it
only while it is there, no check of the living misses it, and the manager does not skip what it is
told about it. No other operation takes the process away while it is still known: neither is the
manager reset, nor is the process or its bundle purged before its end has been handled. -/
def Attends (process : Int × Int) (s : NotifiedService) : Event → Prop
  | .notify notification _ => ∀ data ∈ notification.died, data.pid = process.1 →
      AppStateObserver.diedUid data = process.2
  | .windows infos _ => ∀ info ∈ infos.reduceOption, info.pid = process.1 → info.isVisible = true →
      info.uid = process.2 ∧ s.toldStatus process ≠ none
  | .checkMapSize trigger alivePids =>
      KeepsEntry process.1 s.windowVisibleMap (.checkMapSize trigger alivePids)
  | .perform services => ∀ task ∈ s.handler.head?,
      process = (task.request.target.pid, task.request.target.uid) →
        s.service.manager.Hears services task.request
  | .performImmediate _ => True
  | .other op => s.service.manager.noticeOf process op = some .gone →
      s.service.manager.statusOf process = none

instance (process : Int × Int) (s : NotifiedService) : DecidablePred (Attends process s)
  | .notify _ _ => inferInstanceAs (Decidable (∀ _ ∈ _, _))
  | .windows _ _ => inferInstanceAs (Decidable (∀ _ ∈ _, _))
  | .checkMapSize _ none => isTrue False.elim
  | .checkMapSize _ (some _) => inferInstanceAs (Decidable (_ = _ → _))
  | .perform _ => inferInstanceAs (Decidable (∀ _ ∈ _, _))
  | .performImmediate _ => isTrue trivial
  | .other _ => inferInstanceAs (Decidable (_ → _))

end NotifiedService

namespace StatusNotice

variable {process : Int × Int} {requests more : List UpdateRequest} {status : Option ProcessStatus}

theorem heardAll_append : heardAll process (requests ++ more) status =
    heardAll process more (heardAll process requests status) :=
  List.foldl_append

/-- Requests that mean nothing to the process. -/
theorem heardAll_of_quiet (hQuiet : ∀ request ∈ requests, meant process request = none) :
    heardAll process requests status = status := by
  induction requests with
  | nil => rfl
  | cons request requests ih =>
      rw [List.forall_mem_cons] at hQuiet
      rw [heardAll, List.foldl_cons, hQuiet.1]
      exact ih hQuiet.2

theorem reason_of_meant {request : UpdateRequest} {reason : AppStateUpdateReason}
    (hMeant : meant process request = some (.event reason)) : request.reason = reason := by
  rw [meant] at hMeant
  split_ifs at hMeant
  cases hReason : request.reason <;> rw [hReason] at hMeant <;> cases hMeant <;> rfl

theorem meant_abilityStart {request : UpdateRequest} (hReason : request.reason = .abilityStart) :
    meant process request = none := by
  rw [meant, hReason]
  exact ite_self none

/-- A notice may be dropped where nothing is known, unless it is of the creation. -/
theorem heard_ite {notice : StatusNotice} {accepted : Prop} [Decidable accepted]
    (hNotice : notice ≠ .created) (hKnown : status ≠ none → accepted) :
    heard (if accepted then some notice else none) status = heard (some notice) status := by
  cases status with
  | some status => rw [if_pos (hKnown (by simp))]
  | none =>
      split_ifs
      · rfl
      · exact (heard_none fun hCreated => hNotice (Option.some.inj hCreated)).symm

/-- Starts of abilities may be left out. -/
theorem heardAll_filter : heardAll process (requests.filter fun request => request.reason ≠ .abilityStart)
    status = heardAll process requests status := by
  induction requests generalizing status with
  | nil => rfl
  | cons request requests ih =>
      rw [List.filter_cons]
      split_ifs with hKept
      · exact ih
      · rw [ih, heardAll, heardAll, List.foldl_cons, meant_abilityStart (by simpa using hKept)]
        rfl

end StatusNotice

namespace ReclaimPriorityManager

variable {s : ReclaimPriorityManager} {services : Services} {request : UpdateRequest}

/-- A request that is not skipped tells its target what it means. -/
theorem Hears.heard_eq (h : s.Hears services request) :
    StatusNotice.heard (s.requestNotice services request)
        (s.statusOf (request.target.pid, request.target.uid)) =
      StatusNotice.heard (StatusNotice.meant (request.target.pid, request.target.uid) request)
        (s.statusOf (request.target.pid, request.target.uid)) := by
  rw [requestNotice, StatusNotice.meant, if_pos rfl]
  cases hReason : request.reason <;> dsimp only
  case createProcess => rw [if_pos (h.room hReason)]
  case bindExtension => exact StatusNotice.heard_ite (by simp) (h.linkable (by simp [hReason]))
  case unbindExtension => exact StatusNotice.heard_ite (by simp) (h.linkable (by simp [hReason]))
  all_goals
    apply StatusNotice.heard_ite
    · exact (by decide)
    · exact h.heeds (by simp [hReason])

end ReclaimPriorityManager

namespace WatchedProcess

variable {watched : Option WatchedProcess} {notice : Option StatusNotice}

/-- What is told of the windows stays apart from the rest. -/
theorem status_told (known : WatchedProcess) {reason : AppStateUpdateReason}
    (hVisible : reason ≠ .visible) (hUnVisible : reason ≠ .unVisible) :
    status { known with told := known.told.told reason } = known.status.told reason := by
  cases reason with
  | visible => exact absurd rfl hVisible
  | unVisible => exact absurd rfl hUnVisible
  | _ => rfl

theorem status_heard (hVisible : notice ≠ some (.event .visible))
    (hUnVisible : notice ≠ some (.event .unVisible)) :
    (heard notice watched).map status = StatusNotice.heard notice (watched.map status) := by
  cases notice with
  | none => rfl
  | some notice =>
      cases watched with
      | none => cases notice <;> rfl
      | some known =>
          cases notice with
          | event reason =>
              have hTold := @status_told known reason (fun hReason => hVisible (by rw [hReason]))
                (fun hReason => hUnVisible (by rw [hReason]))
              exact congrArg some hTold
          | _ => rfl

theorem shown_heard (hEnds : notice ≠ some .gone) : shown (heard notice watched) = shown watched := by
  cases notice with
  | none => rfl
  | some notice =>
      cases notice with
      | gone => exact absurd rfl hEnds
      | _ => cases watched <;> rfl

/-- A change of the windows, as it is reported. -/
theorem status_edge (known : WatchedProcess) (windows : Finset Nat) :
    (edge (decide known.windows.Nonempty) (decide windows.Nonempty)).foldl
        (fun status reason => StatusNotice.heard (some (.ofReason reason)) status) (some known.status) =
      some (status { known with windows }) := by
  by_cases hBefore : known.windows.Nonempty <;> by_cases hAfter : windows.Nonempty <;>
    simp [edge, status, hBefore, hAfter, StatusNotice.heard, StatusNotice.ofReason, StatusNotice.hear,
      ProcessStatus.told]

end WatchedProcess

namespace SystemNotification

variable {states : AbilityState} {process : Int × Int} {notification : SystemNotification}

/-- A notification tells of the end of a process only if it is one, and never of the windows. -/
theorem reason_of_request {made : UpdateRequest} (hMade : notification.request states = some made) :
    (∃ data, notification = .processDied data) ∨
      made.reason ∉ [AppStateUpdateReason.processTerminated, .visible, .unVisible] := by
  cases notification with
  | processDied data => exact Or.inl ⟨data, rfl⟩
  | processCreated data =>
      cases hMade
      rw [AppStateObserver.onProcessCreated]
      split_ifs <;> simp [singleRequest]
  | abilityStateChanged data =>
      rw [request, AppStateObserver.onAbilityStateChanged, AppStateObserver.stateReason] at hMade
      split_ifs at hMade <;> cases hMade <;> simp [singleRequest]
  | transientTaskStart ttInfo =>
      obtain ⟨info, -, rfl⟩ := Option.map_eq_some_iff.mp hMade
      simp [singleRequest]
  | transientTaskEnd ttInfo =>
      obtain ⟨info, -, rfl⟩ := Option.map_eq_some_iff.mp hMade
      simp [singleRequest]
  | continuousTaskStart ctInfo =>
      obtain ⟨info, -, rfl⟩ := Option.map_eq_some_iff.mp hMade
      simp [singleRequest]
  | continuousTaskStop ctInfo =>
      obtain ⟨info, -, rfl⟩ := Option.map_eq_some_iff.mp hMade
      simp [singleRequest]
  | distDevStatus pid uid name connected =>
      cases hMade
      cases connected <;> simp [MemMgrService.notifyDistDevStatus, singleRequest]
  | _ =>
      cases hMade
      simp [ExtensionConnectionObserver.onExtensionConnected, ExtensionConnectionObserver.onDlpAbilityOpened,
        ExtensionConnectionObserver.onExtensionDisconnected, ExtensionConnectionObserver.onDlpAbilityClosed,
        ExtensionConnectionObserver.onExtension, ExtensionConnectionObserver.onDlpAbility,
        MemMgrService.notifyProcessStateChangedAsync, callerRequest]

/-- No notification means to a process that its windows were shown or hidden. -/
theorem meant_event {reason : AppStateUpdateReason} (hReason : reason = .visible ∨ reason = .unVisible) :
    (notification.request states).bind (StatusNotice.meant process) ≠ some (.event reason) := by
  intro hMeant
  obtain ⟨made, hMade, hMeant⟩ := Option.bind_eq_some_iff.mp hMeant
  have hSame := StatusNotice.reason_of_meant hMeant
  rcases reason_of_request hMade with ⟨data, rfl⟩ | hNot
  · cases hMade
    rw [← hSame] at hReason
    rcases hReason with hReason | hReason <;> cases hReason
  · rw [hSame] at hNot
    rcases hReason with rfl | rfl <;> simp at hNot

theorem meant_gone (hMeant : (notification.request states).bind (StatusNotice.meant process) = some .gone) :
    ∃ data, notification = .processDied data := by
  obtain ⟨made, hMade, hMeant⟩ := Option.bind_eq_some_iff.mp hMeant
  rcases reason_of_request hMade with hDied | hNot
  · exact hDied
  · rw [StatusNotice.meant] at hMeant
    split_ifs at hMeant
    cases hReason : made.reason <;> rw [hReason] at hMeant hNot <;> cases hMeant
    simp at hNot

end SystemNotification

namespace NotifiedService

variable {platform : Platform} {states : AbilityState} {process : Int × Int} {s s' : NotifiedService}
variable {watched : Option WatchedProcess} {made : List UpdateRequest} {eventTime : Int}

/-- Several requests join the queue of their kind, in their order. -/
theorem foldl_updateReclaimPriority : made.foldl (updateReclaimPriority eventTime) s = { s with
    handler := s.handler ++
      (made.filter fun request => request.reason ≠ .abilityStart).map fun request =>
        ⟨request, eventTime⟩
    immediate := s.immediate ++
      (made.filter fun request => request.reason = .abilityStart).map fun request =>
        ⟨request, eventTime⟩ } := by
  induction made generalizing s with
  | nil => simp
  | cons request made ih =>
      rw [List.foldl_cons, ih, updateReclaimPriority]
      by_cases hReason : request.reason = .abilityStart <;> simp [hReason]

/-- Requests that are made are heard after those that wait already. -/
theorem toldStatus_posted : (made.foldl (updateReclaimPriority eventTime) s).toldStatus process =
    StatusNotice.heardAll process made (s.toldStatus process) := by
  rw [foldl_updateReclaimPriority, toldStatus, List.map_append, StatusNotice.heardAll_append,
    ← @StatusNotice.heardAll_filter process made]
  simp [toldStatus, Function.comp_def]

/-- The manager, the handler and the windows are where the process will have been watched to be. -/
structure Follows (process : Int × Int) (watched : Option WatchedProcess) (s : NotifiedService) :
    Prop where
  wellFormed : WellFormed s.service.manager
  told : s.toldStatus process = watched.map WatchedProcess.status
  settled : WindowVisibilityObserver.Settled s.windowVisibleMap
  shows : Shows s.windowVisibleMap process.1 (WatchedProcess.shown watched)
  owner : ∀ info, s.windowVisibleMap[process.1]? = some info → info.uid = process.2
  started : ∀ task ∈ s.immediate, task.request.reason = .abilityStart

/-- A change of the windows, with the requests that are made of it. -/
theorem Follows.posted (h : Follows process watched s) {after : Option WatchedProcess}
    {windowVisibleMap : WindowVisibleMap}
    (hTold : StatusNotice.heardAll process made (watched.map WatchedProcess.status) =
      after.map WatchedProcess.status)
    (hSettled : WindowVisibilityObserver.Settled windowVisibleMap)
    (hShows : Shows windowVisibleMap process.1 (WatchedProcess.shown after))
    (hOwner : ∀ info, windowVisibleMap[process.1]? = some info → info.uid = process.2) :
    Follows process after
      (made.foldl (updateReclaimPriority eventTime) { s with windowVisibleMap }) := by
  have hForm := @foldl_updateReclaimPriority { s with windowVisibleMap } made eventTime
  constructor
  · rw [hForm]
    exact h.wellFormed
  · rw [toldStatus_posted, ← hTold, ← h.told]
    rfl
  · rw [hForm]
    exact hSettled
  · rw [hForm]
    exact hShows
  · rw [hForm]
    exact hOwner
  · rw [hForm]
    intro task hTask
    rcases List.mem_append.mp hTask with hOld | hNew
    · exact h.started task hOld
    · obtain ⟨request, hRequest, rfl⟩ := List.mem_map.mp hNew
      simpa using (List.mem_filter.mp hRequest).2

/-- What a notification makes of the windows. -/
def leftWindows (windowVisibleMap : WindowVisibleMap) : SystemNotification → WindowVisibleMap
  | .processDied data => WindowVisibilityObserver.onProcessDied data.pid windowVisibleMap
  | _ => windowVisibleMap

theorem notify_eq (notification : SystemNotification) : s.notify states notification eventTime =
    ((notification.request states).toList).foldl (updateReclaimPriority eventTime)
      { s with windowVisibleMap := leftWindows s.windowVisibleMap notification } := by
  rw [notify.eq_def, foldl_updateReclaimPriority, foldl_updateReclaimPriority]
  cases notification <;> rfl

theorem heardAll_toList (request : Option UpdateRequest) (status : Option ProcessStatus) :
    StatusNotice.heardAll process request.toList status =
      StatusNotice.heard (request.bind (StatusNotice.meant process)) status := by
  cases request <;> rfl

/-- A notification that leaves the windows alone. -/
theorem Follows.notified (h : Follows process watched s) {notification : SystemNotification}
    (hWindows : leftWindows s.windowVisibleMap notification = s.windowVisibleMap)
    (hEnds : (notification.request states).bind (StatusNotice.meant process) ≠ some .gone) :
    Follows process (watch process states watched (.notify notification eventTime))
      (s.notify states notification eventTime) := by
  rw [notify_eq, hWindows]
  apply h.posted
  · rw [heardAll_toList, watch,
      WatchedProcess.status_heard (SystemNotification.meant_event (Or.inl rfl))
        (SystemNotification.meant_event (Or.inr rfl))]
  · exact h.settled
  · rw [watch, WatchedProcess.shown_heard hEnds]
    exact h.shows
  · exact h.owner

/-- A task of the observer that brings no windows leaves the process with those it has. -/
theorem Follows.looked (h : Follows process watched s) {op : WindowVisibilityObserver.Op}
    (hBrings : ∀ infos, op ≠ .updateWindowVisibilityPriorityInner infos)
    (hKeeps : KeepsEntry process.1 s.windowVisibleMap op) :
    Shows (WindowVisibilityObserver.step s.windowVisibleMap op).1 process.1
        (WatchedProcess.shown watched) ∧
      ∀ info, (WindowVisibilityObserver.step s.windowVisibleMap op).1[process.1]? = some info →
        info.uid = process.2 := by
  have hShows := (step_spec h.settled h.shows hKeeps).1
  cases op with
  | updateWindowVisibilityPriorityInner infos => exact absurd rfl (hBrings infos)
  | onProcessDied died =>
      refine ⟨hShows, fun info hInfo => h.owner info ?_⟩
      rw [WindowVisibilityObserver.step, onProcessDied, ExtTreeMap.getElem?_erase] at hInfo
      split_ifs at hInfo
      exact hInfo
  | checkMapSize trigger alivePids =>
      refine ⟨hShows, fun info hInfo => h.owner info ?_⟩
      cases alivePids with
      | none => exact hInfo
      | some alivePids =>
          dsimp only [WindowVisibilityObserver.step, checkMapSize] at hInfo
          rw [ExtTreeMap.getElem?_filter', Option.filter_eq_some_iff] at hInfo
          exact hInfo.1

/-- The end of the watched process is followed. -/
theorem Follows.died (h : Follows process watched s) {data : ProcessData} (hPid : data.pid = process.1)
    (hUid : AppStateObserver.diedUid data = process.2) :
    Follows process (watch process states watched (.notify (.processDied data) eventTime))
      (s.notify states (.processDied data) eventTime) := by
  have hMeant : StatusNotice.meant process (AppStateObserver.onProcessDied data) = some .gone := by
    rw [StatusNotice.meant, if_pos]
    · rfl
    · exact Prod.ext hPid.symm hUid.symm
  have hGone : watch process states watched (.notify (.processDied data) eventTime) = none := by
    rw [watch, SystemNotification.request, Option.bind_some, hMeant]
    rfl
  have hRemoved : (WindowVisibilityObserver.onProcessDied data.pid s.windowVisibleMap)[process.1]? = none := by
    simp [onProcessDied, hPid]
  rw [notify_eq, hGone]
  apply h.posted
  · rw [heardAll_toList, SystemNotification.request, Option.bind_some, hMeant]
    rfl
  · exact settled_step h.settled (.onProcessDied data.pid)
  · intro window
    rw [leftWindows, hRemoved]
    simp [WatchedProcess.shown]
  · intro info hInfo
    rw [leftWindows, hRemoved] at hInfo
    cases hInfo

/-- The end of another process changes nothing of the watched one. -/
theorem Follows.otherDied (h : Follows process watched s) {data : ProcessData}
    (hPid : data.pid ≠ process.1) :
    Follows process (watch process states watched (.notify (.processDied data) eventTime))
      (s.notify states (.processDied data) eventTime) := by
  have hMeant : StatusNotice.meant process (AppStateObserver.onProcessDied data) = none := by
    rw [StatusNotice.meant, if_neg]
    exact fun hSame => hPid (congrArg Prod.fst hSame).symm
  have hSame : watch process states watched (.notify (.processDied data) eventTime) = watched := by
    rw [watch, SystemNotification.request, Option.bind_some, hMeant]
    rfl
  have hKeeps : KeepsEntry process.1 s.windowVisibleMap (.onProcessDied data.pid) :=
    fun hRemoves => absurd hRemoves hPid
  obtain ⟨hShows, hOwner⟩ := h.looked (fun _ hOp => by cases hOp) hKeeps
  rw [notify_eq, hSame]
  apply h.posted
  · rw [heardAll_toList, SystemNotification.request, Option.bind_some, hMeant]
    rfl
  · exact settled_step h.settled (.onProcessDied data.pid)
  · exact hShows
  · exact hOwner

theorem Follows.notify (h : Follows process watched s) {notification : SystemNotification}
    (hAttends : Attends process s (.notify notification eventTime)) :
    Follows process (watch process states watched (.notify notification eventTime))
      (s.notify states notification eventTime) := by
  by_cases hDied : ∃ data, notification = .processDied data
  · obtain ⟨data, rfl⟩ := hDied
    by_cases hPid : data.pid = process.1
    · exact h.died hPid (hAttends data rfl hPid)
    · exact h.otherDied hPid
  · apply h.notified
    · cases notification with
      | processDied data => exact absurd ⟨data, rfl⟩ hDied
      | _ => rfl
    · exact fun hMeant => hDied (SystemNotification.meant_gone hMeant)

theorem observe_eq (op : WindowVisibilityObserver.Op) : s.observe op eventTime =
    (requests (WindowVisibilityObserver.step s.windowVisibleMap op).2).foldl
      (updateReclaimPriority eventTime)
      { s with windowVisibleMap := (WindowVisibilityObserver.step s.windowVisibleMap op).1 } :=
  rfl

theorem Follows.checkMapSize (h : Follows process watched s) {trigger : CheckTrigger}
    {alivePids : Option (List Nat)} (hAttends : Attends process s (.checkMapSize trigger alivePids)) :
    Follows process watched (s.observe (.checkMapSize trigger alivePids) 0) := by
  obtain ⟨hShows, hOwner⟩ := h.looked (fun _ hOp => by cases hOp) hAttends
  have hRequests : requests (WindowVisibilityObserver.step s.windowVisibleMap
      (.checkMapSize trigger alivePids)).2 = [] := by
    cases alivePids with
    | none => rfl
    | some alivePids => cases trigger <;> rfl
  rw [observe_eq, hRequests]
  exact h.posted rfl (settled_step h.settled (.checkMapSize trigger alivePids)) hShows hOwner

/-- What the observer of the windows sends, if all that it sends to the pid is for the process. -/
theorem heardAll_requests {outputs : List Output} {status : Option ProcessStatus}
    (hOutputs : ∀ request, .updateReclaimPriority request ∈ outputs →
      request.target.pid = process.1 → request.target.uid = process.2 ∧
        (request.reason = .visible ∨ request.reason = .unVisible)) :
    StatusNotice.heardAll process (requests outputs) status = (reasonsOf process.1 outputs).foldl
      (fun status reason => StatusNotice.heard (some (.ofReason reason)) status) status := by
  induction outputs generalizing status with
  | nil => rfl
  | cons output outputs ih =>
      have hRest := fun status => @ih status fun request hMem =>
        hOutputs request (List.mem_cons_of_mem _ hMem)
      cases output with
      | postCheckMapSize trigger delayMs => exact hRest status
      | updateReclaimPriority request =>
          have hRequests : requests (.updateReclaimPriority request :: outputs) =
              request :: requests outputs := rfl
          rw [hRequests, StatusNotice.heardAll, List.foldl_cons]
          by_cases hPid : request.target.pid = process.1
          · obtain ⟨hUid, hReason⟩ := hOutputs request List.mem_cons_self hPid
            have hMeant : StatusNotice.meant process request = some (.ofReason request.reason) := by
              rw [StatusNotice.meant, if_pos (Prod.ext hPid.symm hUid.symm)]
              rcases hReason with hReason | hReason <;> rw [hReason]
            have hReasons : reasonsOf process.1 (.updateReclaimPriority request :: outputs) =
                request.reason :: reasonsOf process.1 outputs := by
              simp [reasonsOf, hPid]
            rw [hReasons, List.foldl_cons, hMeant]
            exact hRest _
          · have hMeant : StatusNotice.meant process request = none := by
              rw [StatusNotice.meant, if_neg]
              exact fun hSame => hPid (congrArg Prod.fst hSame).symm
            have hReasons : reasonsOf process.1 (.updateReclaimPriority request :: outputs) =
                reasonsOf process.1 outputs := by
              simp [reasonsOf, hPid]
            rw [hReasons, hMeant]
            exact hRest _

/-- The owner of the windows of a process, after a batch. -/
theorem owner_batch {windowVisibleMap : WindowVisibleMap} {infos : List MemMgrWindowInfo}
    (hOwner : ∀ info, windowVisibleMap[process.1]? = some info → info.uid = process.2)
    (hInfos : ∀ info ∈ infos, info.pid = process.1 → info.isVisible = true → info.uid = process.2) :
    ∀ info, (infos.foldl updateWindow windowVisibleMap)[process.1]? = some info →
      info.uid = process.2 := by
  induction infos generalizing windowVisibleMap with
  | nil => exact hOwner
  | cons window infos ih =>
      rw [List.forall_mem_cons] at hInfos
      apply ih _ hInfos.2
      intro info hInfo
      by_cases hPid : window.pid = process.1
      · rw [updateWindow, ← hPid] at hInfo
        cases hEntry : windowVisibleMap[window.pid]? with
        | some known =>
            rw [hEntry] at hInfo
            simp only [ExtTreeMap.getElem?_insert_self, Option.some.injEq] at hInfo
            rw [← hInfo]
            exact hOwner known (hPid ▸ hEntry)
        | none =>
            rw [hEntry] at hInfo
            dsimp only at hInfo
            split_ifs at hInfo with hVisible
            · rw [ExtTreeMap.getElem?_insert_self, Option.some.injEq] at hInfo
              rw [← hInfo]
              exact hInfos.1 hPid hVisible
            · rw [hEntry] at hInfo
              cases hInfo
      · rw [updateWindow_of_ne hPid] at hInfo
        exact hOwner info hInfo

/-- The requests of a batch are of processes in the map. -/
theorem owner_request {windowVisibleMap : WindowVisibleMap} {infos : List (Option MemMgrWindowInfo)}
    {request : UpdateRequest} (hRequest : .updateReclaimPriority request ∈
      (updateWindowVisibilityPriorityInner infos windowVisibleMap).2) :
    (∃ info, (infos.reduceOption.foldl updateWindow windowVisibleMap)[request.target.pid]? = some info ∧
      request.target.uid = info.uid) ∧ (request.reason = .visible ∨ request.reason = .unVisible) := by
  have hLoop : .updateReclaimPriority request ∈
      (updatePriorityForVisible (infos.reduceOption.foldl updateWindow windowVisibleMap)).2 := by
    rw [updateWindowVisibilityPriorityInner] at hRequest
    dsimp only at hRequest
    split_ifs at hRequest
    · simpa using hRequest
    · exact hRequest
  obtain ⟨⟨pid, info⟩, hEntry, hPending⟩ := List.mem_filterMap.mp hLoop
  obtain ⟨reason, hReason, hMade⟩ := Option.map_eq_some_iff.mp hPending
  cases hMade
  refine ⟨⟨info, ExtTreeMap.mem_toList_iff_getElem?_eq_some.mp hEntry, rfl⟩, ?_⟩
  rw [ProcessWindowVisibilityInfo.pending] at hReason
  split_ifs at hReason <;> cases hReason
  · exact Or.inl rfl
  · exact Or.inr rfl

theorem owner_kept {windowVisibleMap : WindowVisibleMap} {infos : List (Option MemMgrWindowInfo)}
    {pid : Int} {info : ProcessWindowVisibilityInfo}
    (hInfo : (updateWindowVisibilityPriorityInner infos windowVisibleMap).1[pid]? = some info) :
    ∃ before, (infos.reduceOption.foldl updateWindow windowVisibleMap)[pid]? = some before ∧
      before.uid = info.uid := by
  have hLoop : (updatePriorityForVisible
      (infos.reduceOption.foldl updateWindow windowVisibleMap)).1[pid]? = some info := by
    rw [← hInfo, updateWindowVisibilityPriorityInner]
    dsimp only
    split_ifs <;> rfl
  rw [updatePriorityForVisible_lookup, Option.bind_eq_some_iff] at hLoop
  obtain ⟨before, hBefore, hLoop⟩ := hLoop
  split_ifs at hLoop
  cases hLoop
  exact ⟨before, hBefore, rfl⟩

/-- No window is shown for a process that is not there. -/
theorem showWindow_hidden {pid : Int} {infos : List MemMgrWindowInfo}
    (hHidden : ∀ info ∈ infos, info.pid = pid → info.isVisible = false) :
    infos.foldl (showWindow pid) ∅ = ∅ := by
  induction infos with
  | nil => rfl
  | cons info infos ih =>
      rw [List.forall_mem_cons] at hHidden
      have hSame : showWindow pid ∅ info = ∅ := by
        rw [showWindow]
        split_ifs with hPid hVisible
        · rw [hHidden.1 hPid] at hVisible
          cases hVisible
        · exact Finset.erase_empty _
        · rfl
      rw [List.foldl_cons, hSame]
      exact ih hHidden.2

/-- The windows of the process after a batch, and what is made of their change. -/
theorem Follows.watch_windows (h : Follows process watched s) {infos : List (Option MemMgrWindowInfo)}
    (hAttends : Attends process s (.windows infos eventTime)) :
    WatchedProcess.shown (watch process states watched (.windows infos eventTime)) =
        infos.reduceOption.foldl (showWindow process.1) (WatchedProcess.shown watched) ∧
      (edge (decide (WatchedProcess.shown watched).Nonempty)
          (decide (infos.reduceOption.foldl (showWindow process.1)
            (WatchedProcess.shown watched)).Nonempty)).foldl
        (fun status reason => StatusNotice.heard (some (.ofReason reason)) status)
        (watched.map WatchedProcess.status) =
      (watch process states watched (.windows infos eventTime)).map WatchedProcess.status := by
  cases watched with
  | some known => exact ⟨rfl, WatchedProcess.status_edge known _⟩
  | none =>
      have hHidden : infos.reduceOption.foldl (showWindow process.1) ∅ = ∅ := by
        apply showWindow_hidden
        intro info hMem hPid
        by_contra hVisible
        exact (hAttends info hMem hPid (Bool.eq_true_of_not_eq_false hVisible)).2 h.told
      have hShown : WatchedProcess.shown none = ∅ := rfl
      rw [hShown, hHidden, edge_self]
      exact ⟨rfl, rfl⟩

theorem Follows.windows (h : Follows process watched s) {infos : List (Option MemMgrWindowInfo)}
    (hAttends : Attends process s (.windows infos eventTime)) :
    Follows process (watch process states watched (.windows infos eventTime))
      (s.observe (.updateWindowVisibilityPriorityInner infos) eventTime) := by
  have hKeeps : KeepsEntry process.1 s.windowVisibleMap (.updateWindowVisibilityPriorityInner infos) :=
    fun hRemoves => hRemoves.elim
  obtain ⟨hShows, hReasons⟩ := step_spec h.settled h.shows hKeeps
  obtain ⟨hShown, hEdge⟩ := @watch_windows states process s watched eventTime h infos hAttends
  have hOp : (WindowVisibilityObserver.Op.updateWindowVisibilityPriorityInner infos).showWindows
      process.1 (WatchedProcess.shown watched) =
        infos.reduceOption.foldl (showWindow process.1) (WatchedProcess.shown watched) := by
    simp [Op.showWindows, updatesOf]
  have hOwner := owner_batch h.owner fun info hMem hPid hVisible =>
    (hAttends info hMem hPid hVisible).1
  rw [hOp] at hShows hReasons
  rw [observe_eq]
  apply h.posted
  · rw [heardAll_requests, hReasons, hEdge]
    intro request hRequest hPid
    obtain ⟨⟨info, hInfo, hUid⟩, hReason⟩ := owner_request hRequest
    rw [hPid] at hInfo
    exact ⟨hUid.trans (hOwner info hInfo), hReason⟩
  · exact settled_step h.settled _
  · rw [hShown]
    exact hShows
  · intro info hInfo
    obtain ⟨before, hBefore, hUid⟩ := owner_kept hInfo
    rw [← hUid]
    exact hOwner before hBefore

/-- The first of the requests that wait is heard. -/
theorem Follows.perform (h : Follows process watched s) {task : PostedRequest}
    {handler : List PostedRequest} {services : Services} {service : Service}
    (hHandler : s.handler = task :: handler) (hAttends : Attends process s (.perform services))
    (hStep : Service.Step platform s.service
      (.updateReclaimPriorityInner task.request task.eventTime services) service) :
    Follows process watched { s with handler, service } := by
  have hStatus : service.manager.statusOf process = _ := Service.Step.statusOf h.wellFormed hStep
  refine ⟨(hStep.effect h.wellFormed).wellFormed h.wellFormed, ?_, h.settled, h.shows, h.owner, h.started⟩
  have hTold := h.told
  rw [toldStatus, hHandler, List.map_cons, StatusNotice.heardAll, List.foldl_cons] at hTold
  rw [toldStatus, hStatus, ← hTold, StatusNotice.heardAll, noticeOf]
  congr 1
  split_ifs with hTarget
  · have hHears := hAttends task (by rw [hHandler]; rfl) hTarget
    rw [hTarget]
    exact hHears.heard_eq
  · rw [StatusNotice.meant, if_neg hTarget]

theorem Follows.performImmediate (h : Follows process watched s) {task : PostedRequest}
    {immediate : List PostedRequest} {services : Services} {service : Service}
    (hImmediate : s.immediate = task :: immediate)
    (hStep : Service.Step platform s.service
      (.updateReclaimPriorityInner task.request task.eventTime services) service) :
    Follows process watched { s with immediate, service } := by
  have hStatus : service.manager.statusOf process = _ := Service.Step.statusOf h.wellFormed hStep
  have hReason : task.request.reason = .abilityStart := h.started task (by simp [hImmediate])
  refine ⟨(hStep.effect h.wellFormed).wellFormed h.wellFormed, ?_, h.settled, h.shows, h.owner, ?_⟩
  · rw [← h.told, toldStatus, toldStatus, hStatus, noticeOf, requestNotice, hReason]
    dsimp only
    rw [ite_self]
    rfl
  · intro other hOther
    exact h.started other (by rw [hImmediate]; exact List.mem_cons_of_mem _ hOther)

/-- What does not come from the handler tells the process nothing but its end. -/
theorem noticeOf_other {s : ReclaimPriorityManager} {op : Op} (hOther : IsOther op) :
    s.noticeOf process op = none ∨ s.noticeOf process op = some .gone := by
  cases op with
  | updateReclaimPriorityInner request eventTime services => exact hOther.elim
  | filterDiedProcess alivePids =>
      cases alivePids with
      | none => exact Or.inl rfl
      | some alivePids =>
          rw [noticeOf]
          split_ifs
          · exact Or.inr rfl
          · exact Or.inl rfl
  | reset => exact Or.inr rfl
  | _ => exact Or.inl rfl

theorem Follows.other (h : Follows process watched s) {op : Op} {service : Service} (hOther : IsOther op)
    (hAttends : Attends process s (.other op)) (hStep : Service.Step platform s.service op service) :
    Follows process watched { s with service } := by
  have hStatus : service.manager.statusOf process = _ := Service.Step.statusOf h.wellFormed hStep
  refine ⟨(hStep.effect h.wellFormed).wellFormed h.wellFormed, ?_, h.settled, h.shows, h.owner, h.started⟩
  have hSame : service.manager.statusOf process = s.service.manager.statusOf process := by
    rcases @noticeOf_other process s.service.manager op hOther with hNone | hGone
    · rw [hStatus, hNone]
      rfl
    · rw [hStatus, hGone, hAttends hGone]
      rfl
  rw [← h.told, toldStatus, toldStatus, hSame]

/-- What an event makes of the process as it is watched. -/
theorem Follows.step (h : Follows process watched s) {event : Event} (hAttends : Attends process s event)
    (hStep : Step platform states s event s') : Follows process (watch process states watched event) s' := by
  cases hStep with
  | notify notification eventTime => exact h.notify hAttends
  | windows infos eventTime => exact h.windows hAttends
  | checkMapSize trigger alivePids => exact h.checkMapSize hAttends
  | perform hHandler hStep => exact h.perform hHandler hAttends hStep
  | performImmediate hImmediate hStep => exact h.performImmediate hImmediate hStep
  | other hOther hStep => exact h.other hOther hAttends hStep

theorem follows_init (platform : Platform) (process : Int × Int) : Follows process none (init platform) where
  wellFormed := .start platform
  told := @statusOf_of_untracked _ process (not_tracked_init platform)
  settled := by
    intro pid info hInfo
    simp [init] at hInfo
  shows := by
    intro window
    simp [init, WatchedProcess.shown]
  owner := by
    intro info hInfo
    simp [init] at hInfo
  started := by
    intro task hTask
    cases hTask

/-- Once nothing that tells of the process waits at the handler, the manager knows of it what it
would know if it had been told of everything at once. -/
theorem statusOf_eq_watched {events : List Event}
    (trace : Execution.Trace (Step platform states) (Attends process) (init platform) events s)
    (hDrained : ∀ task ∈ s.handler, StatusNotice.meant process task.request = none) :
    s.service.manager.statusOf process =
      (events.foldl (watch process states) none).map WatchedProcess.status := by
  have hFollows := trace.invariant
    (fun events s => Follows process (events.foldl (watch process states) none) s)
    (follows_init platform process) (by
      intro events s event s' h hAttends hStep
      rw [List.foldl_concat]
      exact h.step hAttends hStep)
  rw [← hFollows.told, toldStatus, StatusNotice.heardAll_of_quiet]
  intro request hRequest
  obtain ⟨task, hTask, rfl⟩ := List.mem_map.mp hRequest
  exact hDrained task hTask

end NotifiedService

namespace Scenario

open NotifiedService

def abilityStates : AbilityState := ⟨1, 2, 4⟩

/-- A task of the handler of requests. -/
def performed (s : NotifiedService) (task : PostedRequest) (services : Services) : Option Service :=
  (s.service.exec platform 40
    (.updateReclaimPriorityInner task.request task.eventTime services)).toOption

/-- What becomes of the service, where the event can happen. -/
def happen (s : NotifiedService) : Event → Option NotifiedService
  | .notify notification eventTime => some (s.notify abilityStates notification eventTime)
  | .windows infos eventTime => some (s.observe (.updateWindowVisibilityPriorityInner infos) eventTime)
  | .checkMapSize trigger alivePids => some (s.observe (.checkMapSize trigger alivePids) 0)
  | .perform services =>
      s.handler.head?.bind fun task => (performed s task services).map fun service =>
        { s with handler := s.handler.tail, service }
  | .performImmediate services =>
      s.immediate.head?.bind fun task => (performed s task services).map fun service =>
        { s with immediate := s.immediate.tail, service }
  | .other _ => none

/-- Some events at which the process is attended. -/
def attend (process : Int × Int) : List Event → NotifiedService → Option NotifiedService
  | [], s => some s
  | event :: events, s =>
      if Attends process s event then (happen s event).bind (attend process events) else none

theorem step_of_performed {s : NotifiedService} {task : PostedRequest} {services : Services}
    {service : Service} (hPerformed : performed s task services = some service) :
    Service.Step platform s.service
      (.updateReclaimPriorityInner task.request task.eventTime services) service := by
  refine ⟨40, ?_⟩
  rw [performed] at hPerformed
  cases hExec : s.service.exec platform 40
      (.updateReclaimPriorityInner task.request task.eventTime services) <;> rw [hExec] at hPerformed
  · cases hPerformed
  · cases hPerformed
    rfl

theorem step_of_happen {s s' : NotifiedService} {event : Event} (hHappen : happen s event = some s') :
    NotifiedService.Step platform abilityStates s event s' := by
  cases event with
  | notify notification eventTime =>
      cases hHappen
      exact .notify notification eventTime
  | windows infos eventTime =>
      cases hHappen
      exact .windows infos eventTime
  | checkMapSize trigger alivePids =>
      cases hHappen
      exact .checkMapSize trigger alivePids
  | perform services =>
      obtain ⟨task, hHead, hHappen⟩ := Option.bind_eq_some_iff.mp hHappen
      obtain ⟨service, hPerformed, rfl⟩ := Option.map_eq_some_iff.mp hHappen
      exact .perform (List.eq_cons_of_mem_head? hHead) (step_of_performed hPerformed)
  | performImmediate services =>
      obtain ⟨task, hHead, hHappen⟩ := Option.bind_eq_some_iff.mp hHappen
      obtain ⟨service, hPerformed, rfl⟩ := Option.map_eq_some_iff.mp hHappen
      exact .performImmediate (List.eq_cons_of_mem_head? hHead) (step_of_performed hPerformed)
  | other op => cases hHappen

theorem trace_of_attend {process : Int × Int} {labels events : List Event} {start s : NotifiedService}
    (prior : Execution.Trace (NotifiedService.Step platform abilityStates) (Attends process)
      (NotifiedService.init platform) labels start)
    (hAttend : attend process events start = some s) :
    Execution.Trace (NotifiedService.Step platform abilityStates) (Attends process)
      (NotifiedService.init platform) (labels ++ events) s := by
  induction events generalizing start labels with
  | nil =>
      cases hAttend
      rw [List.append_nil]
      exact prior
  | cons event events ih =>
      rw [attend] at hAttend
      split_ifs at hAttend with hAttends
      obtain ⟨next, hHappen, hRest⟩ := Option.bind_eq_some_iff.mp hAttend
      have hTail := ih (.snoc prior hAttends (step_of_happen hHappen)) hRest
      rw [List.append_assoc] at hTail
      exact hTail

/-- The first process is at the foreground and shows a window before any of it is heard. Then it is
sent to the background, while an ability of it is started past the handler. -/
def watchedEvents : List Event :=
  [.notify (.processCreated ⟨1, 20000001, -1, "", ""⟩) 0,
    .notify (.abilityStateChanged ⟨1, 20000001, 2, ""⟩) 1,
    .windows [none, some ⟨10, 1, 20000001, true⟩] 2,
    .notify (.processCreated ⟨2, 20000002, -1, "", ""⟩) 3,
    .perform services, .perform services,
    .notify (.processStateChangedAsync 2 20000002 1 20000001) 4,
    .notify (.abilityStateChanged ⟨1, 20000001, 4, ""⟩) 5,
    .performImmediate services, .perform services, .checkMapSize .triggerByTime (some [1, 2]),
    .notify (.processDied ⟨2, 20000002, -1, "", ""⟩) 6, .perform services, .perform services]

def watchedRun : NotifiedService :=
  (attend (1, 20000001) watchedEvents (NotifiedService.init platform)).get (by decide +kernel)

/-- The end of the second process is still to be heard. -/
theorem statusOf_eq_watched_behind : watchedRun.handler.map (·.request.reason) = [.processTerminated] ∧
    watchedRun.service.manager.statusOf (1, 20000001) =
      (watchedEvents.foldl (watch (1, 20000001) abilityStates) none).map WatchedProcess.status ∧
    watchedRun.service.manager.statusOf (1, 20000001) = some { ProcessStatus.untold with
      isVisible := true, hasUI := true } := by
  have hAttend : attend (1, 20000001) watchedEvents (NotifiedService.init platform) = some watchedRun :=
    (Option.some_get _).symm
  have hTrace := trace_of_attend .nil hAttend
  exact ⟨by decide +kernel, statusOf_eq_watched hTrace (by decide +kernel), by decide +kernel⟩

end Scenario
end MemMgr
