import MemMgr.ExtensionPass
import MemMgr.Library.OpenClose
import MemMgr.Prepare

/-! The two maps of bindings against the connections that are open. A binding is a map entry
without a count, so an entry only knows the last event of its pair. -/
namespace MemMgr

open Std (ExtTreeMap)
open Execution OpenClose ReclaimPriorityManager ProcessPriorityInfo

/-- Both maps of a record. -/
abbrev Bindings := ExtTreeMap Int Int × ExtTreeMap Int Int

def ProcessPriorityInfo.bindings (proc : ProcessPriorityInfo) : Bindings :=
  (proc.procsBindToMe, proc.procsBindFromMe)

namespace ReclaimPriorityManager

/-- The maps of the process with this pid and uid. -/
def bindingsOf (s : ReclaimPriorityManager) (process : Int × Int) : Option Bindings :=
  (s.boundProc process).map ProcessPriorityInfo.bindings

variable {platform : Platform} {s s' : ReclaimPriorityManager} {bundle : BundleRef}
variable {pid uid : Int} {proc proc' : ProcessPriorityInfo} {process : Int × Int}

/-- The bindings that are recorded depend on the accounts and the heap alone. -/
theorem bindingsOf_congr (hMap : s'.osAccountsInfoMap = s.osAccountsInfoMap)
    (hHeap : s'.bundles = s.bundles) : s'.bindingsOf = s.bindingsOf := by
  funext process
  simp only [bindingsOf, boundProc, findBundle_congr hMap, hHeap]

theorem bindingsOf_noting (handler : List DelayedTask) (apps : Std.ExtTreeSet String) :
    (s.noting handler apps).bindingsOf = s.bindingsOf := bindingsOf_congr rfl rfl

/-- A record that is written back changes the maps of one process. -/
theorem bindingsOf_setProc (h : WellFormed s)
    (hFind : s.findBundle uid (getOsAccountIdByUid uid) = some bundle) (hPid : proc'.pid = pid) :
    (s.setProc bundle proc').bindingsOf = Function.update s.bindingsOf (pid, uid) (some proc'.bindings) := by
  funext process
  obtain ⟨otherPid, otherUid⟩ := process
  have hMap : (s.setProc bundle proc').findBundle = s.findBundle := findBundle_congr rfl
  rw [Function.update_apply, bindingsOf, bindingsOf, boundProc, boundProc, hMap]
  dsimp only
  cases hOther : s.findBundle otherUid (getOsAccountIdByUid otherUid) with
  | none =>
      rw [if_neg]
      · rfl
      · intro hSame
        obtain ⟨rfl, rfl⟩ := Prod.mk.inj hSame
        rw [hFind] at hOther
        cases hOther
  | some other =>
      rw [Option.bind_some, Option.bind_some, setProc, modifyBundle_bundles, Function.update_apply]
      by_cases hIs : other = bundle
      · subst hIs
        have hUid : otherUid = uid := (h.stored hOther).1.symm.trans (h.stored hFind).1
        rw [if_pos rfl, BundlePriorityInfo.setProc_procs, hPid, hUid]
        by_cases hSame : otherPid = pid
        · simp [hSame]
        · simp [hSame, Ne.symm hSame]
      · have hNe : (otherPid, otherUid) ≠ (pid, uid) := by
          intro hSame
          obtain ⟨rfl, rfl⟩ := Prod.mk.inj hSame
          exact hIs (Option.some.inj (hOther.symm.trans hFind))
        rw [if_neg hIs, if_neg hNe]

end ReclaimPriorityManager

/-- New priorities leave the maps alone. -/
theorem Repricing.bindingsOf {result : ProcessPriorityInfo → Prop} {s s' : ReclaimPriorityManager}
    (h : Repricing result s s') : s'.bindingsOf = s.bindingsOf := by
  funext process
  rw [ReclaimPriorityManager.bindingsOf, ReclaimPriorityManager.bindingsOf, boundProc, boundProc,
    findBundle_congr h.osAccountsInfoMap]
  cases s.findBundle process.2 (getOsAccountIdByUid process.2) with
  | none => rfl
  | some bundle =>
      rw [Option.bind_some, Option.bind_some]
      cases hProc : (s.bundles bundle).procs[process.1]? with
      | none => rw [h.missing hProc]
      | some proc =>
          obtain ⟨priority, hRecord, -⟩ := h.record hProc
          rw [hRecord]
          rfl

namespace ReclaimPriorityManager

variable {platform : Platform} {services : Services} {s s' : ReclaimPriorityManager} {bundle : BundleRef}
variable {pid uid eventTime : Int} {proc : ProcessPriorityInfo} {reason : AppStateUpdateReason}
variable {request : UpdateRequest} {prepared : Prepared} {fuel : Nat}

/-- A status event that is no binding leaves the bindings of its process alone. -/
theorem bindings_changeProc (handler : List DelayedTask) :
    (changeProc reason eventTime (proc, handler)).1.bindings = proc.bindings := by
  have hSame := changeProc_bindings reason eventTime proc handler
  rw [bindings, bindings, hSame.procsBindToMe, hSame.procsBindFromMe]

/-- The flags of an event and the recomputation after it leave the maps alone. -/
theorem finish_bindingsOf (h : WellFormed s) (hTracks : s.TracksProc bundle pid proc)
    (hFinish : (s.prepareUpdate reason bundle proc eventTime).finish platform fuel = .ok s') :
    s'.bindingsOf = s.bindingsOf := by
  have hFlagged : (s.flagged reason bundle proc eventTime).bindingsOf = s.bindingsOf := by
    obtain ⟨⟨accountId, uid, hFind⟩, hProc⟩ := hTracks
    obtain rfl := (h.stored hFind).2
    have hPid := ((changeProc_same reason eventTime proc s.handler).1.pid).trans
      ((h.covered bundle).record _ _ hProc).pid
    have hOwn : s.bindingsOf (pid, uid) = some proc.bindings := by
      rw [bindingsOf, boundProc_eq_some.mpr ⟨bundle, hFind, hProc⟩]
      rfl
    rw [flagged, bindingsOf_noting, bindingsOf_setProc h hFind hPid, bindings_changeProc, ← hOwn,
      Function.update_eq_self]
  rw [prepareUpdate_eq] at hFinish
  split_ifs at hFinish
  · cases hFinish
    rw [← hFlagged]
    exact bindingsOf_congr (writeBundleOomScoreAdj_osAccountsInfoMap) writeBundleOomScoreAdj_bundles
  · obtain ⟨s₁, hRun, hWritten⟩ := bind_eq_ok.mp hFinish
    cases hWritten
    rw [bindingsOf_congr writeBundleOomScoreAdj_osAccountsInfoMap writeBundleOomScoreAdj_bundles,
      ← hFlagged]
    have hWf := @wellFormed_flagged s reason bundle pid eventTime proc h hTracks
    have hTracks₁ := @tracksProc_flagged s reason bundle pid eventTime proc h hTracks
    rcases @updatePriorityByProcStatus_repricing (fun _ => True) platform _ _ hWf _ _ _ _ hTracks₁
      (fun _ _ _ _ _ _ => trivial) hRun with ⟨-, rfl⟩ | ⟨-, hRepricing⟩
    · rfl
    · exact ((repricing_withFlagPriority hWf hTracks₁).trans hRepricing).bindingsOf

/-- The record of a caller after its side of a binding is noted. -/
def bindCaller (request : UpdateRequest) (proc : ProcessPriorityInfo) : ProcessPriorityInfo :=
  match request.reason with
  | .bindExtension => proc.procBindFromMe request.target.pid request.target.uid
  | .unbindExtension => proc.procUnBindFromMe request.target.pid
  | _ => proc

/-- Both ends are tracked, and the target is no app of the system. -/
structure Bindable (s : ReclaimPriorityManager) (services : Services) (request : UpdateRequest) : Prop where
  caller : (s.boundProc (request.caller.pid, request.caller.uid)).isSome = true
  target : ∃ bundle ∈ s.findBundle request.target.uid (getOsAccountIdByUid request.target.uid),
    reclaimPriorityKillableSystem < (s.bundles bundle).priority ∧
    (s.isKillableSystemApp services bundle).2 = false ∧
    ∃ proc ∈ (s.bundles bundle).procs[request.target.pid]?, reclaimPriorityKillableSystem < proc.priority

/-- Everything that a binding needs, as one condition on the two processes. -/
theorem bindable_iff : Bindable s services request ↔
    (s.boundProc (request.caller.pid, request.caller.uid)).isSome = true ∧
    ∃ bundle ∈ s.findBundle request.target.uid (getOsAccountIdByUid request.target.uid),
      reclaimPriorityKillableSystem < (s.bundles bundle).priority ∧
      (s.isKillableSystemApp services bundle).2 = false ∧
      ∃ proc ∈ (s.bundles bundle).procs[request.target.pid]?,
        reclaimPriorityKillableSystem < proc.priority :=
  ⟨fun h => ⟨h.caller, h.target⟩, fun h => ⟨h.1, h.2⟩⟩

instance : Decidable (Bindable s services request) := decidable_of_iff _ bindable_iff.symm

/-- A caller that is found has the binding written into its record. -/
theorem updateExtensionStatusForCaller_eq {callerBundle : BundleRef} {callerProc : ProcessPriorityInfo}
    (hReason : request.reason = .bindExtension ∨ request.reason = .unbindExtension)
    (hFind : s.findBundle request.caller.uid (getOsAccountIdByUid request.caller.uid) = some callerBundle)
    (hProc : (s.bundles callerBundle).procs[request.caller.pid]? = some callerProc) :
    s.updateExtensionStatusForCaller request =
      .ok (s.setProc callerBundle (bindCaller request callerProc), true) := by
  rw [updateExtensionStatusForCaller, lookupProc_eq_some.mpr ⟨hFind, hProc⟩, bindCaller]
  rcases hReason with hReason | hReason <;> rw [hReason] <;> rfl

/-- Only the processes of an object differ. -/
theorem setProc_object (bundle other : BundleRef) (proc : ProcessPriorityInfo) :
    ∃ procs, (s.setProc other proc).bundles bundle = { s.bundles bundle with procs } := by
  rw [setProc, modifyBundle_bundles, Function.update_apply]
  split_ifs with hIs
  · rw [hIs]
    exact ⟨_, rfl⟩
  · exact ⟨_, rfl⟩

/-- Whether an app is killable is not a matter of its processes. -/
theorem isKillableSystemApp_setProc (services : Services) (bundle other : BundleRef)
    (proc : ProcessPriorityInfo) :
    ((s.setProc other proc).isKillableSystemApp services bundle).2 =
      (s.isKillableSystemApp services bundle).2 := by
  obtain ⟨procs, hObject⟩ := @setProc_object s bundle other proc
  rw [isKillableSystemApp_snd, isKillableSystemApp_snd, hObject]
  rfl

/-- A target that is no app of the system takes the binding, and its flags are looked at. -/
theorem prepareTarget_eq (hFind : s.findBundle request.target.uid
      (getOsAccountIdByUid request.target.uid) = some bundle)
    (hProc : (s.bundles bundle).procs[request.target.pid]? = some proc)
    (hAbove : reclaimPriorityKillableSystem < proc.priority)
    (hBundle : reclaimPriorityKillableSystem < (s.bundles bundle).priority)
    (hApp : (s.isKillableSystemApp services bundle).2 = false) :
    ∃ apps, s.prepareTarget services request eventTime =
      .ok (((s.noting s.handler apps).setProc bundle (bindTarget request proc)).prepareUpdate
        request.reason bundle (bindTarget request proc) eventTime) := by
  obtain ⟨apps, killable, hApps⟩ := isKillableSystemApp_eq s services bundle
  have hKillable : killable = false := by
    rw [← hApp, hApps]
  have hNot : ¬ (proc.priority ≤ reclaimPriorityKillableSystem ∨
      (s.bundles bundle).priority ≤ reclaimPriorityKillableSystem) := by omega
  refine ⟨apps, ?_⟩
  rw [prepareTarget, lookupProc_eq_some.mpr ⟨hFind, hProc⟩]
  simp only [bind, Except.bind, hApps, if_neg hNot, hKillable]
  rfl

/-- The maps after a binding event: the caller's side first, then the target's. -/
def linked (isBind : Bool) (caller target : Int × Int) (maps : Int × Int → Option Bindings) :
    Int × Int → Option Bindings :=
  let noted := Function.update maps caller ((maps caller).map fun own =>
    (own.1, if isBind then own.2.insert target.1 target.2 else own.2.erase target.1))
  Function.update noted target ((noted target).map fun own =>
    (if isBind then own.1.insert caller.1 caller.2 else own.1.erase caller.1, own.2))

/-- At the caller, the target is put among the processes it binds, or taken out. -/
theorem bindCaller_bindings {isBind : Bool}
    (hReason : request.reason = if isBind then .bindExtension else .unbindExtension) :
    (bindCaller request proc).bindings = (proc.bindings.1, if isBind then
      proc.bindings.2.insert request.target.pid request.target.uid
      else proc.bindings.2.erase request.target.pid) := by
  rw [bindCaller, hReason]
  cases isBind <;> rfl

/-- At the target, the caller is put among the processes it is bound by, or taken out. -/
theorem bindTarget_bindings {isBind : Bool}
    (hReason : request.reason = if isBind then .bindExtension else .unbindExtension) :
    (bindTarget request proc).bindings = (if isBind then
      proc.bindings.1.insert request.caller.pid request.caller.uid
      else proc.bindings.1.erase request.caller.pid, proc.bindings.2) := by
  rw [bindTarget, hReason]
  cases isBind <;> rfl

theorem bindCaller_kept : (bindCaller request proc).pid = proc.pid ∧
    (bindCaller request proc).priority = proc.priority := by
  rw [bindCaller]
  split <;> exact ⟨rfl, rfl⟩

/-- The caller's side leaves the target where it is, at its priority. -/
theorem target_setProc_caller {callerBundle : BundleRef} {callerProc : ProcessPriorityInfo}
    (hCaller : (s.bundles callerBundle).procs[request.caller.pid]? = some callerProc)
    (hPid : callerProc.pid = request.caller.pid)
    (hProc : (s.bundles bundle).procs[request.target.pid]? = some proc) :
    ∃ found, ((s.setProc callerBundle (bindCaller request callerProc)).bundles bundle).procs[
        request.target.pid]? = some found ∧ found.priority = proc.priority := by
  rw [setProc, modifyBundle_bundles, Function.update_apply]
  split_ifs with hIs
  · subst hIs
    rw [BundlePriorityInfo.setProc_procs, bindCaller_kept.1, hPid]
    split_ifs with hSame
    · rw [hSame, hProc] at hCaller
      obtain rfl := Option.some.inj hCaller
      exact ⟨_, rfl, bindCaller_kept.2⟩
    · exact ⟨proc, hProc, rfl⟩
  · exact ⟨proc, hProc, rfl⟩

/-- What a request to bind or unbind prepares, the branch of the bindings has prepared. -/
theorem prepareBinding_of_prepare {sys : Service}
    (hReason : request.reason = .bindExtension ∨ request.reason = .unbindExtension)
    (h : sys.prepare platform (.updateReclaimPriorityInner request eventTime services) = .ok prepared) :
    sys.manager.prepareBinding services request eventTime = .ok prepared := by
  rw [Service.prepare, prepareRequest] at h
  rcases hReason with hBind | hUnbind
  · rw [hBind] at h
    exact h
  · rw [hUnbind] at h
    exact h

/-- A binding that is taken in changes the two maps of its pair, and nothing else in any map. -/
theorem step_bindingsOf {sys sys' : Service} {isBind : Bool} (h : WellFormed sys.manager)
    (hReason : request.reason = if isBind then .bindExtension else .unbindExtension)
    (hBindable : Bindable sys.manager services request)
    (hStep : Service.Step platform sys (.updateReclaimPriorityInner request eventTime services) sys') :
    sys'.manager.bindingsOf = linked isBind (request.caller.pid, request.caller.uid)
      (request.target.pid, request.target.uid) sys.manager.bindingsOf := by
  obtain ⟨callerProc, hBound⟩ := Option.isSome_iff_exists.mp hBindable.caller
  obtain ⟨callerBundle, hFindCaller, hCaller⟩ := boundProc_eq_some.mp hBound
  obtain ⟨bundle, hFind, hBundle, hApp, proc, hProc, hAbove⟩ := hBindable.target
  have hCallerPid := ((h.covered callerBundle).record _ _ hCaller).pid
  have hEither : request.reason = .bindExtension ∨ request.reason = .unbindExtension := by
    cases isBind with
    | true => exact Or.inl hReason
    | false => exact Or.inr hReason
  have hNoted := updateExtensionStatusForCaller_eq hEither hFindCaller hCaller
  have hWf := wellFormed_caller h hNoted
  obtain ⟨found, hFound, hPriority⟩ := target_setProc_caller hCaller hCallerPid hProc
  -- The first end.
  have hMaps : (sys.manager.setProc callerBundle (bindCaller request callerProc)).bindingsOf =
      Function.update sys.manager.bindingsOf (request.caller.pid, request.caller.uid)
        (some (bindCaller request callerProc).bindings) :=
    bindingsOf_setProc h hFindCaller (bindCaller_kept.1.trans hCallerPid)
  generalize hState : sys.manager.setProc callerBundle (bindCaller request callerProc) = s
    at hNoted hWf hFound hMaps
  have hFindTarget : s.findBundle request.target.uid (getOsAccountIdByUid request.target.uid) =
      some bundle := by
    rw [← hState]
    exact hFind
  have hBundlePriority : (s.bundles bundle).priority = (sys.manager.bundles bundle).priority := by
    obtain ⟨procs, hObject⟩ := @setProc_object sys.manager bundle callerBundle (bindCaller request callerProc)
    rw [← hState, hObject]
  have hKillable : (s.isKillableSystemApp services bundle).2 = false := by
    rw [← hState, isKillableSystemApp_setProc]
    exact hApp
  -- The second end, and the rest of the request.
  obtain ⟨apps, hTarget⟩ := @prepareTarget_eq services s bundle eventTime found request hFindTarget
    hFound (hPriority ▸ hAbove) (hBundlePriority ▸ hBundle) hKillable
  obtain ⟨prepared, fuel, hPrepare, hFinish⟩ := hStep.prepared
  have hBinding := prepareBinding_of_prepare hEither hPrepare
  rw [prepareBinding, hNoted] at hBinding
  obtain rfl := Except.ok.inj (hTarget.symm.trans hBinding)
  have hNotedWf := wellFormed_noting hWf s.handler apps
  have hTracks : (s.noting s.handler apps).TracksProc bundle request.target.pid found :=
    ⟨⟨_, _, hFindTarget⟩, hFound⟩
  have hFoundPid := ((hWf.covered bundle).record _ _ hFound).pid
  have hTargetPid := (bindTarget_same request found).1.pid.trans hFoundPid
  rw [finish_bindingsOf (wellFormed_bindTarget hNotedWf hTracks request) (tracksProc_setProc hTracks)
    hFinish, bindingsOf_setProc hNotedWf hFindTarget hTargetPid, bindingsOf_noting, linked]
  have hOwnCaller : sys.manager.bindingsOf (request.caller.pid, request.caller.uid) =
      some callerProc.bindings := by
    rw [bindingsOf, hBound]
    rfl
  have hOwnTarget : s.bindingsOf (request.target.pid, request.target.uid) = some found.bindings := by
    rw [bindingsOf, boundProc_eq_some.mpr ⟨bundle, hFindTarget, hFound⟩]
    rfl
  rw [bindCaller_bindings hReason] at hMaps
  dsimp only
  rw [hOwnCaller, Option.map_some, ← hMaps, hOwnTarget, Option.map_some, bindTarget_bindings hReason]

/-- A link changes who binds the target, and of no other process. -/
theorem linked_toMe (isBind : Bool) (caller target process : Int × Int)
    (maps : Int × Int → Option Bindings) : (linked isBind caller target maps process).map Prod.fst =
      if process = target then (maps target).map fun own =>
        if isBind then own.1.insert caller.1 caller.2 else own.1.erase caller.1
      else (maps process).map Prod.fst := by
  rw [linked]
  by_cases hTarget : process = target
  · rw [hTarget, Function.update_self, if_pos rfl, Option.map_map, Function.update_apply]
    by_cases hSame : target = caller
    · rw [if_pos hSame, hSame, Option.map_map]
      rfl
    · rw [if_neg hSame]
      rfl
  · rw [Function.update_of_ne hTarget, if_neg hTarget, Function.update_apply]
    by_cases hSame : process = caller
    · rw [if_pos hSame, hSame, Option.map_map]
      rfl
    · rw [if_neg hSame]

/-- A link changes whom the caller binds, and of no other process. -/
theorem linked_fromMe (isBind : Bool) (caller target process : Int × Int)
    (maps : Int × Int → Option Bindings) : (linked isBind caller target maps process).map Prod.snd =
      if process = caller then (maps caller).map fun own =>
        if isBind then own.2.insert target.1 target.2 else own.2.erase target.1
      else (maps process).map Prod.snd := by
  rw [linked]
  by_cases hTarget : process = target
  · rw [hTarget, Function.update_self, Option.map_map, Function.update_apply]
    by_cases hSame : target = caller
    · rw [if_pos hSame, if_pos hSame, Option.map_map]
      rfl
    · rw [if_neg hSame, if_neg hSame]
      rfl
  · rw [Function.update_of_ne hTarget, Function.update_apply]
    by_cases hSame : process = caller
    · rw [if_pos hSame, if_pos hSame, Option.map_map]
      rfl
    · rw [if_neg hSame, if_neg hSame]

/-- The caller is noted at the target. -/
def RecordedAtTarget (s : ReclaimPriorityManager) (uidOf : Int → Int) (pair : Int × Int) : Prop :=
  ∃ target, s.boundProc (pair.2, uidOf pair.2) = some target ∧ pair.1 ∈ target.procsBindToMe

/-- The target is noted at the caller. -/
def RecordedAtCaller (s : ReclaimPriorityManager) (uidOf : Int → Int) (pair : Int × Int) : Prop :=
  ∃ caller, s.boundProc (pair.1, uidOf pair.1) = some caller ∧ pair.2 ∈ caller.procsBindFromMe

variable {uidOf : Int → Int} {pair : Int × Int}

/-- A pair is recorded at its target when the map there has the pid of the caller. -/
theorem recordedAtTarget_iff : s.RecordedAtTarget uidOf pair ↔
    ∃ keys, (s.bindingsOf (pair.2, uidOf pair.2)).map Prod.fst = some keys ∧ pair.1 ∈ keys := by
  rw [RecordedAtTarget, bindingsOf]
  cases s.boundProc (pair.2, uidOf pair.2) <;> simp [bindings]

/-- A pair is recorded at its caller when the map there has the pid of the target. -/
theorem recordedAtCaller_iff : s.RecordedAtCaller uidOf pair ↔
    ∃ keys, (s.bindingsOf (pair.1, uidOf pair.1)).map Prod.snd = some keys ∧ pair.2 ∈ keys := by
  rw [RecordedAtCaller, bindingsOf]
  cases s.boundProc (pair.1, uidOf pair.1) <;> simp [bindings]

end ReclaimPriorityManager

/-- A notice that a caller is connected to a process of extensions, or that it is not any more. -/
structure BindingEvent where
  isBind : Bool
  caller : ReqProc
  target : ReqProc
  eventTime : Int
  services : Services

namespace BindingEvent

def request (event : BindingEvent) : UpdateRequest where
  caller := event.caller
  target := event.target
  reason := if event.isBind then .bindExtension else .unbindExtension

def op (event : BindingEvent) : Op :=
  .updateReclaimPriorityInner event.request event.eventTime event.services

/-- A connection of the pair is opened or closed. -/
def openClose (event : BindingEvent) : OpenClose.Event (Int × Int) :=
  ((event.caller.pid, event.target.pid), event.isBind)

/-- Processes that are alive have a pid of their own; both are tracked, and the target is no app
of the system. -/
structure Allowed (uidOf : Int → Int) (sys : Service) (event : BindingEvent) : Prop where
  caller : event.caller.uid = uidOf event.caller.pid
  target : event.target.uid = uidOf event.target.pid
  bindable : Bindable sys.manager event.services event.request

/-- An event is allowed when its two processes have their own uids and can be bound. -/
theorem allowed_iff {uidOf : Int → Int} {sys : Service} {event : BindingEvent} :
    event.Allowed uidOf sys ↔ (event.caller.uid = uidOf event.caller.pid ∧
      event.target.uid = uidOf event.target.pid) ∧ Bindable sys.manager event.services event.request :=
  ⟨fun h => ⟨⟨h.caller, h.target⟩, h.bindable⟩, fun h => ⟨h.1.1, h.1.2, h.2⟩⟩

instance (uidOf : Int → Int) (sys : Service) (event : BindingEvent) :
    Decidable (event.Allowed uidOf sys) := decidable_of_iff _ allowed_iff.symm

end BindingEvent

namespace Service

variable {platform : Platform} {uidOf : Int → Int} {sys sys' : Service} {event : BindingEvent}

/-- An event sets the record of its own pair at the target, and leaves those of the others. -/
theorem step_recordedAtTarget (h : WellFormed sys.manager) (hAllowed : event.Allowed uidOf sys)
    (hStep : Step platform sys event.op sys') (pair : Int × Int) :
    sys'.manager.RecordedAtTarget uidOf pair ↔
      if event.openClose.1 = pair then event.isBind = true else sys.manager.RecordedAtTarget uidOf pair := by
  obtain ⟨callerPid, targetPid⟩ := pair
  obtain ⟨bundle, hFind, -, -, proc, hProc, -⟩ := hAllowed.bindable.target
  have hBound : sys.manager.boundProc (event.target.pid, event.target.uid) = some proc :=
    boundProc_eq_some.mpr ⟨bundle, hFind, hProc⟩
  have hOwn : sys.manager.bindingsOf (event.target.pid, event.target.uid) = some proc.bindings := by
    rw [bindingsOf, hBound]
    rfl
  have hMaps : sys'.manager.bindingsOf = linked event.isBind (event.caller.pid, event.caller.uid)
      (event.target.pid, event.target.uid) sys.manager.bindingsOf :=
    step_bindingsOf h rfl hAllowed.bindable hStep
  rw [recordedAtTarget_iff, hMaps, linked_toMe, hOwn]
  by_cases hTarget : event.target.pid = targetPid
  · subst hTarget
    rw [← hAllowed.target, if_pos rfl, Option.map_some, RecordedAtTarget, ← hAllowed.target, hBound]
    by_cases hCaller : event.caller.pid = callerPid
    · subst hCaller
      rw [if_pos (show event.openClose.1 = (event.caller.pid, event.target.pid) from rfl)]
      cases event.isBind <;> simp
    · rw [if_neg fun hPair => hCaller (congrArg Prod.fst hPair)]
      cases event.isBind <;> simp [hCaller, bindings]
  · have hProcess : (targetPid, uidOf targetPid) ≠ (event.target.pid, event.target.uid) :=
      fun hSame => hTarget (congrArg Prod.fst hSame).symm
    rw [if_neg hProcess, if_neg fun hPair => hTarget (congrArg Prod.snd hPair), recordedAtTarget_iff]

/-- An event sets the record of its own pair at the caller, and leaves those of the others. -/
theorem step_recordedAtCaller (h : WellFormed sys.manager) (hAllowed : event.Allowed uidOf sys)
    (hStep : Step platform sys event.op sys') (pair : Int × Int) :
    sys'.manager.RecordedAtCaller uidOf pair ↔
      if event.openClose.1 = pair then event.isBind = true else sys.manager.RecordedAtCaller uidOf pair := by
  obtain ⟨callerPid, targetPid⟩ := pair
  obtain ⟨proc, hBound⟩ := Option.isSome_iff_exists.mp hAllowed.bindable.caller
  have hOwn : sys.manager.bindingsOf (event.caller.pid, event.caller.uid) = some proc.bindings := by
    rw [bindingsOf]
    exact congrArg (Option.map bindings) hBound
  have hMaps : sys'.manager.bindingsOf = linked event.isBind (event.caller.pid, event.caller.uid)
      (event.target.pid, event.target.uid) sys.manager.bindingsOf :=
    step_bindingsOf h rfl hAllowed.bindable hStep
  rw [recordedAtCaller_iff, hMaps, linked_fromMe, hOwn]
  by_cases hCaller : event.caller.pid = callerPid
  · subst hCaller
    have hBound : sys.manager.boundProc (event.caller.pid, event.caller.uid) = some proc := hBound
    rw [← hAllowed.caller, if_pos rfl, Option.map_some, RecordedAtCaller, ← hAllowed.caller, hBound]
    by_cases hTarget : event.target.pid = targetPid
    · subst hTarget
      rw [if_pos (show event.openClose.1 = (event.caller.pid, event.target.pid) from rfl)]
      cases event.isBind <;> simp
    · rw [if_neg fun hPair => hTarget (congrArg Prod.snd hPair)]
      cases event.isBind <;> simp [hTarget, bindings]
  · have hProcess : (callerPid, uidOf callerPid) ≠ (event.caller.pid, event.caller.uid) :=
      fun hSame => hCaller (congrArg Prod.fst hSame).symm
    rw [if_neg hProcess, if_neg fun hPair => hCaller (congrArg Prod.fst hPair), recordedAtCaller_iff]

/-- Runs of connection notices alone. -/
abbrev BindingTrace (platform : Platform) (uidOf : Int → Int) : Service → List BindingEvent → Service → Prop :=
  Execution.Trace (fun sys event sys' => Step platform sys event.op sys')
    fun sys event => event.Allowed uidOf sys

variable {start finish : Service} {events : List BindingEvent}

/-- A binding is noted at both ends or at none, as the last event of its pair says. -/
theorem BindingTrace.recorded_eq_flag (trace : BindingTrace platform uidOf start events finish)
    (hWf : WellFormed start.manager) (hFresh : ∀ pair, ¬ start.manager.RecordedAtTarget uidOf pair ∧
      ¬ start.manager.RecordedAtCaller uidOf pair) (pair : Int × Int) :
    (finish.manager.RecordedAtTarget uidOf pair ↔
        flag pair (events.map BindingEvent.openClose) = true) ∧
      (finish.manager.RecordedAtCaller uidOf pair ↔
        flag pair (events.map BindingEvent.openClose) = true) := by
  have hBoth := trace.invariant (fun events sys => WellFormed sys.manager ∧
    (sys.manager.RecordedAtTarget uidOf pair ↔ flag pair (events.map BindingEvent.openClose) = true) ∧
    (sys.manager.RecordedAtCaller uidOf pair ↔ flag pair (events.map BindingEvent.openClose) = true))
  refine (hBoth ⟨hWf, ?_, ?_⟩ ?_).2
  · simpa using (hFresh pair).1
  · simpa using (hFresh pair).2
  · rintro events sys event sys' ⟨hWf, hTarget, hCaller⟩ hAllowed hStep
    have hFlag : flag pair ((events ++ [event]).map BindingEvent.openClose) =
        if event.openClose.1 = pair then event.isBind
        else flag pair (events.map BindingEvent.openClose) := by
      rw [List.map_append, List.map_singleton]
      exact flag_concat
    refine ⟨(hStep.effect hWf).wellFormed hWf, ?_, ?_⟩
    · rw [step_recordedAtTarget hWf hAllowed hStep, hFlag]
      split_ifs
      · rfl
      · exact hTarget
    · rw [step_recordedAtCaller hWf hAllowed hStep, hFlag]
      split_ifs
      · rfl
      · exact hCaller

/-- In runs of connection notices that match, bindings are noted at both ends exactly while they
are open, unless a binding is released that is open more than once. -/
theorem Run.recorded_iff_open_iff (run : Run platform anyOp start)
    (hFresh : ∀ pair, ¬ start.manager.RecordedAtTarget uidOf pair ∧
      ¬ start.manager.RecordedAtCaller uidOf pair)
    (trace : BindingTrace platform uidOf start events finish)
    (hMatched : Matched (events.map BindingEvent.openClose)) :
    (∀ before sys, before <+: events → BindingTrace platform uidOf start before sys → ∀ pair,
      (sys.manager.RecordedAtTarget uidOf pair ↔ IsOpen pair (before.map BindingEvent.openClose)) ∧
        (sys.manager.RecordedAtCaller uidOf pair ↔ IsOpen pair (before.map BindingEvent.openClose))) ↔
      ¬ Overlapping (events.map BindingEvent.openClose) := by
  rw [← flag_eq_open_iff hMatched]
  constructor
  · intro hRecorded prior hPrior pair
    have hTake := List.prefix_iff_eq_take.mp hPrior
    rw [← List.map_take] at hTake
    obtain ⟨sys, hBefore⟩ := trace.of_prefix (List.take_prefix prior.length events)
    rw [hTake, ← (hRecorded _ sys (List.take_prefix _ _) hBefore pair).1]
    exact (BindingTrace.recorded_eq_flag hBefore run.wellFormed hFresh pair).1.symm
  · intro hFlag before sys hPrefix hBefore pair
    have hRight := hFlag _ (hPrefix.map BindingEvent.openClose) pair
    have hBoth := BindingTrace.recorded_eq_flag hBefore run.wellFormed hFresh pair
    exact ⟨hBoth.1.trans hRight, hBoth.2.trans hRight⟩

/-- Where all maps are empty nothing is noted. -/
theorem not_recorded_of_empty {s : ReclaimPriorityManager}
    (hEmpty : ∀ bundle pid proc, s.TracksProc bundle pid proc →
      proc.procsBindToMe.isEmpty = true ∧ proc.procsBindFromMe.isEmpty = true) (pair : Int × Int) :
    ¬ s.RecordedAtTarget uidOf pair ∧ ¬ s.RecordedAtCaller uidOf pair := by
  constructor
  · rintro ⟨target, hBound, hKey⟩
    obtain ⟨bundle, hFind, hProc⟩ := boundProc_eq_some.mp hBound
    have hNone := ExtTreeMap.isEmpty_iff.mp (hEmpty bundle _ target ⟨⟨_, _, hFind⟩, hProc⟩).1
    simp [hNone] at hKey
  · rintro ⟨caller, hBound, hKey⟩
    obtain ⟨bundle, hFind, hProc⟩ := boundProc_eq_some.mp hBound
    have hNone := ExtTreeMap.isEmpty_iff.mp (hEmpty bundle _ caller ⟨⟨_, _, hFind⟩, hProc⟩).2
    simp [hNone] at hKey

end Service

namespace Scenario

/-- Two processes without bindings. -/
def unboundPair : Service :=
  (reached [event .createProcess 1 20000001, event .createProcess 2 20000002]).get (by decide)

def uidOfPid (pid : Int) : Int := 20000000 + pid

/-- The first process is connected to an extension of the second one, or not any more. -/
def connection (isBind : Bool) : BindingEvent :=
  ⟨isBind, ⟨1, 20000001, "", ""⟩, ⟨2, 20000002, "", "20000002"⟩, 0, services⟩

/-- The state of the service after a notice of a binding or its end. -/
def noticed (sys : Service) (isBind : Bool) : Option Service :=
  (sys.exec platform 40 (connection isBind).op).toOption

def connected : Service := (noticed unboundPair true).get (by decide)
def released : Service := (noticed connected false).get (by decide)
def connectedTwice : Service := (noticed connected true).get (by decide)
def releasedOnce : Service := (noticed connectedTwice false).get (by decide)

/-- The two processes and no binding are reached from the start. -/
theorem run_unboundPair : Service.Run platform Service.anyOp unboundPair :=
  run_reached (fun _ _ _ => trivial) (by decide)

/-- One connection is a trace of bindings. -/
theorem trace_connected : Service.BindingTrace platform uidOfPid unboundPair [connection true] connected :=
  .snoc .nil (by decide) ⟨40, eq_ok_get _⟩

/-- A connection that is given up. -/
theorem trace_released : Service.BindingTrace platform uidOfPid unboundPair
    [connection true, connection false] released :=
  .snoc trace_connected (by decide) ⟨40, eq_ok_get _⟩

/-- Two connections, of which one is given up. -/
theorem trace_releasedOnce : Service.BindingTrace platform uidOfPid unboundPair
    [connection true, connection true, connection false] releasedOnce :=
  .snoc (.snoc trace_connected (by decide) ⟨40, eq_ok_get (by decide)⟩) (by decide)
    ⟨40, eq_ok_get (by decide)⟩

/-- The pair is connected once, and released. -/
theorem recorded_iff_open_released :
    (connected.manager.RecordedAtTarget uidOfPid (1, 2) ↔ IsOpen ((1, 2) : Int × Int) [((1, 2), true)]) ∧
      (connected.manager.RecordedAtCaller uidOfPid (1, 2) ↔
        IsOpen ((1, 2) : Int × Int) [((1, 2), true)]) := by
  have hMatched : Matched ([connection true, connection false].map BindingEvent.openClose) := by
    show Matched ((([] : List (Event (Int × Int))) ++ [((1, 2), true)]) ++ [((1, 2), false)])
    rw [matched_concat, matched_concat]
    exact ⟨⟨matched_nil, by decide⟩, fun _ => by decide⟩
  have hApart : ¬ Overlapping ([connection true, connection false].map BindingEvent.openClose) := by
    show ¬ Overlapping ((([] : List (Event (Int × Int))) ++ [((1, 2), true)]) ++ [((1, 2), false)])
    rw [overlapping_concat, overlapping_concat]
    simp [not_overlapping_nil, opens, closes]
  have hIff := Service.Run.recorded_iff_open_iff run_unboundPair
    (Service.not_recorded_of_empty (by decide)) trace_released hMatched
  exact hIff.mpr hApart [connection true] connected (by simp) trace_connected (1, 2)

/-- The pair is connected twice and released once: it is open, and nothing is noted. -/
theorem releasedOnce_forgotten : Service.Run platform Service.anyOp unboundPair ∧
    (∀ pair, ¬ unboundPair.manager.RecordedAtTarget uidOfPid pair ∧
      ¬ unboundPair.manager.RecordedAtCaller uidOfPid pair) ∧
    Service.BindingTrace platform uidOfPid unboundPair
      [connection true, connection true, connection false] releasedOnce ∧
    Matched ([connection true, connection true, connection false].map BindingEvent.openClose) ∧
    IsOpen ((1, 2) : Int × Int)
      ([connection true, connection true, connection false].map BindingEvent.openClose) ∧
    ¬ releasedOnce.manager.RecordedAtTarget uidOfPid (1, 2) ∧
    ¬ releasedOnce.manager.RecordedAtCaller uidOfPid (1, 2) := by
  have hMatched : Matched
      ([connection true, connection true, connection false].map BindingEvent.openClose) := by
    show Matched ((([] : List (Event (Int × Int))) ++ [((1, 2), true)] ++ [((1, 2), true)]) ++
      [((1, 2), false)])
    rw [matched_concat, matched_concat, matched_concat]
    exact ⟨⟨⟨matched_nil, by decide⟩, by decide⟩, fun _ => by decide⟩
  have hNone := @Service.not_recorded_of_empty uidOfPid releasedOnce.manager (by decide) (1, 2)
  exact ⟨run_unboundPair, Service.not_recorded_of_empty (by decide), trace_releasedOnce, hMatched,
    by decide, hNone.1, hNone.2⟩

end Scenario
end MemMgr
