import MemMgr.AbilityStart
import MemMgr.StatusPriority

/-! Events that were posted before the start of an ability and are processed after it.
The queue puts starts first; the time stamps tell which events are older, as far as
their clock does. -/
namespace MemMgr

open Execution ReclaimPriorityManager BundlePriorityInfo ProcessPriorityInfo

/-- `GetSystemTimeMs`, at a time of the clock in milliseconds. -/
def getSystemTimeMs (wallClockMs : Nat) : Int := (wallClockMs / 1000 : Nat)

/-- The request as `UpdateReclaimPriority` posts it. -/
def Op.posted (request : UpdateRequest) (wallClockMs : Nat) (services : Services) : Op :=
  .updateReclaimPriorityInner request (getSystemTimeMs wallClockMs) services

namespace AppStateUpdateReason

/-- The reasons that come to `HandleUpdateProcess`. -/
def updatesProcess : AppStateUpdateReason → Bool
  | .createProcess | .renderCreateProcess | .abilityStart | .applicationSuspend
  | .processTerminated => false
  | _ => true

end AppStateUpdateReason

/-- What a start has set: the flag, its time, and the priority. -/
structure ProcessPriorityInfo.SameStartOf (before after : ProcessPriorityInfo) : Prop where
  isAbilityStarting : after.isAbilityStarting = before.isAbilityStarting
  startingAbilityTime : after.startingAbilityTime = before.startingAbilityTime
  priority : after.priority = before.priority

/-- The start of one process and the priority of its bundle are as they were. -/
structure StartUntouched (s s' : ReclaimPriorityManager) (bundle : BundleRef) (pid : Int) : Prop where
  priority : (s'.bundles bundle).priority = (s.bundles bundle).priority
  record : ∀ proc, (s.bundles bundle).procs[pid]? = some proc →
    ∃ after, (s'.bundles bundle).procs[pid]? = some after ∧ SameStartOf proc after

/-- The process of a request is in a start that was posted at this time. -/
structure InStart (sys : Service) (request : UpdateRequest) (bundle : BundleRef)
    (proc : ProcessPriorityInfo) (startMs : Nat) : Prop where
  find : sys.manager.findBundle request.target.uid (getOsAccountIdByUid request.target.uid) = some bundle
  record : (sys.manager.bundles bundle).procs[request.target.pid]? = some proc
  starting : proc.isAbilityStarting = true
  stamp : proc.startingAbilityTime = getSystemTimeMs startMs

/-- In every run, processing an event posted at `eventMs` leaves a start posted at `startMs` alone:
the process goes on starting, and neither its priority nor that of its bundle changes. -/
def OlderEventIgnored (reason : AppStateUpdateReason) (eventMs startMs : Nat) : Prop :=
  ∀ (platform : Platform) (sys sys' : Service) (request : UpdateRequest) (services : Services)
    (bundle : BundleRef) (proc : ProcessPriorityInfo), request.reason = reason →
    Service.Run platform Service.anyOp sys → InStart sys request bundle proc startMs →
    Service.Step platform sys (.posted request eventMs services) sys' →
    ∃ after, (sys'.manager.bundles bundle).procs[request.target.pid]? = some after ∧
      after.isAbilityStarting = true ∧ after.priority = proc.priority ∧
      (sys'.manager.bundles bundle).priority = (sys.manager.bundles bundle).priority

variable {platform : Platform} {services : Services} {s s₁ s' : ReclaimPriorityManager}
variable {bundle owner : BundleRef} {pid key eventTime : Int} {proc : ProcessPriorityInfo}
variable {request : UpdateRequest} {reason : AppStateUpdateReason}

namespace StartUntouched

theorem refl (s : ReclaimPriorityManager) (bundle : BundleRef) (pid : Int) :
    StartUntouched s s bundle pid := ⟨rfl, fun proc hProc => ⟨proc, hProc, rfl, rfl, rfl⟩⟩

/-- The same records have the same starts. -/
theorem congr (hHeap : s'.bundles = s.bundles) : StartUntouched s s' bundle pid := by
  constructor
  · rw [hHeap]
  · intro proc hProc
    rw [hHeap]
    exact ⟨proc, hProc, rfl, rfl, rfl⟩

theorem trans (left : StartUntouched s s₁ bundle pid) (right : StartUntouched s₁ s' bundle pid) :
    StartUntouched s s' bundle pid := by
  constructor
  · exact right.priority.trans left.priority
  · intro proc hProc
    obtain ⟨middle, hMiddle, hFirst⟩ := left.record proc hProc
    obtain ⟨after, hAfter, hSecond⟩ := right.record middle hMiddle
    exact ⟨after, hAfter, hSecond.isAbilityStarting.trans hFirst.isAbilityStarting,
      hSecond.startingAbilityTime.trans hFirst.startingAbilityTime, hSecond.priority.trans hFirst.priority⟩

/-- A record changes in flags or bindings. -/
theorem setProc {after : ProcessPriorityInfo} (hProc : (s.bundles owner).procs[key]? = some proc)
    (hPid : after.pid = key) (hSame : SameStartOf proc after) :
    StartUntouched s (s.setProc owner after) bundle pid := by
  have hBundles : (s.setProc owner after).bundles =
    Function.update s.bundles owner ((s.bundles owner).setProc after) := rfl
  constructor
  · rw [hBundles, Function.update_apply]
    split_ifs with hIs
    · rw [hIs]
      rfl
    · rfl
  · intro found hFound
    rw [hBundles, Function.update_apply]
    split_ifs with hIs
    · subst hIs
      rw [setProc_procs]
      split_ifs with hKey
      · rw [← hKey, hPid, hProc] at hFound
        obtain rfl := Option.some.inj hFound
        exact ⟨after, rfl, hSame⟩
      · exact ⟨found, hFound, rfl, rfl, rfl⟩
    · exact ⟨found, hFound, rfl, rfl, rfl⟩

end StartUntouched

namespace ProcessPriorityInfo

/-- The handler of an older event finishes nothing. -/
theorem changeProc_older (reason : AppStateUpdateReason) (handler : List DelayedTask)
    (hOlder : proc.checkCurrentEventHappenedBeforeAbilityStart eventTime = true) :
    SameStartOf proc (changeProc reason eventTime (proc, handler)).1 := by
  obtain ⟨flagged, hSame, hSet | ⟨-, hFinish⟩⟩ := changeProc_flags reason proc
  · rw [hSet]
    exact ⟨hSame.isAbilityStarting, hSame.startingAbilityTime, hSame.priority⟩
  · have hAgain : flagged.checkCurrentEventHappenedBeforeAbilityStart eventTime = true := by
      rw [checkCurrentEventHappenedBeforeAbilityStart, hSame.startingAbilityTime]
      exact hOlder
    have hKept : finishAbilityStartIfNeed eventTime (flagged, handler) = (flagged, handler) := by
      rw [finishAbilityStartIfNeed, checkAbilityStartNeedFinishInAdvance, hAgain]
      simp
    rw [hFinish, hKept]
    exact ⟨hSame.isAbilityStarting, hSame.startingAbilityTime, hSame.priority⟩

/-- A binding changes nothing of the start of its target. -/
theorem bindTarget_sameStart (request : UpdateRequest) (proc : ProcessPriorityInfo) :
    SameStartOf proc (bindTarget request proc) := by
  rw [bindTarget]
  split <;> exact ⟨rfl, rfl, rfl⟩

end ProcessPriorityInfo

/-- An older event ends with its flags. -/
theorem prepareUpdate_older (hWf : WellFormed s) (hTracks : s.TracksProc owner key proc)
    (hStarting : proc.isAbilityStarting = true)
    (hOlder : proc.checkCurrentEventHappenedBeforeAbilityStart eventTime = true) :
    ∃ s', s.prepareUpdate reason owner proc eventTime = .done s' ∧ StartUntouched s s' bundle pid := by
  have hSame := changeProc_older reason s.handler hOlder
  refine ⟨(s.flagged reason owner proc eventTime).writeBundleOomScoreAdj owner, ?_, ?_⟩
  · rw [prepareUpdate_eq, if_pos]
    rw [needSkipEventBeforeAbilityStart, checkCurrentEventHappenedBeforeAbilityStart,
      hSame.isAbilityStarting, hSame.startingAbilityTime, hStarting, Bool.true_and]
    exact hOlder
  · have hPid := (changeProc_same reason eventTime proc s.handler).1.pid.trans
      ((hWf.covered owner).record _ _ hTracks.2).pid
    have hFlags : StartUntouched s (s.setProc owner (changeProc reason eventTime (proc, s.handler)).1)
      bundle pid := .setProc hTracks.2 hPid hSame
    exact hFlags.trans (.congr writeBundleOomScoreAdj_bundles)

/-- A request of an older event on the process of a start is done at once, and leaves the start
untouched. -/
theorem prepareTracked_older {prepared : Prepared} (hWf : WellFormed s)
    (hReason : request.reason.updatesProcess = true)
    (hFind : s.findBundle request.target.uid (getOsAccountIdByUid request.target.uid) = some owner)
    (hProc : (s.bundles owner).procs[request.target.pid]? = some proc)
    (hStarting : proc.isAbilityStarting = true)
    (hOlder : proc.checkCurrentEventHappenedBeforeAbilityStart eventTime = true)
    (hPrepare : s.prepareTracked platform request eventTime = .ok prepared) :
    ∃ s', prepared = .done s' ∧ StartUntouched s s' bundle pid := by
  have hSuspend : request.reason ≠ .applicationSuspend := by
    intro hIs
    rw [hIs] at hReason
    cases hReason
  have hTerminated : request.reason ≠ .processTerminated := by
    intro hIs
    rw [hIs] at hReason
    cases hReason
  rw [prepareTracked, hFind] at hPrepare
  dsimp only at hPrepare
  split_ifs at hPrepare
  · cases hPrepare
    exact ⟨s, rfl, .refl s _ _⟩
  · rw [findProcByPid_eq_ok.mpr hProc] at hPrepare
    simp only [bind, Except.bind] at hPrepare
    obtain ⟨s', hDone, hUntouched⟩ := @prepareUpdate_older s bundle owner pid _ eventTime proc
      request.reason hWf ⟨⟨_, _, hFind⟩, hProc⟩ hStarting hOlder
    rw [hDone] at hPrepare
    cases hPrepare
    exact ⟨s', rfl, hUntouched⟩
  · cases hPrepare
    exact ⟨s, rfl, .refl s _ _⟩

/-- The part of the caller touches no start. -/
theorem updateExtensionStatusForCaller_untouched (hWf : WellFormed s) {ret : Bool}
    (hRun : s.updateExtensionStatusForCaller request = .ok (s', ret)) :
    s'.osAccountsInfoMap = s.osAccountsInfoMap ∧ StartUntouched s s' bundle pid := by
  rcases updateExtensionStatusForCaller_form hRun with rfl | ⟨caller, found, bindings, hTracks, rfl⟩
  · exact ⟨rfl, .refl _ _ _⟩
  · have hPid := ((hWf.covered caller).record _ _ hTracks.2).pid
    exact ⟨rfl, .setProc hTracks.2 hPid ⟨rfl, rfl, rfl⟩⟩

/-- The part of the target, with an older event, is done at once. -/
theorem prepareTarget_older {prepared : Prepared} (hWf : WellFormed s)
    (hFind : s.findBundle request.target.uid (getOsAccountIdByUid request.target.uid) = some owner)
    (hProc : (s.bundles owner).procs[request.target.pid]? = some proc)
    (hStarting : proc.isAbilityStarting = true)
    (hOlder : proc.checkCurrentEventHappenedBeforeAbilityStart eventTime = true)
    (hPrepare : s.prepareTarget services request eventTime = .ok prepared) :
    ∃ s', prepared = .done s' ∧ StartUntouched s s' bundle pid := by
  rw [prepareTarget, lookupProc_eq_some.mpr ⟨hFind, hProc⟩] at hPrepare
  obtain ⟨apps, killable, hApps⟩ := isKillableSystemApp_eq s services owner
  have hNoted : StartUntouched s (s.noting s.handler apps) bundle pid := .congr rfl
  simp only [bind, Except.bind, hApps] at hPrepare
  split_ifs at hPrepare
  · cases hPrepare
    exact ⟨s, rfl, .refl s _ _⟩
  · cases hPrepare
    exact ⟨_, rfl, hNoted⟩
  · have hSame := bindTarget_sameStart request proc
    have hTracks : (s.noting s.handler apps).TracksProc owner request.target.pid proc :=
      ⟨⟨_, _, hFind⟩, hProc⟩
    have hWf₁ : WellFormed (s.noting s.handler apps) := wellFormed_noting hWf _ _
    have hPid := (bindTarget_same request proc).1.pid.trans ((hWf.covered owner).record _ _ hProc).pid
    have hBound : StartUntouched (s.noting s.handler apps)
      ((s.noting s.handler apps).setProc owner (bindTarget request proc)) bundle pid :=
        .setProc hProc hPid hSame
    have hStarting₁ : (bindTarget request proc).isAbilityStarting = true :=
      hSame.isAbilityStarting.trans hStarting
    have hOlder₁ :
        (bindTarget request proc).checkCurrentEventHappenedBeforeAbilityStart eventTime = true := by
      rw [checkCurrentEventHappenedBeforeAbilityStart, hSame.startingAbilityTime]
      exact hOlder
    obtain ⟨s', hDone, hUntouched⟩ := @prepareUpdate_older _ bundle owner pid _ eventTime _
      request.reason (wellFormed_bindTarget hWf₁ hTracks request) (tracksProc_setProc hTracks)
      hStarting₁ hOlder₁
    cases hPrepare
    exact ⟨s', hDone, hNoted.trans (hBound.trans hUntouched)⟩

/-- A request that comes to `HandleUpdateProcess` with an older event. -/
theorem prepareRequest_older {prepared : Prepared} (hWf : WellFormed s)
    (hReason : request.reason.updatesProcess = true)
    (hFind : s.findBundle request.target.uid (getOsAccountIdByUid request.target.uid) = some owner)
    (hProc : (s.bundles owner).procs[request.target.pid]? = some proc)
    (hStarting : proc.isAbilityStarting = true)
    (hOlder : proc.checkCurrentEventHappenedBeforeAbilityStart eventTime = true)
    (hPrepare : s.prepareRequest platform services request eventTime = .ok prepared) :
    ∃ s', prepared = .done s' ∧ StartUntouched s s' owner request.target.pid := by
  have hBinding : s.prepareBinding services request eventTime = .ok prepared →
      ∃ s', prepared = .done s' ∧ StartUntouched s s' owner request.target.pid := by
    intro hPrepare
    obtain ⟨⟨s₁, ret⟩, hCaller, hTarget⟩ := bind_eq_ok.mp hPrepare
    obtain ⟨hMap, hUntouched⟩ : s₁.osAccountsInfoMap = s.osAccountsInfoMap ∧
        StartUntouched s s₁ owner request.target.pid :=
      updateExtensionStatusForCaller_untouched hWf hCaller
    obtain ⟨middle, hMiddle, hSame⟩ := hUntouched.record proc hProc
    have hFind₁ : s₁.findBundle request.target.uid (getOsAccountIdByUid request.target.uid) =
        some owner := by
      rw [findBundle_congr hMap]
      exact hFind
    have hStarting₁ : middle.isAbilityStarting = true := hSame.isAbilityStarting.trans hStarting
    have hOlder₁ : middle.checkCurrentEventHappenedBeforeAbilityStart eventTime = true := by
      rw [checkCurrentEventHappenedBeforeAbilityStart, hSame.startingAbilityTime]
      exact hOlder
    obtain ⟨s', hDone, hLast⟩ :=
      prepareTarget_older (wellFormed_caller hWf hCaller) hFind₁ hMiddle hStarting₁ hOlder₁ hTarget
    exact ⟨s', hDone, hUntouched.trans hLast⟩
  have hTracked : s.prepareTracked platform request eventTime = .ok prepared →
      ∃ s', prepared = .done s' ∧ StartUntouched s s' owner request.target.pid :=
    prepareTracked_older hWf hReason hFind hProc hStarting hOlder
  rw [prepareRequest] at hPrepare
  cases hIs : request.reason <;> rw [hIs] at hPrepare
  case bindExtension => exact hBinding hPrepare
  case unbindExtension => exact hBinding hPrepare
  case createProcess => simp [AppStateUpdateReason.updatesProcess, hIs] at hReason
  case renderCreateProcess => simp [AppStateUpdateReason.updatesProcess, hIs] at hReason
  case abilityStart => simp [AppStateUpdateReason.updatesProcess, hIs] at hReason
  all_goals exact hTracked hPrepare

namespace ProcessPriorityInfo

theorem changeProc_startingAbilityTime (reason : AppStateUpdateReason) (eventTime : Int)
    (proc : ProcessPriorityInfo) (handler : List DelayedTask) :
    (changeProc reason eventTime (proc, handler)).1.startingAbilityTime = proc.startingAbilityTime := by
  obtain ⟨flagged, hSame, hSet | ⟨-, hFinish⟩⟩ := changeProc_flags reason proc
  · rw [hSet]
    exact hSame.startingAbilityTime
  · rw [hFinish, finishAbilityStartIfNeed]
    split_ifs <;> exact hSame.startingAbilityTime

/-- An event that is not older than the start has the effect of one without a time. -/
theorem changeProc_unstamped (reason : AppStateUpdateReason) (handler : List DelayedTask)
    (hNot : proc.checkCurrentEventHappenedBeforeAbilityStart eventTime = false) :
    changeProc reason eventTime (proc, handler) = changeProc reason invalidTime (proc, handler) := by
  obtain ⟨flagged, hSame, hSet | ⟨-, hFinish⟩⟩ := changeProc_flags reason proc
  · rw [hSet, hSet]
  · have hAgain : flagged.checkCurrentEventHappenedBeforeAbilityStart eventTime = false := by
      rw [checkCurrentEventHappenedBeforeAbilityStart, hSame.startingAbilityTime]
      exact hNot
    have hUnstamped : flagged.checkCurrentEventHappenedBeforeAbilityStart invalidTime = false := rfl
    rw [hFinish, hFinish, finishAbilityStartIfNeed, finishAbilityStartIfNeed,
      checkAbilityStartNeedFinishInAdvance, checkAbilityStartNeedFinishInAdvance, hAgain, hUnstamped]

end ProcessPriorityInfo

theorem prepareUpdate_unstamped (reason : AppStateUpdateReason)
    (hNot : proc.checkCurrentEventHappenedBeforeAbilityStart eventTime = false) :
    s.prepareUpdate reason owner proc eventTime = s.prepareUpdate reason owner proc invalidTime := by
  have hAgain : (changeProc reason invalidTime (proc,
      s.handler)).1.checkCurrentEventHappenedBeforeAbilityStart eventTime = false := by
    rw [checkCurrentEventHappenedBeforeAbilityStart, changeProc_startingAbilityTime]
    exact hNot
  have hUnstamped : (changeProc reason invalidTime (proc,
      s.handler)).1.checkCurrentEventHappenedBeforeAbilityStart invalidTime = false := rfl
  rw [prepareUpdate, prepareUpdate, changeProc_unstamped reason s.handler hNot,
    needSkipEventBeforeAbilityStart, needSkipEventBeforeAbilityStart, hAgain, hUnstamped]

theorem prepareTarget_unstamped
    (hFind : s.findBundle request.target.uid (getOsAccountIdByUid request.target.uid) = some owner)
    (hProc : (s.bundles owner).procs[request.target.pid]? = some proc)
    (hNot : proc.checkCurrentEventHappenedBeforeAbilityStart eventTime = false) :
    s.prepareTarget services request eventTime = s.prepareTarget services request invalidTime := by
  have hBound : (bindTarget request proc).checkCurrentEventHappenedBeforeAbilityStart eventTime = false := by
    rw [checkCurrentEventHappenedBeforeAbilityStart, (bindTarget_sameStart request proc).startingAbilityTime]
    exact hNot
  rw [prepareTarget, prepareTarget, lookupProc_eq_some.mpr ⟨hFind, hProc⟩]
  simp only [bind, Except.bind, prepareUpdate_unstamped request.reason hBound]

theorem prepareTracked_unstamped
    (hFind : s.findBundle request.target.uid (getOsAccountIdByUid request.target.uid) = some owner)
    (hProc : (s.bundles owner).procs[request.target.pid]? = some proc)
    (hNot : proc.checkCurrentEventHappenedBeforeAbilityStart eventTime = false) :
    s.prepareTracked platform request eventTime = s.prepareTracked platform request invalidTime := by
  rw [prepareTracked, prepareTracked, hFind]
  dsimp only
  rw [findProcByPid_eq_ok.mpr hProc]
  simp only [bind, Except.bind, prepareUpdate_unstamped request.reason hNot]

/-- An event that is not older is processed as one without a time stamp. -/
theorem prepareRequest_unstamped (hWf : WellFormed s) (hReason : request.reason.updatesProcess = true)
    (hFind : s.findBundle request.target.uid (getOsAccountIdByUid request.target.uid) = some owner)
    (hProc : (s.bundles owner).procs[request.target.pid]? = some proc)
    (hNot : proc.checkCurrentEventHappenedBeforeAbilityStart eventTime = false) :
    s.prepareRequest platform services request eventTime =
      s.prepareRequest platform services request invalidTime := by
  have hTracked : s.prepareTracked platform request eventTime =
      s.prepareTracked platform request invalidTime := prepareTracked_unstamped hFind hProc hNot
  have hBinding : s.prepareBinding services request eventTime =
      s.prepareBinding services request invalidTime := by
    rw [prepareBinding, prepareBinding]
    cases hCaller : s.updateExtensionStatusForCaller request with
    | error fault => rfl
    | ok caller =>
        obtain ⟨hMap, hUntouched⟩ : caller.1.osAccountsInfoMap = s.osAccountsInfoMap ∧
            StartUntouched s caller.1 owner request.target.pid :=
          updateExtensionStatusForCaller_untouched hWf hCaller
        obtain ⟨middle, hMiddle, hSame⟩ := hUntouched.record proc hProc
        apply prepareTarget_unstamped _ hMiddle
        · rw [checkCurrentEventHappenedBeforeAbilityStart, hSame.startingAbilityTime]
          exact hNot
        · rw [findBundle_congr hMap]
          exact hFind
  rw [prepareRequest, prepareRequest]
  cases hIs : request.reason
  case bindExtension => exact hBinding
  case unbindExtension => exact hBinding
  case createProcess => rfl
  case renderCreateProcess => rfl
  case abilityStart => simp [AppStateUpdateReason.updatesProcess, hIs] at hReason
  all_goals exact hTracked

/-- The stamps of a start and of an event tell seconds apart, and nothing less. -/
theorem ProcessPriorityInfo.checkCurrentEventHappenedBeforeAbilityStart_eq {startMs : Nat}
    (hStamp : proc.startingAbilityTime = getSystemTimeMs startMs) (eventMs : Nat) :
    proc.checkCurrentEventHappenedBeforeAbilityStart (getSystemTimeMs eventMs) =
      decide (eventMs / 1000 < startMs / 1000) := by
  have hStamped : getSystemTimeMs eventMs ≠ invalidTime := by
    rw [getSystemTimeMs, invalidTime]
    omega
  rw [checkCurrentEventHappenedBeforeAbilityStart, if_neg hStamped, hStamp]
  exact decide_eq_decide.mpr Int.ofNat_lt

namespace Service

variable {sys : Service} {eventMs startMs : Nat}

/-- An event of an earlier second leaves the start alone. -/
theorem olderEventIgnored (hReason : reason.updatesProcess = true)
    (hSecond : eventMs / 1000 < startMs / 1000) : OlderEventIgnored reason eventMs startMs := by
  intro platform sys sys' request services bundle proc hIs run hStart hStep
  have hOlder :
      proc.checkCurrentEventHappenedBeforeAbilityStart (getSystemTimeMs eventMs) = true := by
    rw [checkCurrentEventHappenedBeforeAbilityStart_eq hStart.stamp]
    exact decide_eq_true hSecond
  obtain ⟨prepared, fuel, hPrepare, hFinish⟩ := hStep.prepared
  obtain ⟨s', rfl, hUntouched⟩ := prepareRequest_older run.wellFormed (hIs ▸ hReason) hStart.find
    hStart.record hStart.starting hOlder hPrepare
  cases hFinish
  obtain ⟨after, hAfter, hSame⟩ := hUntouched.record proc hStart.record
  exact ⟨after, hAfter, hSame.isAbilityStarting.trans hStart.starting, hSame.priority,
    hUntouched.priority⟩

/-- An event of the second of the start, or of a later one. -/
theorem exec_unstamped {fuel : Nat} (hWf : WellFormed sys.manager)
    (hReason : request.reason.updatesProcess = true) (hStart : InStart sys request bundle proc startMs)
    (hSecond : startMs / 1000 ≤ eventMs / 1000) :
    Service.manager <$> sys.exec platform fuel (.posted request eventMs services) =
      Service.manager <$> sys.exec platform fuel
        (.updateReclaimPriorityInner request invalidTime services) := by
  have hNot : proc.checkCurrentEventHappenedBeforeAbilityStart (getSystemTimeMs eventMs) = false := by
    rw [checkCurrentEventHappenedBeforeAbilityStart_eq hStart.stamp]
    exact decide_eq_false (not_lt.mpr hSecond)
  rw [exec_eq, exec_eq, prepare, Op.posted, prepare,
    prepareRequest_unstamped hWf hReason hStart.find hStart.record hNot]

/-- A process in the background. -/
def inBackground : Service :=
  (Scenario.reached [Scenario.event .createProcess 1 20000001,
    Scenario.event .background 1 20000001]).get (by decide)

/-- A request for that process, with a caller nobody tracks. -/
def backgroundRequest (reason : AppStateUpdateReason) : UpdateRequest :=
  ⟨⟨0, 0, "", ""⟩, ⟨1, 20000001, "", toString 20000001⟩, reason⟩

/-- The start of an ability from there. -/
def startedAt (startMs : Nat) : Service :=
  (inBackground.exec Scenario.platform 40
    (.posted (backgroundRequest .abilityStart) startMs Scenario.services)).toOption.get rfl

def startedProcAt (startMs : Nat) : ProcessPriorityInfo :=
  (((startedAt startMs).manager.bundles 0).procs[(1 : Int)]?).get rfl

/-- A start at any time is reached by a run. -/
theorem run_startedAt (startMs : Nat) : Run Scenario.platform anyOp (startedAt startMs) := by
  have hBefore : Run Scenario.platform anyOp inBackground :=
    Scenario.run_reached (fun _ _ _ => trivial) (by decide)
  exact .succ hBefore trivial ⟨40, Scenario.eq_ok_get _⟩

theorem inStart_startedAt (reason : AppStateUpdateReason) (startMs : Nat) :
    InStart (startedAt startMs) (backgroundRequest reason) 0 (startedProcAt startMs) startMs where
  find := rfl
  record := (Option.some_get _).symm
  starting := rfl
  stamp := rfl

/-- What an event without a time stamp makes of it. -/
def unstampedAfter (reason : AppStateUpdateReason) (startMs : Nat) : Except Fault Service :=
  (startedAt startMs).exec Scenario.platform 40
    (.updateReclaimPriorityInner (backgroundRequest reason) invalidTime Scenario.services)

/-- The start is finished, or the process demoted. -/
theorem unstampedAfter_touches (hReason : reason.updatesProcess = true) (startMs : Nat) :
    (unstampedAfter reason startMs).toOption.any (fun sys =>
      ((sys.manager.bundles 0).procs[(1 : Int)]?).all fun after =>
        !(after.isAbilityStarting && after.priority = (startedProcAt startMs).priority)) = true := by
  cases reason <;> first | exact absurd hReason (by decide) | rfl

/-- Within the same second an older event is not recognised. -/
theorem not_olderEventIgnored (hReason : reason.updatesProcess = true)
    (hSecond : startMs / 1000 ≤ eventMs / 1000) : ¬ OlderEventIgnored reason eventMs startMs := by
  intro hIgnored
  have run := run_startedAt startMs
  have hStart := inStart_startedAt reason startMs
  have hSame := @exec_unstamped Scenario.platform Scenario.services 0 (startedProcAt startMs)
    (backgroundRequest reason) (startedAt startMs) eventMs startMs 40 run.wellFormed hReason hStart hSecond
  have hTouches := unstampedAfter_touches hReason startMs
  cases hUnstamped : unstampedAfter reason startMs with
  | error fault =>
      rw [hUnstamped] at hTouches
      cases hTouches
  | ok unstamped =>
      rw [hUnstamped] at hTouches
      rw [unstampedAfter] at hUnstamped
      rw [hUnstamped] at hSame
      cases hExec : (startedAt startMs).exec Scenario.platform 40
          (.posted (backgroundRequest reason) eventMs Scenario.services) with
      | error fault =>
          rw [hExec] at hSame
          cases hSame
      | ok sys' =>
          rw [hExec] at hSame
          have hManager : sys'.manager = unstamped.manager := Except.ok.inj hSame
          obtain ⟨after, hAfter, hStarting, hPriority, -⟩ := hIgnored Scenario.platform _ sys' _
            Scenario.services 0 _ rfl run hStart ⟨40, hExec⟩
          rw [hManager] at hAfter
          have hAfter : (unstamped.manager.bundles 0).procs[(1 : Int)]? = some after := hAfter
          simp [Except.toOption, hAfter, hStarting, hPriority] at hTouches

/-- Stamps are in seconds: an event is ignored when it was posted in an earlier second. -/
theorem olderEventIgnored_iff (hReason : reason.updatesProcess = true) :
    OlderEventIgnored reason eventMs startMs ↔ eventMs / 1000 < startMs / 1000 := by
  constructor
  · intro hIgnored
    by_contra hSecond
    exact not_olderEventIgnored hReason (not_lt.mp hSecond) hIgnored
  · exact olderEventIgnored hReason

/-- An event a second older than the start is ignored. -/
theorem olderEventIgnored_secondApart : OlderEventIgnored .background 500 1500 :=
  (olderEventIgnored_iff (by decide)).mpr (by decide)

/-- An event half a second older, in the same second, is not. -/
theorem not_olderEventIgnored_sameSecond : ¬ OlderEventIgnored .background 1200 1700 :=
  not_olderEventIgnored (by decide) (by decide)

end Service
end MemMgr
