import MemMgr.ExtensionPass
import MemMgr.KernelView
import MemMgr.Prepare
import MemMgr.Termination

/-! Processes that are starting an ability: which operations begin and finish a start,
and what they do to the timers. -/
namespace MemMgr

open Std (ExtTreeMap)
open Execution ReclaimPriorityManager BundlePriorityInfo ProcessPriorityInfo

/-- The pending tasks under the name of a process. -/
def ReclaimPriorityManager.timersOf (s : ReclaimPriorityManager) (pid : Int) : List DelayedTask :=
  s.handler.filter fun task => task.taskName = abilityStartTaskName pid

/-- Two records of one process, perhaps at different priorities. -/
def SameUid (before after : ProcessPriorityInfo) : Prop := after.uid = before.uid

/-- Two records of one process at the same priority. -/
def SameStart (before after : ProcessPriorityInfo) : Prop :=
  after.uid = before.uid ∧ after.priority = before.priority

/-- Every starting process was starting before. -/
def StartsFrom (kept : ProcessPriorityInfo → ProcessPriorityInfo → Prop)
    (s s' : ReclaimPriorityManager) : Prop :=
  ∀ bundle pid proc, s'.TracksProc bundle pid proc → proc.isAbilityStarting = true →
    ∃ before, s.TracksProc bundle pid before ∧ before.isAbilityStarting = true ∧ kept before proc

variable {platform : Platform} {services : Services} {kept : ProcessPriorityInfo → ProcessPriorityInfo → Prop}
variable {s s₁ s' : ReclaimPriorityManager} {bundle : BundleRef} {pid : Int} {proc : ProcessPriorityInfo}
variable {info : BundlePriorityInfo}

namespace StartsFrom

/-- If each starting record of the new state was tracked before, no start has come up. -/
theorem of_tracks (hKept : ∀ proc, kept proc proc)
    (h : ∀ bundle pid proc, s'.TracksProc bundle pid proc → proc.isAbilityStarting = true →
      s.TracksProc bundle pid proc) : StartsFrom kept s s' :=
  fun bundle pid proc hTracks hStarting => ⟨proc, h bundle pid proc hTracks hStarting, hStarting, hKept proc⟩

/-- What two changes in a row keep of a starting record, both together keep. -/
theorem trans (left : StartsFrom kept s s₁) (right : StartsFrom kept s₁ s')
    (hTrans : ∀ {first second third}, kept first second → kept second third → kept first third) :
    StartsFrom kept s s' := by
  intro bundle pid proc hTracks hStarting
  obtain ⟨middle, hMiddle, hStarts, hRight⟩ := right bundle pid proc hTracks hStarting
  obtain ⟨before, hBefore, hStart, hLeft⟩ := left bundle pid middle hMiddle hStarts
  exact ⟨before, hBefore, hStart, hTrans hLeft hRight⟩

/-- A change that keeps more of a starting record also keeps less of it. -/
theorem mono {weaker : ProcessPriorityInfo → ProcessPriorityInfo → Prop} (h : StartsFrom kept s s')
    (hWeaker : ∀ {before after}, kept before after → weaker before after) : StartsFrom weaker s s' := by
  intro bundle pid proc hTracks hStarting
  obtain ⟨before, hBefore, hStart, hKept⟩ := h bundle pid proc hTracks hStarting
  exact ⟨before, hBefore, hStart, hWeaker hKept⟩

/-- One object changes. -/
theorem update (hKept : ∀ proc, kept proc proc) (hTracked : ∀ other, s'.Tracked other → s.Tracked other)
    (hHeap : s'.bundles = Function.update s.bundles bundle info)
    (hInfo : ∀ (pid : Int) after, info.procs[pid]? = some after → after.isAbilityStarting = true →
      ∃ before, (s.bundles bundle).procs[pid]? = some before ∧ before.isAbilityStarting = true ∧
        kept before after) : StartsFrom kept s s' := by
  intro other pid proc hTracks hStarting
  rcases hTracks.of_update hHeap with ⟨hIs, hProc⟩ | ⟨-, hProc⟩
  · obtain ⟨before, hBefore, hStart, hSame⟩ := hInfo pid proc hProc hStarting
    exact ⟨before, ⟨hTracked other hTracks.1, hIs ▸ hBefore⟩, hStart, hSame⟩
  · exact ⟨proc, ⟨hTracked other hTracks.1, hProc⟩, hStarting, hKept proc⟩

/-- One record changes, and starts nothing. -/
theorem setProc {after : ProcessPriorityInfo} (hKept : ∀ proc, kept proc proc)
    (hProc : (s.bundles bundle).procs[pid]? = some proc) (hPid : after.pid = pid)
    (hStarts : after.isAbilityStarting = true → proc.isAbilityStarting = true ∧ kept proc after) :
    StartsFrom kept s (s.setProc bundle after) := by
  have hTracked : ∀ other, (s.setProc bundle after).Tracked other → s.Tracked other := fun _ h => h
  apply update hKept hTracked rfl
  intro key found hFound hStarting
  rw [setProc_procs] at hFound
  split_ifs at hFound with hKey
  · obtain rfl := Option.some.inj hFound
    rw [← hKey, hPid]
    exact ⟨proc, hProc, hStarts hStarting⟩
  · exact ⟨found, hFound, hStarting, hKept found⟩

/-- A recomputation changes priorities only. -/
theorem repricing {result : ProcessPriorityInfo → Prop} (h : Repricing result s s') :
    StartsFrom SameUid s s' := by
  intro bundle pid after hTracks hStarting
  obtain ⟨before, hBefore, hSame, -⟩ := h.before hTracks.2
  rw [hSame] at hStarting
  refine ⟨before, ⟨(tracked_congr h.osAccountsInfoMap).mp hTracks.1, hBefore⟩, hStarting, ?_⟩
  rw [SameUid, hSame]
  rfl

end StartsFrom

theorem sameUid_self (proc : ProcessPriorityInfo) : SameUid proc proc := rfl

theorem SameUid.trans {first second third : ProcessPriorityInfo} (left : SameUid first second)
    (right : SameUid second third) : SameUid first third := Eq.trans right left

theorem sameStart_self (proc : ProcessPriorityInfo) : SameStart proc proc := ⟨rfl, rfl⟩

theorem SameStart.trans {first second third : ProcessPriorityInfo} (left : SameStart first second)
    (right : SameStart second third) : SameStart first third :=
  ⟨right.1.trans left.1, right.2.trans left.2⟩

/-- What an operation does to the starts before any priority is computed again. -/
inductive StartEffect (s s₁ : ReclaimPriorityManager) : Prop where
  | quiet (hStarts : StartsFrom SameStart s s₁) (hTimers : s₁.timersOf = s.timersOf)
  | finished (bundle : BundleRef) (pid : Int) (hTracks : s.TracksPid bundle pid)
      (hStarts : StartsFrom SameStart s s₁)
      (hDone : ∀ proc, s₁.TracksProc bundle pid proc → proc.isAbilityStarting = false)
      (hHandler : s₁.handler = removeTimerForAbilityStartCompletedCheck pid s.handler)
  | begun (bundle : BundleRef) (pid : Int) (proc : ProcessPriorityInfo)
      (hTracks : s.TracksProc bundle pid proc)
      (hStarts : ∀ other key after, s₁.TracksProc other key after →
        ¬ (other = bundle ∧ key = pid) → s.TracksProc other key after)
      (hRecord : ∀ after, s₁.TracksProc bundle pid after →
        after.uid = proc.uid ∧ after.priority = reclaimPriorityForeground)
      (hHandler : s₁.handler = setTimerForAbilityStartCompletedCheck pid proc.uid
        (getOsAccountIdByUid proc.uid) (removeTimerForAbilityStartCompletedCheck pid s.handler))

/-- The timers of a process depend on the handler alone. -/
theorem timersOf_congr (h : s'.handler = s.handler) : s'.timersOf = s.timersOf := by
  funext pid
  rw [timersOf, timersOf, h]

/-- As long as the accounts and the heap are untouched, no start comes up. -/
theorem startsFrom_congr (hMap : s'.osAccountsInfoMap = s.osAccountsInfoMap) (hHeap : s'.bundles = s.bundles) :
    StartsFrom SameStart s s' :=
  .of_tracks sameStart_self fun _ _ _ hTracks _ => (tracksProc_congr hMap hHeap).mp hTracks

/-- A change of anything but the accounts, the heap and the handler has no effect on starts. -/
theorem StartEffect.of_congr (hMap : s'.osAccountsInfoMap = s.osAccountsInfoMap)
    (hHeap : s'.bundles = s.bundles) (hHandler : s'.handler = s.handler) : StartEffect s s' :=
  .quiet (startsFrom_congr hMap hHeap) (timersOf_congr hHandler)

/-- Writing files at the end changes nothing about it. -/
theorem StartEffect.congr (h : StartEffect s s₁) (hMap : s'.osAccountsInfoMap = s₁.osAccountsInfoMap)
    (hHeap : s'.bundles = s₁.bundles) (hHandler : s'.handler = s₁.handler) : StartEffect s s' := by
  have hTracks : ∀ {bundle pid proc}, s'.TracksProc bundle pid proc ↔ s₁.TracksProc bundle pid proc :=
    tracksProc_congr hMap hHeap
  have hStarts : ∀ {kept}, StartsFrom kept s s₁ → StartsFrom kept s s' :=
    fun hStarts bundle pid proc hProc => hStarts bundle pid proc (hTracks.mp hProc)
  cases h with
  | quiet hOld hTimers => exact .quiet (hStarts hOld) ((timersOf_congr hHandler).trans hTimers)
  | finished bundle pid hTracked hOld hDone hOldHandler =>
      exact .finished bundle pid hTracked (hStarts hOld) (fun proc hProc => hDone proc (hTracks.mp hProc))
        (hHandler.trans hOldHandler)
  | begun bundle pid proc hTracked hOld hRecord hOldHandler =>
      exact .begun bundle pid proc hTracked (fun other key after hProc => hOld other key after (hTracks.mp hProc))
        (fun after hProc => hRecord after (hTracks.mp hProc)) (hHandler.trans hOldHandler)

/-- Writing the file of a bundle posts and removes no task. -/
theorem writeBundleOomScoreAdj_handler (bundle : BundleRef) :
    (s.writeBundleOomScoreAdj bundle).handler = s.handler := by
  rw [writeBundleOomScoreAdj_eq]

/-- The handlers of events either leave the start and the timers alone, or finish both. -/
theorem changeProc_start (reason : AppStateUpdateReason) (eventTime : Int) (proc : ProcessPriorityInfo)
    (handler : List DelayedTask) :
    (changeProc reason eventTime (proc, handler)).1.isAbilityStarting = proc.isAbilityStarting ∧
        (changeProc reason eventTime (proc, handler)).2 = handler ∨
      (changeProc reason eventTime (proc, handler)).1.isAbilityStarting = false ∧
        (changeProc reason eventTime (proc, handler)).2 =
          removeTimerForAbilityStartCompletedCheck proc.pid handler := by
  obtain ⟨flagged, hSame, hSet | ⟨-, hFinish⟩⟩ := changeProc_flags reason proc
  · left
    rw [hSet]
    exact ⟨hSame.isAbilityStarting, rfl⟩
  · rw [hFinish, finishAbilityStartIfNeed]
    split_ifs
    · right
      rw [← hSame.identity.pid]
      exact ⟨rfl, rfl⟩
    · left
      exact ⟨hSame.isAbilityStarting, rfl⟩

/-- Setting the flags of a record ends its start and removes its timer, or leaves both alone. -/
theorem flagged_startEffect (hWf : WellFormed s) (hTracks : s.TracksProc bundle pid proc)
    (reason : AppStateUpdateReason) (eventTime : Int) :
    StartEffect s (s.flagged reason bundle proc eventTime) := by
  obtain ⟨hSame, hPriority⟩ := changeProc_same reason eventTime proc s.handler
  have hOld := ((hWf.covered bundle).record _ _ hTracks.2).pid
  have hPid := hSame.pid.trans hOld
  rcases changeProc_start reason eventTime proc s.handler with hKept | hFinished
  · apply StartEffect.quiet
    · apply StartsFrom.setProc sameStart_self hTracks.2 hPid
      intro hStarting
      exact ⟨hKept.1.symm.trans hStarting, hSame.uid, hPriority⟩
    · exact timersOf_congr hKept.2
  · apply StartEffect.finished bundle pid ⟨proc, hTracks⟩
    · apply StartsFrom.setProc sameStart_self hTracks.2 hPid
      intro hStarting
      exact absurd hStarting (by simp [hFinished.1])
    · intro after hAfter
      have hFlagged : (s.flagged reason bundle proc eventTime).TracksProc bundle pid _ :=
        tracksProc_flagged hWf hTracks
      have hRecord := hFlagged.2
      obtain rfl := Option.some.inj (hRecord.symm.trans hAfter.2)
      exact hFinished.1
    · rw [← hOld]
      exact hFinished.2

/-- The state in which a request stands when its flags are set. -/
def Prepared.state : Prepared → ReclaimPriorityManager
  | .done s => s
  | .recompute s _ _ => s

/-- A status event ends the start of its process together with the timer, or touches neither. -/
theorem prepareUpdate_startEffect (hWf : WellFormed s) (hTracks : s.TracksProc bundle pid proc)
    (reason : AppStateUpdateReason) (eventTime : Int) :
    StartEffect s (s.prepareUpdate reason bundle proc eventTime).state := by
  have hFlagged := flagged_startEffect hWf hTracks reason eventTime
  rw [prepareUpdate_eq]
  split_ifs
  · exact hFlagged.congr writeBundleOomScoreAdj_osAccountsInfoMap writeBundleOomScoreAdj_bundles
      (writeBundleOomScoreAdj_handler bundle)
  · exact hFlagged

/-- A change that starts nothing and leaves the pending tasks alone. -/
structure QuietChange (kept : ProcessPriorityInfo → ProcessPriorityInfo → Prop)
    (s s' : ReclaimPriorityManager) : Prop where
  starts : StartsFrom kept s s'
  handler : s'.handler = s.handler

namespace QuietChange

theorem refl (s : ReclaimPriorityManager) : QuietChange SameStart s s :=
  ⟨startsFrom_congr rfl rfl, rfl⟩

theorem congr (hMap : s'.osAccountsInfoMap = s.osAccountsInfoMap) (hHeap : s'.bundles = s.bundles)
    (hHandler : s'.handler = s.handler) : QuietChange SameStart s s' :=
  ⟨startsFrom_congr hMap hHeap, hHandler⟩

theorem trans (left : QuietChange SameStart s s₁) (right : QuietChange SameStart s₁ s') :
    QuietChange SameStart s s' :=
  ⟨left.starts.trans right.starts SameStart.trans, right.handler.trans left.handler⟩

/-- A record that is written back with its identity and priority, and without a new start, is a
quiet change. -/
theorem setProc {after : ProcessPriorityInfo} (hWf : WellFormed s)
    (hTracks : s.TracksProc bundle pid proc) (hSame : SameIdentity proc after)
    (hPriority : after.priority = proc.priority)
    (hStarting : after.isAbilityStarting = true → proc.isAbilityStarting = true) :
    QuietChange SameStart s (s.setProc bundle after) := by
  have hPid := hSame.pid.trans ((hWf.covered bundle).record _ _ hTracks.2).pid
  exact ⟨.setProc sameStart_self hTracks.2 hPid fun h => ⟨hStarting h, hSame.uid, hPriority⟩, rfl⟩

/-- A quiet change is one of the effects that a step may have on starts. -/
theorem startEffect (h : QuietChange SameStart s s') : StartEffect s s' :=
  .quiet h.starts (timersOf_congr h.handler)

end QuietChange

/-- Bindings. -/
theorem updateExtensionStatusForCaller_quiet (hWf : WellFormed s) {request : UpdateRequest} {ret : Bool}
    (hRun : s.updateExtensionStatusForCaller request = .ok (s', ret)) : QuietChange SameStart s s' := by
  rcases updateExtensionStatusForCaller_form hRun with rfl | ⟨bundle, proc, bindings, hTracks, rfl⟩
  · exact .refl _
  · exact .setProc hWf hTracks ⟨rfl, rfl, rfl, rfl, rfl⟩ rfl id

/-- Bindings leave the start of their target and the handler as they are. -/
theorem changeProc_bindings_start {reason : AppStateUpdateReason}
    (hReason : reason = .bindExtension ∨ reason = .unbindExtension) (eventTime : Int)
    (proc : ProcessPriorityInfo) (handler : List DelayedTask) :
    (changeProc reason eventTime (proc, handler)).1.isAbilityStarting = proc.isAbilityStarting ∧
      (changeProc reason eventTime (proc, handler)).2 = handler := by
  obtain ⟨flagged, hSame, hSet | ⟨hOther, -⟩⟩ := changeProc_flags reason proc
  · rw [hSet]
    exact ⟨hSame.isAbilityStarting, rfl⟩
  · rcases hReason with rfl | rfl <;> simp at hOther

/-- The caller that is noted at a target does not change whether the target is starting. -/
theorem bindTarget_start (request : UpdateRequest) (proc : ProcessPriorityInfo) :
    (bindTarget request proc).isAbilityStarting = proc.isAbilityStarting := by
  rw [bindTarget]
  cases request.reason <;> rfl

/-- A binding or an unbinding is a quiet change of its target. -/
theorem prepareUpdate_quiet (hWf : WellFormed s) (hTracks : s.TracksProc bundle pid proc)
    {reason : AppStateUpdateReason} (hReason : reason = .bindExtension ∨ reason = .unbindExtension)
    (eventTime : Int) : QuietChange SameStart s (s.prepareUpdate reason bundle proc eventTime).state := by
  obtain ⟨hSame, hPriority⟩ := changeProc_same reason eventTime proc s.handler
  obtain ⟨hStarting, hHandler⟩ := changeProc_bindings_start hReason eventTime proc s.handler
  have hSet : QuietChange SameStart s (s.setProc bundle (changeProc reason eventTime (proc, s.handler)).1) :=
    .setProc hWf hTracks hSame hPriority fun h => hStarting ▸ h
  have hFlagged : QuietChange SameStart s (s.flagged reason bundle proc eventTime) := ⟨hSet.starts, hHandler⟩
  rw [prepareUpdate_eq]
  split_ifs
  · exact hFlagged.trans (.congr writeBundleOomScoreAdj_osAccountsInfoMap writeBundleOomScoreAdj_bundles
      (writeBundleOomScoreAdj_handler bundle))
  · exact hFlagged

/-- Up to the search for other extensions, a binding is a quiet change. -/
theorem prepareTarget_quiet (hWf : WellFormed s) {request : UpdateRequest} {eventTime : Int}
    {prepared : Prepared}
    (hReason : request.reason = .bindExtension ∨ request.reason = .unbindExtension)
    (hPrepare : s.prepareTarget services request eventTime = .ok prepared) :
    QuietChange SameStart s prepared.state := by
  cases preparedTarget hPrepare with
  | unchanged => exact .refl s
  | killable apps => exact .congr rfl rfl rfl
  | @bound apps bundle proc hTracks =>
      obtain ⟨hBound, hBoundPriority⟩ := bindTarget_same request proc
      have hNoted : WellFormed (s.noting s.handler apps) := wellFormed_noting hWf _ _
      have hNote : QuietChange SameStart s (s.noting s.handler apps) := .congr rfl rfl rfl
      have hBind : QuietChange SameStart (s.noting s.handler apps)
          ((s.noting s.handler apps).setProc bundle (bindTarget request proc)) :=
        .setProc hNoted hTracks hBound hBoundPriority fun h => bindTarget_start request proc ▸ h
      exact (hNote.trans hBind).trans (prepareUpdate_quiet
        (wellFormed_bindTarget hNoted hTracks request) (tracksProc_setProc hTracks) hReason eventTime)

/-- A new process starts nothing, and its timer has no name. -/
theorem createdProc_notStarting (platform : Platform) (target : ReqProc) (killable : Bool) :
    (createdProc platform target killable).isAbilityStarting = false := by
  rw [createdProc]
  dsimp only
  split_ifs <;> rfl

/-- The end of a creation admits a record that starts nothing. -/
theorem handleCreateProcess_finish_form (platform : Platform) (services : Services)
    (s : ReclaimPriorityManager) (target : ReqProc) (accountId : Int) (bundle : BundleRef) :
    ∃ apps proc, proc.isAbilityStarting = false ∧
      (handleCreateProcess.finish platform services target accountId s bundle).1 =
        ((((s.noting s.handler apps).admitProc platform bundle accountId proc).noting
          (s.handler ++ [DelayedTask.checkCreateProcPriorityDelay target.pid target.uid])
          apps).applyReclaimPriority bundle).1 := by
  obtain ⟨apps, killable, hApps⟩ := isKillableSystemApp_eq s services bundle
  refine ⟨apps, createdProc platform target killable, createdProc_notStarting _ _ _, ?_⟩
  rw [handleCreateProcess.finish, hApps]
  rfl

theorem abilityStartTaskName_ne (pid : Int) : "" ≠ abilityStartTaskName pid := by
  intro hName
  have hLength := congrArg String.length hName
  have hSuffix : "ABILITY_START".length = 13 := rfl
  rw [abilityStartTaskName, String.length_append, hSuffix] at hLength
  cases hLength

/-- The delayed check of a creation is no timer of a start. -/
theorem timersOf_create (s : ReclaimPriorityManager) (pid uid : Int) (apps : Std.ExtTreeSet String) :
    (s.noting (s.handler ++ [DelayedTask.checkCreateProcPriorityDelay pid uid]) apps).timersOf =
      s.timersOf := by
  funext other
  have hName : ¬ (DelayedTask.checkCreateProcPriorityDelay pid uid).taskName =
    abilityStartTaskName other := abilityStartTaskName_ne other
  simp [timersOf, noting, hName]

/-- A process that is let in without being started brings no start with it. -/
theorem admitProc_starts {accountId : Int} (hStarting : proc.isAbilityStarting = false)
    (hBundle : s.Tracked bundle ∨ ∀ pid : Int, (s.bundles bundle).procs[pid]? = none) :
    StartsFrom SameStart s (s.admitProc platform bundle accountId proc) := by
  apply StartsFrom.of_tracks sameStart_self
  intro other pid after hTracks hAfter
  rcases hTracks.of_update (admitProc_bundles accountId) with ⟨hIs, hProc⟩ | ⟨hIs, hProc⟩
  · rw [BundlePriorityInfo.updatePriority, addProc_procs] at hProc
    split_ifs at hProc
    · obtain rfl := Option.some.inj hProc
      exact Bool.noConfusion (hStarting.symm.trans hAfter)
    · rcases hBundle with hTracked | hNone
      · exact ⟨hIs ▸ hTracked, hIs ▸ hProc⟩
      · exact absurd ((hNone pid).symm.trans hProc) (by simp)
  · exact ⟨(tracked_of_admitProc hTracks.1).resolve_left hIs, hProc⟩

/-- A bundle that is allocated is not tracked yet, so nothing has changed for the starts. -/
theorem newBundle_quiet (hWf : WellFormed s) : QuietChange SameStart s (s.newBundle platform info) := by
  constructor
  · apply StartsFrom.of_tracks sameStart_self
    intro other pid after hTracks _
    have hTracked : s.Tracked other := hTracks.1
    have hProc := hTracks.2
    rw [newBundle_bundles, Function.update_of_ne (hWf.allocated hTracked).ne] at hProc
    exact ⟨hTracked, hProc⟩
  · rfl

/-- A creation starts nothing and posts a task without a name. -/
theorem createFinish_startEffect (target : ReqProc) (accountId : Int) (hChange : QuietChange SameStart s s₁)
    (hBundle : s₁.Tracked bundle ∨ ∀ pid : Int, (s₁.bundles bundle).procs[pid]? = none) :
    StartEffect s (handleCreateProcess.finish platform services target accountId s₁ bundle).1 := by
  obtain ⟨apps, proc, hStarting, hForm⟩ :=
    handleCreateProcess_finish_form platform services s₁ target accountId bundle
  have hNoted : StartsFrom SameStart s (s₁.noting s₁.handler apps) :=
    hChange.starts.trans (startsFrom_congr rfl rfl) SameStart.trans
  have hAdmitted : StartsFrom SameStart s
      ((s₁.noting s₁.handler apps).admitProc platform bundle accountId proc) :=
    hNoted.trans (admitProc_starts hStarting (hBundle.imp_left (tracked_congr rfl).mpr)) SameStart.trans
  rw [hForm]
  apply StartEffect.quiet
  · apply hAdmitted.trans _ SameStart.trans
    apply startsFrom_congr
    · exact writeBundleOomScoreAdj_osAccountsInfoMap
    · exact writeBundleOomScoreAdj_bundles
  · rw [← timersOf_congr hChange.handler, ← timersOf_create s₁ target.pid target.uid apps]
    apply timersOf_congr
    exact writeBundleOomScoreAdj_handler bundle

/-- A creation in an account that is there. -/
theorem createInAccount_startEffect (target : ReqProc) (hWf : WellFormed s₁)
    (hChange : QuietChange SameStart s s₁) : StartEffect s
      (match s₁.findBundle target.uid (getOsAccountIdByUid target.uid) with
        | some bundle => handleCreateProcess.finish platform services target
            (getOsAccountIdByUid target.uid) s₁ bundle
        | none =>
            if !services.makeBundle then (s₁, false)
            else handleCreateProcess.finish platform services target (getOsAccountIdByUid target.uid)
              (s₁.newBundle platform (.create target.bundleName target.uid reclaimPriorityBackground
                services.systemCurTime)) s₁.nextRef).1 := by
  cases hFind : s₁.findBundle target.uid (getOsAccountIdByUid target.uid) with
  | some bundle => exact createFinish_startEffect target _ hChange (Or.inl ⟨_, _, hFind⟩)
  | none =>
      dsimp only
      split_ifs
      · exact hChange.startEffect
      · apply createFinish_startEffect target _ (hChange.trans (newBundle_quiet hWf))
        apply Or.inr
        intro pid
        rw [newBundle_bundles, Function.update_self]
        simp [BundlePriorityInfo.create]

/-- A creation brings up no start and removes no timer. -/
theorem handleCreateProcess_startEffect (hWf : WellFormed s) (target : ReqProc) (isRender : Bool) :
    StartEffect s
      (s.handleCreateProcess platform services target (getOsAccountIdByUid target.uid) isRender).1 := by
  rw [handleCreateProcess]
  split
  · exact .of_congr rfl rfl rfl
  split
  · exact .of_congr rfl rfl rfl
  · cases hAccount : s.findOsAccountById (getOsAccountIdByUid target.uid) with
    | some account => exact createInAccount_startEffect target hWf (.refl s)
    | none =>
        have hEffect : Effect platform noBundle s
            (s.addOsAccountInfo (.create (getOsAccountIdByUid target.uid))) := .openAccount hAccount
        apply createInAccount_startEffect target (hWf.effect hEffect)
        constructor
        · apply StartsFrom.of_tracks sameStart_self
          intro other pid after hTracks _
          exact ⟨(tracked_openAccount hAccount).mp hTracks.1, hTracks.2⟩
        · rfl

/-- The removal of an account without bundles leaves the handler alone. -/
theorem closeIfEmpty_handler (accountId : Int) : (s.closeIfEmpty accountId).handler = s.handler := by
  rw [closeIfEmpty]
  cases s.findOsAccountById accountId with
  | none => rfl
  | some account =>
      dsimp only
      split_ifs <;> rfl

/-- The removal of a process leaves the tasks of the handler alone, its timer included. -/
theorem withoutProc_handler (accountId : Int) :
    (s.withoutProc platform bundle accountId proc).handler = s.handler := by
  rw [withoutProc]
  split_ifs <;> rfl

/-- The end of a process is a quiet change for all the others. -/
theorem handleTerminateProcess_quiet (hWf : WellFormed s) {uid : Int}
    (hFind : s.findBundle uid (getOsAccountIdByUid uid) = some bundle)
    (hProc : (s.bundles bundle).procs[pid]? = some proc) :
    QuietChange SameStart s (s.handleTerminateProcess platform proc bundle (getOsAccountIdByUid uid)).1 := by
  have hAfter := wellFormed_withoutProc hWf hFind hProc platform
  rw [handleTerminateProcess_eq]
  constructor
  · apply @StartsFrom.update SameStart s _ bundle _ sameStart_self
    · intro other hTracked
      rw [tracked_closeIfEmpty hAfter.accountId] at hTracked
      exact ((tracked_withoutProc hWf hFind platform proc other).mp hTracked).1
    · rw [closeIfEmpty_bundles]
      exact withoutProc_bundles platform s bundle _ proc
    · intro key after hFound hStarting
      have hLeft : ((s.bundles bundle).removeProcByPid proc.pid).procs[key]? = some after := by
        split_ifs at hFound <;> exact hFound
      rw [removeProcByPid_procs] at hLeft
      split_ifs at hLeft
      exact ⟨after, hLeft, hStarting, sameStart_self after⟩
  · rw [closeIfEmpty_handler, withoutProc_handler]

/-- A suspension moves every priority of the bundle. -/
theorem handleApplicationSuspend_bundles (bundle : BundleRef) :
    (s.handleApplicationSuspend platform bundle).1.bundles =
      Function.update s.bundles bundle (suspendProcs (s.bundles bundle)).updatePriority := by
  show (((s.modifyBundle bundle suspendProcs).updateBundlePriority platform
    bundle).writeBundleOomScoreAdj bundle).bundles = _
  rw [writeBundleOomScoreAdj_bundles]
  exact resort_bundles suspendProcs

theorem handleApplicationSuspend_osAccountsInfoMap (bundle : BundleRef) :
    (s.handleApplicationSuspend platform bundle).1.osAccountsInfoMap = s.osAccountsInfoMap := by
  show (((s.modifyBundle bundle suspendProcs).updateBundlePriority platform
    bundle).writeBundleOomScoreAdj bundle).osAccountsInfoMap = _
  rw [writeBundleOomScoreAdj_osAccountsInfoMap]
  rfl

/-- A suspended app has its processes moved, and none of them starts by that. -/
theorem handleApplicationSuspend_moves (bundle : BundleRef) :
    QuietChange SameUid s (s.handleApplicationSuspend platform bundle).1 := by
  constructor
  · have hTracked : ∀ other, (s.handleApplicationSuspend platform bundle).1.Tracked other →
        s.Tracked other :=
      fun other => (tracked_congr (handleApplicationSuspend_osAccountsInfoMap bundle)).mp
    apply StartsFrom.update sameUid_self hTracked (handleApplicationSuspend_bundles bundle)
    intro key after hFound hStarting
    rw [BundlePriorityInfo.updatePriority, suspendProcs, Std.ExtTreeMap.getElem?_map,
      Option.map_eq_some_iff] at hFound
    obtain ⟨before, hBefore, rfl⟩ := hFound
    exact ⟨before, hBefore, hStarting, rfl⟩
  · exact writeBundleOomScoreAdj_handler bundle

/-- The record of a process that starts an ability. -/
def startedProc (proc : ProcessPriorityInfo) (eventTime : Int) : ProcessPriorityInfo :=
  { proc.setPriority reclaimPriorityForeground with
    startingAbilityTime := eventTime, isAbilityStarting := true }

/-- A start changes the heap at its own bundle only, where the record is marked and priced. -/
theorem abilityStartingBegin_bundles (eventTime : Int) :
    (s.abilityStartingBegin platform bundle proc eventTime).bundles = Function.update s.bundles bundle
      ((s.bundles bundle).setProc (startedProc proc eventTime)).updatePriority := by
  show (((s.setProc bundle (startedProc proc eventTime)).updateBundlePriority platform
    bundle).writeBundleOomScoreAdj bundle).bundles = _
  rw [writeBundleOomScoreAdj_bundles]
  exact resort_bundles fun info => info.setProc (startedProc proc eventTime)

/-- A start leaves the accounts as they are. -/
theorem abilityStartingBegin_osAccountsInfoMap (eventTime : Int) :
    (s.abilityStartingBegin platform bundle proc eventTime).osAccountsInfoMap = s.osAccountsInfoMap := by
  show (((s.setProc bundle (startedProc proc eventTime)).updateBundlePriority platform
    bundle).writeBundleOomScoreAdj bundle).osAccountsInfoMap = _
  rw [writeBundleOomScoreAdj_osAccountsInfoMap]
  rfl

theorem abilityStartingBegin_handler (eventTime : Int) :
    (s.abilityStartingBegin platform bundle proc eventTime).handler = s.handler :=
  writeBundleOomScoreAdj_handler bundle

/-- A start raises its process and sets its timer, or nothing happens. -/
theorem handleAbilityStart_startEffect (hWf : WellFormed s) {request : UpdateRequest} {eventTime : Int}
    {ret : Bool} (hRun : s.handleAbilityStart platform request eventTime = .ok (s', ret)) :
    StartEffect s s' := by
  rcases handleAbilityStart_form hRun with rfl | ⟨bundle, proc, hFind, hProc, -, rfl⟩
  · exact .of_congr rfl rfl rfl
  · have hRecord := (hWf.covered bundle).record _ _ hProc
    have hUid : proc.uid = request.target.uid := hRecord.uid.trans (hWf.stored hFind).1
    have hMap := @abilityStartingBegin_osAccountsInfoMap platform s bundle proc eventTime
    have hBundles := @abilityStartingBegin_bundles platform s bundle proc eventTime
    apply StartEffect.begun bundle request.target.pid proc ⟨⟨_, _, hFind⟩, hProc⟩
    · intro other key after hTracks hNe
      have hAfter := hTracks.2
      have hTracked : s.Tracked other := (tracked_congr hMap).mp hTracks.1
      dsimp only at hAfter
      rw [hBundles, Function.update_apply] at hAfter
      split_ifs at hAfter with hIs
      · rw [BundlePriorityInfo.updatePriority, setProc_procs, if_neg] at hAfter
        · exact ⟨hTracked, hIs ▸ hAfter⟩
        · intro hKey
          exact hNe ⟨hIs, hKey.symm.trans hRecord.pid⟩
      · exact ⟨hTracked, hAfter⟩
    · intro after hTracks
      have hAfter := hTracks.2
      have hKey : (startedProc proc eventTime).pid = request.target.pid := hRecord.pid
      dsimp only at hAfter
      rw [hBundles, Function.update_self, BundlePriorityInfo.updatePriority, setProc_procs,
        if_pos hKey] at hAfter
      obtain rfl := Option.some.inj hAfter
      exact ⟨rfl, rfl⟩
    · dsimp only
      rw [abilityStartingBegin_handler, hRecord.pid, hUid]

/-- Events of tracked processes, suspensions apart, bring up no start without its timer. -/
theorem prepareTracked_startEffect (hWf : WellFormed s) {request : UpdateRequest} {eventTime : Int}
    {prepared : Prepared} (hReason : request.reason ≠ .applicationSuspend)
    (hPrepare : s.prepareTracked platform request eventTime = .ok prepared) :
    StartEffect s prepared.state := by
  cases preparedTracked hPrepare with
  | unchanged => exact .of_congr rfl rfl rfl
  | suspended bundle hSuspend => exact absurd hSuspend hReason
  | terminated _ hFind hProc => exact (handleTerminateProcess_quiet hWf hFind hProc).startEffect
  | updated _ hTracks => exact prepareUpdate_startEffect hWf hTracks request.reason eventTime

/-- Bindings have no effect on starts. -/
theorem prepareBinding_startEffect (hWf : WellFormed s) {request : UpdateRequest} {eventTime : Int}
    {prepared : Prepared} (hReason : request.reason = .bindExtension ∨ request.reason = .unbindExtension)
    (hPrepare : s.prepareBinding services request eventTime = .ok prepared) :
    StartEffect s prepared.state := by
  obtain ⟨caller, hCaller, hPrepare⟩ := bind_eq_ok.mp hPrepare
  have hCallerQuiet := updateExtensionStatusForCaller_quiet hWf hCaller
  have hTargetQuiet := prepareTarget_quiet (wellFormed_caller hWf hCaller) hReason hPrepare
  exact (hCallerQuiet.trans hTargetQuiet).startEffect

/-- What a request does before its loop has one of the effects on starts. -/
theorem prepareRequest_startEffect (hWf : WellFormed s) {request : UpdateRequest} {eventTime : Int}
    {prepared : Prepared} (hSuspend : request.reason ≠ .applicationSuspend)
    (hPrepare : s.prepareRequest platform services request eventTime = .ok prepared) :
    StartEffect s prepared.state := by
  rw [prepareRequest] at hPrepare
  cases hReason : request.reason <;> rw [hReason] at hPrepare
  case bindExtension => exact prepareBinding_startEffect hWf (Or.inl hReason) hPrepare
  case unbindExtension => exact prepareBinding_startEffect hWf (Or.inr hReason) hPrepare
  case createProcess =>
    cases hPrepare
    exact handleCreateProcess_startEffect hWf request.target false
  case renderCreateProcess =>
    cases hPrepare
    exact handleCreateProcess_startEffect hWf request.target true
  case abilityStart =>
    obtain ⟨started, hStarted, hPrepare⟩ := bind_eq_ok.mp hPrepare
    cases hPrepare
    exact handleAbilityStart_startEffect hWf hStarted
  all_goals exact prepareTracked_startEffect hWf hSuspend hPrepare

/-- A purge keeps records that survive, but for dead ends of their bindings. -/
theorem filterDiedProcess_quiet (alivePids : Option (List Nat)) :
    QuietChange SameStart s (s.filterDiedProcess platform alivePids) := by
  cases alivePids with
  | none => exact .refl s
  | some alivePids =>
      have hSurvivor : ∀ {info : BundlePriorityInfo} (pid : Int) (after : ProcessPriorityInfo),
          (filterDiedProcs alivePids info).procs[pid]? = some after → after.isAbilityStarting = true →
          ∃ before, info.procs[pid]? = some before ∧ before.isAbilityStarting = true ∧
            SameStart before after := by
        intro info pid after hFound hStarting
        obtain ⟨before, hBefore, -, rfl⟩ := filterDiedProcs_lookup.mp hFound
        obtain ⟨toMe, fromMe, hForm⟩ := survivor_eq alivePids before
        rw [hForm] at hStarting ⊢
        exact ⟨before, hBefore, hStarting, rfl, rfl⟩
      have hRound : ∀ {s s'}, Purge platform alivePids s s' → QuietChange SameStart s s' := by
        intro s s' hPurge
        cases hPurge with
        | keep hMem hLeft =>
            exact ⟨.update sameStart_self (fun _ hTracked => hTracked) rfl hSurvivor, rfl⟩
        | orphan hMem hEmpty hNone =>
            exact ⟨.update sameStart_self (fun _ hTracked => hTracked) rfl hSurvivor, rfl⟩
        | drop position hAt hEmpty =>
            exact ⟨.update sameStart_self (fun _ hTracked => tracked_of_removeBundle hTracked) rfl
              hSurvivor, rfl⟩
      exact filterDiedProcess_invariant (QuietChange SameStart s) (.refl s) fun hPurge h =>
        h.trans (hRound hPurge)

/-- An account switch moves priorities. -/
theorem handleAccountHotSwitch_moves (accounts : MultiAccountManager) (updatedAccountIds : List Int) :
    QuietChange SameUid s (accounts.handleAccountHotSwitch updatedAccountIds s) := by
  have hBoth : StartsFrom SameUid s (accounts.handleAccountHotSwitch updatedAccountIds s) ∧
      (accounts.handleAccountHotSwitch updatedAccountIds s).handler = s.handler := by
    apply MultiAccountManager.handleAccountHotSwitch_invariant
      (fun s' => StartsFrom SameUid s s' ∧ s'.handler = s.handler)
    · intro s' uid accountId bundle _ _ h
      constructor
      · apply h.1.trans _ SameUid.trans
        apply @StartsFrom.update SameUid s' _ bundle _ sameUid_self
        · intro other hTracked
          exact (tracked_congr (MultiAccountManager.shiftBundle_osAccountsInfoMap _ _)).mp hTracked
        · exact MultiAccountManager.shiftBundle_bundles accountId bundle
        · intro key after hFound hStarting
          rw [MultiAccountManager.shifted, increaseProcsPriority_procs,
            Option.map_eq_some_iff] at hFound
          obtain ⟨before, hBefore, rfl⟩ := hFound
          exact ⟨before, hBefore, hStarting, rfl⟩
      · rw [MultiAccountManager.shiftBundle_eq, writeBundleOomScoreAdj_handler]
        exact h.2
    · exact ⟨(startsFrom_congr rfl rfl).mono And.left, rfl⟩
  exact ⟨hBoth.1, hBoth.2⟩

/-- The timer of a start clears one flag. -/
theorem startCompleted_quiet (hWf : WellFormed s) (hTracks : s.TracksProc bundle pid proc) :
    QuietChange SameStart s (s.setProc bundle { proc with isAbilityStarting := false }) := by
  have hSame : SameIdentity proc { proc with isAbilityStarting := false } := ⟨rfl, rfl, rfl, rfl, rfl⟩
  exact .setProc hWf hTracks hSame rfl nofun

/-- A reset forgets all starts together with everything else. -/
theorem reset_quiet : QuietChange SameStart s s.reset := by
  constructor
  · apply StartsFrom.of_tracks sameStart_self
    intro bundle pid proc hTracks _
    exact absurd hTracks.1 (not_tracked_reset bundle)
  · rfl

/-- The state of a bundle has nothing to do with the starts of its processes. -/
theorem setBundleState_quiet (accountId uid : Int) (state : BundleState) :
    QuietChange SameStart s (s.setBundleState accountId uid state) := by
  rw [setBundleState]
  cases hFind : s.findBundle uid accountId with
  | none => exact .refl s
  | some bundle =>
      dsimp only
      constructor
      · apply @StartsFrom.update SameStart s _ bundle _ sameStart_self _ rfl
        · intro key after hFound hStarting
          exact ⟨after, hFound, hStarting, sameStart_self after⟩
        · exact fun _ hTracked => hTracked
      · rfl

/-- The operations that move priorities without computing them. -/
def Op.movesPriorities : Op → Bool
  | .updateReclaimPriorityInner request _ _ => request.reason = .applicationSuspend
  | .osAccountsChanged _ _ _ => true
  | _ => false

/-- Any other operation, up to the recomputation of a priority. -/
theorem Service.prepare_startEffect {sys : Service} {op : Op} {prepared : Prepared}
    (hWf : WellFormed sys.manager) (hMoves : op.movesPriorities = false)
    (hPrepare : sys.prepare platform op = .ok prepared) :
    StartEffect sys.manager prepared.state := by
  cases Service.preparedBy hPrepare with
  | request hPrepare => exact prepareRequest_startEffect hWf (of_decide_eq_false hMoves) hPrepare
  | syncStart hStarted => exact handleAbilityStart_startEffect hWf hStarted
  | startCompleted hTracks => exact (startCompleted_quiet hWf hTracks).startEffect
  | createDelayed hTracks => exact .of_congr rfl rfl rfl
  | purge alivePids => exact (filterDiedProcess_quiet alivePids).startEffect
  | setState accountId uid state => exact (setBundleState_quiet accountId uid state).startEffect
  | reset => exact reset_quiet.startEffect
  | switched accountId switchMod answers => cases hMoves
  | unchanged => exact .of_congr rfl rfl rfl

/-- Operations that move priorities keep which process every start belongs to. -/
theorem Service.prepare_moves {sys : Service} {op : Op} {prepared : Prepared}
    (hMoves : op.movesPriorities = true) (hPrepare : sys.prepare platform op = .ok prepared) :
    QuietChange SameUid sys.manager prepared.state := by
  have hSame : QuietChange SameUid sys.manager sys.manager :=
    ⟨.of_tracks sameUid_self fun _ _ _ hTracks _ => hTracks, rfl⟩
  cases op with
  | updateReclaimPriorityInner request eventTime services =>
      have hReason : request.reason = .applicationSuspend := of_decide_eq_true hMoves
      rw [Service.prepare, prepareRequest, hReason] at hPrepare
      cases preparedTracked hPrepare with
      | unchanged => exact hSame
      | suspended bundle => exact handleApplicationSuspend_moves bundle
      | terminated hTerminated => exact absurd (hReason.symm.trans hTerminated) (by decide)
      | updated hOther => exact absurd hReason hOther
  | osAccountsChanged accountId switchMod answers =>
      cases hPrepare
      rcases updateAllPrioForOsAccountChanged_manager sys.accounts answers accountId switchMod
        sys.manager with hKept | ⟨used, updatedAccountIds, -, hManager⟩
      · rw [Prepared.state, hKept]
        exact hSame
      · rw [Prepared.state, hManager]
        exact handleAccountHotSwitch_moves used updatedAccountIds
  | _ => cases hMoves

/-- A recomputation posts no task. -/
theorem setConnectExtensionProcPrio_handler {procSet : List ProcessPriorityInfo}
    (hRun : setConnectExtensionProcPrio platform procSet s = .ok s') : s'.handler = s.handler := by
  induction procSet generalizing s with
  | nil =>
      cases hRun
      rfl
  | cons extensionProcess procSet ih =>
      obtain ⟨minExtensionPriority, -, -, ⟨-, hRun⟩ | ⟨bundle, proc, -, hRun⟩⟩ :=
        setConnectExtensionProcPrio_cons hRun
      · exact ih hRun
      · exact (ih hRun).trans rfl

/-- The recomputation of priorities posts and removes no task. -/
theorem updatePriorityByProcStatus_handler {fuel : Nat}
    (hRun : s.updatePriorityByProcStatus platform fuel bundle proc = .ok s') :
    s'.handler = s.handler := by
  rw [updatePriorityByProcStatus] at hRun
  split_ifs at hRun
  · cases hRun
    rfl
  · cases hRun
    rfl
  · obtain ⟨procVec, -, hRun⟩ := bind_eq_ok.mp hRun
    split_ifs at hRun
    · cases hRun
      rfl
    · obtain ⟨procSet, -, hRun⟩ := bind_eq_ok.mp hRun
      exact (setConnectExtensionProcPrio_handler hRun).trans rfl

/-- The rest of an operation, with what it does to the records it computes again. -/
theorem Service.finish_starts {sys : Service} {op : Op} {prepared : Prepared} {fuel : Nat}
    (hWf : WellFormed sys.manager) (hPrepare : sys.prepare platform op = .ok prepared)
    (hFinish : prepared.finish platform fuel = .ok s') :
    StartsFrom SameUid prepared.state s' ∧ s'.handler = prepared.state.handler := by
  cases prepared with
  | done s =>
      cases hFinish
      exact ⟨.of_tracks sameUid_self fun _ _ _ hTracks _ => hTracks, rfl⟩
  | recompute s bundle proc =>
      obtain ⟨hWf₁, pid, hTracks⟩ := prepare_recompute hWf hPrepare
      obtain ⟨after, hUpdate, hWrite⟩ := bind_eq_ok.mp hFinish
      cases hWrite
      have hWritten : StartsFrom SameUid after (after.writeBundleOomScoreAdj bundle) :=
        (startsFrom_congr writeBundleOomScoreAdj_osAccountsInfoMap
          writeBundleOomScoreAdj_bundles).mono And.left
      constructor
      · apply StartsFrom.trans _ hWritten SameUid.trans
        rcases @updatePriorityByProcStatus_repricing (fun _ => True) platform _ _ hWf₁ _ _ _ _ hTracks
          (fun _ _ _ _ _ _ => trivial) hUpdate with ⟨-, rfl⟩ | ⟨-, hRepricing⟩
        · exact .of_tracks sameUid_self fun _ _ _ hTracks _ => hTracks
        · exact .repricing ((repricing_withFlagPriority hWf₁ hTracks).trans hRepricing)
      · rw [writeBundleOomScoreAdj_handler]
        exact updatePriorityByProcStatus_handler hUpdate

end MemMgr
