import MemMgr.PriorityRange
import MemMgr.ExtensionSearch

/-! The record of a process that was just created. A record that is left of an earlier process of
the same pid stays in its place. -/
namespace MemMgr

open ReclaimPriorityManager BundlePriorityInfo ProcessPriorityInfo Execution

/-- The priority a process starts with, which is moved when its app is a killable one. -/
def initialPriority (platform : Platform) (processName : String) (killable : Bool) : Int :=
  let priority := (isImportantProc platform processName).2
  if killable && priority > reclaimPriorityKillableSystem then reclaimPriorityKillableSystem else priority

/-- A record as nothing has happened to its process yet. -/
structure Fresh (priority : Int) (proc : ProcessPriorityInfo) : Prop where
  noFlag : proc.isVisible = false ∧ proc.isRender = false ∧ proc.isFreground = false ∧
    proc.isBackgroundRunning = false ∧ proc.isSuspendDelay = false ∧ proc.isEventStart = false ∧
    proc.isDistDeviceConnected = false ∧ proc.isExtension = false ∧ proc.hasUI = false
  noBinding : proc.procsBindToMe = ∅ ∧ proc.procsBindFromMe = ∅
  notStarting : proc.isAbilityStarting = false
  priority : proc.priority = priority

namespace ReclaimPriorityManager

variable (s : ReclaimPriorityManager) (services : Services) (target : ReqProc)

/-- Whether the bundle of a creation is a killable app of the system. -/
def createsKillable : Bool :=
  match s.findBundle target.uid (getOsAccountIdByUid target.uid) with
  | some bundle => s.killableApp services (s.bundles bundle).name (s.bundles bundle).uid
  | none => s.killableApp services target.bundleName target.uid

/-- The account and the bundle are there, or can be made. -/
structure HasRoom : Prop where
  account : s.findOsAccountById (getOsAccountIdByUid target.uid) ≠ none ∨ services.makeAccount = true
  bundle : s.findBundle target.uid (getOsAccountIdByUid target.uid) ≠ none ∨ services.makeBundle = true

/-- A record of the process before its creation, if there is one, is as good as a fresh one. -/
def NoneStale (platform : Platform) : Prop :=
  ∀ stale, s.boundProc (target.pid, target.uid) = some stale →
    Fresh (initialPriority platform target.processName (s.createsKillable services target)) stale

end ReclaimPriorityManager

/-- After the creation the process has a fresh record. -/
def CreatedFresh (platform : Platform) (s : ReclaimPriorityManager) (services : Services)
    (target : ReqProc) (s' : ReclaimPriorityManager) : Prop :=
  ∃ proc, s'.boundProc (target.pid, target.uid) = some proc ∧
    Fresh (initialPriority platform target.processName (s.createsKillable services target)) proc

variable {platform : Platform} {services : Services} {s s' : ReclaimPriorityManager}
variable {target : ReqProc} {pid uid : Int} {proc : ProcessPriorityInfo} {bundle : BundleRef}

/-- The record that a creation builds is fresh. -/
theorem fresh_createdProc (platform : Platform) (target : ReqProc) (killable : Bool) :
    Fresh (initialPriority platform target.processName killable)
      (createdProc platform target killable) := by
  rw [createdProc, initialPriority]
  obtain ⟨isImportant, priority⟩ := isImportantProc platform target.processName
  dsimp only
  have hStart : ({ ProcessPriorityInfo.create target.pid target.uid priority isImportant with
      isFreground := false } : ProcessPriorityInfo).priority = priority := rfl
  rw [hStart]
  split_ifs
  · exact ⟨⟨rfl, rfl, rfl, rfl, rfl, rfl, rfl, rfl, rfl⟩, ⟨rfl, rfl⟩, rfl, rfl⟩
  · exact ⟨⟨rfl, rfl, rfl, rfl, rfl, rfl, rfl, rfl, rfl⟩, ⟨rfl, rfl⟩, rfl, rfl⟩

namespace ReclaimPriorityManager

/-- A process is admitted when there is room for it and it is not recorded. -/
theorem admitted_eq_some {killable : Bool} : s.admitted services target = some killable ↔
    s.HasRoom services target ∧ s.boundProc (target.pid, target.uid) = none ∧
      s.createsKillable services target = killable := by
  have hRoom : s.HasRoom services target ↔
      (s.findOsAccountById (getOsAccountIdByUid target.uid) ≠ none ∨ services.makeAccount = true) ∧
        (s.findBundle target.uid (getOsAccountIdByUid target.uid) ≠ none ∨
          services.makeBundle = true) :=
    ⟨fun h => ⟨h.account, h.bundle⟩, fun h => ⟨h.1, h.2⟩⟩
  rw [hRoom, admitted, boundProc, createsKillable]
  cases hAccount : s.findOsAccountById (getOsAccountIdByUid target.uid) with
  | none =>
      have hFind : s.findBundle target.uid (getOsAccountIdByUid target.uid) = none := by
        rw [findBundle, hAccount]
        rfl
      rw [hFind]
      cases services.makeAccount <;> cases services.makeBundle <;> simp
  | some account =>
      cases hFind : s.findBundle target.uid (getOsAccountIdByUid target.uid) with
      | none => cases services.makeBundle <;> simp
      | some bundle =>
          by_cases hRecorded : target.pid ∈ (s.bundles bundle).procs
          · simp [hRecorded]
          · simp [hRecorded]

/-- A record that is tracked is found under its own uid. -/
theorem boundProc_of_tracks (hWf : WellFormed s) (hTracks : s.TracksProc bundle pid proc)
    (hUid : proc.uid = uid) : s.boundProc (pid, uid) = some proc := by
  obtain ⟨⟨accountId, owner, hFind⟩, hProc⟩ := hTracks
  obtain ⟨hOwner, rfl⟩ := hWf.stored hFind
  have hSame := ((hWf.covered bundle).record pid proc hProc).uid
  rw [hOwner, hUid] at hSame
  exact boundProc_eq_some.mpr ⟨bundle, hSame ▸ hFind, hProc⟩

/-- The tracked record that is found. -/
theorem tracks_of_boundProc (hWf : WellFormed s) (hBound : s.boundProc (pid, uid) = some proc) :
    (∃ bundle, s.TracksProc bundle pid proc) ∧ proc.uid = uid := by
  obtain ⟨bundle, hFind, hProc⟩ := boundProc_eq_some.mp hBound
  refine ⟨⟨bundle, ⟨_, _, hFind⟩, hProc⟩, ?_⟩
  rw [((hWf.covered bundle).record pid proc hProc).uid]
  exact (hWf.stored hFind).1

/-- A record that is there when its process is created again stays as it is. -/
theorem boundProc_handleCreateProcess_of_some (hWf : WellFormed s)
    (hBound : s.boundProc (target.pid, target.uid) = some proc)
    (hWf' : WellFormed (s.handleCreateProcess platform services target
      (getOsAccountIdByUid target.uid) false).1) :
    (s.handleCreateProcess platform services target (getOsAccountIdByUid target.uid) false).1.boundProc
      (target.pid, target.uid) = some proc := by
  have hEnters := @handleCreateProcess_enters platform services s hWf target
  have hJoins := @handleCreateProcess_joins platform services s hWf target
  obtain ⟨bundle, hFind, hProc⟩ := boundProc_eq_some.mp hBound
  obtain ⟨hTracked, -, -, recorded, hRecorded⟩ := hJoins.own hFind
  have hOld : s.TracksProc bundle target.pid recorded := by
    rcases hEnters.only ⟨hTracked, hRecorded⟩ with hOld | ⟨killable, hAdmitted, -⟩
    · exact hOld
    · rw [(admitted_eq_some.mp hAdmitted).2.1] at hBound
      cases hBound
  obtain rfl := Option.some.inj (hProc.symm.trans hOld.2)
  exact boundProc_of_tracks hWf' ⟨hTracked, hRecorded⟩ (tracks_of_boundProc hWf hBound).2

/-- A process that is not recorded is recorded afresh, if there is room for it. -/
theorem boundProc_handleCreateProcess_of_none (hWf : WellFormed s)
    (hBound : s.boundProc (target.pid, target.uid) = none)
    (hWf' : WellFormed (s.handleCreateProcess platform services target
      (getOsAccountIdByUid target.uid) false).1) :
    (s.handleCreateProcess platform services target (getOsAccountIdByUid target.uid) false).1.boundProc
      (target.pid, target.uid) = (s.admitted services target).map (createdProc platform target) := by
  have hEnters := @handleCreateProcess_enters platform services s hWf target
  cases hAdmitted : s.admitted services target with
  | some killable =>
      obtain ⟨bundle, hTracks⟩ := hEnters.entered hAdmitted
      have hUid : (createdProc platform target killable).uid = target.uid := by
        rw [createdProc]
        dsimp only
        split_ifs <;> rfl
      exact boundProc_of_tracks hWf' hTracks hUid
  | none =>
      by_contra hSome
      obtain ⟨recorded, hRecorded⟩ := Option.ne_none_iff_exists'.mp hSome
      obtain ⟨⟨bundle, hTracks⟩, hUid⟩ := tracks_of_boundProc hWf' hRecorded
      rcases hEnters.only hTracks with hOld | ⟨killable, hIs, -⟩
      · rw [boundProc_of_tracks hWf hOld hUid] at hBound
        cases hBound
      · rw [hAdmitted] at hIs
        cases hIs

/-- The record is fresh just when there is room for it and none that is stale. -/
theorem createdFresh_handleCreateProcess (hWf : WellFormed s)
    (hWf' : WellFormed (s.handleCreateProcess platform services target
      (getOsAccountIdByUid target.uid) false).1) :
    CreatedFresh platform s services target
        (s.handleCreateProcess platform services target (getOsAccountIdByUid target.uid) false).1 ↔
      s.HasRoom services target ∧ s.NoneStale services target platform := by
  rw [CreatedFresh, NoneStale]
  cases hBound : s.boundProc (target.pid, target.uid) with
  | some stale =>
      obtain ⟨bundle, hFind, -⟩ := boundProc_eq_some.mp hBound
      have hAccount : s.findOsAccountById (getOsAccountIdByUid target.uid) ≠ none := by
        intro hNone
        rw [findBundle, hNone] at hFind
        cases hFind
      have hRoom : s.HasRoom services target :=
        ⟨Or.inl hAccount, Or.inl (by rw [hFind]; exact Option.some_ne_none bundle)⟩
      rw [boundProc_handleCreateProcess_of_some hWf hBound hWf']
      constructor
      · rintro ⟨proc, hIs, hFresh⟩
        obtain rfl := Option.some.inj hIs
        refine ⟨hRoom, fun other hOther => ?_⟩
        obtain rfl := Option.some.inj hOther
        exact hFresh
      · rintro ⟨-, hNoneStale⟩
        exact ⟨stale, rfl, hNoneStale stale rfl⟩
  | none =>
      rw [boundProc_handleCreateProcess_of_none hWf hBound hWf']
      constructor
      · rintro ⟨proc, hCreated, -⟩
        obtain ⟨killable, hAdmitted, -⟩ := Option.map_eq_some_iff.mp hCreated
        refine ⟨(admitted_eq_some.mp hAdmitted).1, fun stale hStale => ?_⟩
        cases hStale
      · rintro ⟨hRoom, -⟩
        rw [admitted_eq_some.mpr ⟨hRoom, hBound, rfl⟩]
        exact ⟨_, rfl, fresh_createdProc platform target _⟩

end ReclaimPriorityManager

/-- A creation leaves a fresh record just when there is room for its account and bundle, and no
record is left of an earlier process of the pid, or one that is as good as fresh. -/
theorem Service.Run.createdFresh_iff {sys : Service} (run : Service.Run platform Service.anyOp sys)
    (services : Services) (request : UpdateRequest) (hReason : request.reason = .createProcess)
    (fuel : Nat) (eventTime : Int) :
    ∃ sys', sys.exec platform fuel (.updateReclaimPriorityInner request eventTime services) = .ok sys' ∧
      (CreatedFresh platform sys.manager services request.target sys'.manager ↔
        sys.manager.HasRoom services request.target ∧
          sys.manager.NoneStale services request.target platform) := by
  have hExec : sys.exec platform fuel (.updateReclaimPriorityInner request eventTime services) =
      .ok (sys.withManager (sys.manager.handleCreateProcess platform services request.target
        (getOsAccountIdByUid request.target.uid) false).1) := by
    rw [Service.exec, updateReclaimPriorityInner, hReason]
    rfl
  refine ⟨_, hExec, ?_⟩
  have hRun' : Service.Run platform Service.anyOp _ := run.succ trivial ⟨fuel, hExec⟩
  exact createdFresh_handleCreateProcess run.wellFormed hRun'.wellFormed

namespace Scenario

/-- A request to create the process 1. -/
def creation : UpdateRequest :=
  ⟨⟨0, 0, "", ""⟩, ⟨1, 20000001, "", toString (20000001 : Int)⟩, .createProcess⟩

/-- The theorem at the service right after its start. -/
theorem createdFresh_iff_init : ∃ sys',
    (Service.init Scenario.platform).exec Scenario.platform 40
        (.updateReclaimPriorityInner creation 0 Scenario.services) = .ok sys' ∧
      (CreatedFresh Scenario.platform (Service.init Scenario.platform).manager Scenario.services
          creation.target sys'.manager ↔
        (Service.init Scenario.platform).manager.HasRoom Scenario.services creation.target ∧
          (Service.init Scenario.platform).manager.NoneStale Scenario.services creation.target
            Scenario.platform) :=
  Service.Run.createdFresh_iff .zero Scenario.services creation rfl 40 0

/-- A process at the foreground, of which the end is missed. -/
def endMissed : Service :=
  (reached [event .createProcess 1 20000001, event .foreground 1 20000001]).get (by decide)

/-- A process whose end was missed is reached by a run. -/
theorem run_endMissed : Service.Run Scenario.platform Service.anyOp endMissed :=
  run_reached (fun _ _ _ => trivial) (by decide)

/-- The state after its pid is created again. -/
def createdAgain : Service :=
  (endMissed.exec Scenario.platform 40
    (.updateReclaimPriorityInner creation 0 Scenario.services)).toOption.get (by decide)

/-- The new process is recorded at the foreground. -/
theorem not_createdFresh_again : ∃ sys sys', Service.Run Scenario.platform Service.anyOp sys ∧
    sys.exec Scenario.platform 40 (.updateReclaimPriorityInner creation 0 Scenario.services) = .ok sys' ∧
    ¬ CreatedFresh Scenario.platform sys.manager Scenario.services creation.target sys'.manager := by
  refine ⟨endMissed, createdAgain, run_endMissed, eq_ok_get (by decide), ?_⟩
  rintro ⟨proc, hBound, hFresh⟩
  have hFlag : (createdAgain.manager.boundProc (creation.target.pid, creation.target.uid)).map
      (·.isFreground) = some true := by decide
  rw [hBound, Option.map_some, hFresh.noFlag.2.2.1] at hFlag
  cases hFlag

end Scenario
end MemMgr
