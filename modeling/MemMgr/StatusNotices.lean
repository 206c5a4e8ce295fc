import MemMgr.KilledProcesses
import MemMgr.LookupFaults
import MemMgr.ProcessStatus

/-! What the operations tell a process, and what is known of it in the end. -/
namespace MemMgr

open Execution ReclaimPriorityManager ProcessPriorityInfo

namespace ReclaimPriorityManager

/-- A purge takes a process that died, when the set has its bundle. It takes every process of a
uid when the set has a bundle of the uid in which nothing is alive. -/
def Purges (s : ReclaimPriorityManager) (alivePids : List Nat) (process : Int × Int)
    (bundle : BundleRef) : Prop :=
  (s.bundles bundle).uid = process.2 ∧ (¬ HasSurvivor alivePids (s.bundles bundle) ∨
    s.findBundle process.2 (getOsAccountIdByUid process.2) = some bundle ∧
      isAlive alivePids process.1 = false)

instance (s : ReclaimPriorityManager) (alivePids : List Nat) (process : Int × Int) :
    DecidablePred (s.Purges alivePids process) :=
  fun _ => inferInstanceAs (Decidable (_ ∧ (_ ∨ _)))

variable {platform : Platform} {s s' start : ReclaimPriorityManager} {alivePids : List Nat}
variable {bundle : BundleRef} {pid uid : Int} {process : Int × Int} {visited rest : List BundleRef}

theorem status_survivor (alivePids : List Nat) (proc : ProcessPriorityInfo) :
    (survivor alivePids proc).status = proc.status := by
  obtain ⟨toMe, fromMe, hForm⟩ := survivor_eq alivePids proc
  rw [hForm]
  rfl

theorem filterDiedProcs_status {info : BundlePriorityInfo} (h : info.Covered) (pid : Int) :
    ((filterDiedProcs alivePids info).procs[pid]?).map status =
      if isAlive alivePids pid = false then none else (info.procs[pid]?).map status := by
  cases hAfter : (filterDiedProcs alivePids info).procs[pid]? with
  | some after =>
      obtain ⟨before, hBefore, hAlive, rfl⟩ := filterDiedProcs_lookup.mp hAfter
      rw [(h.record _ _ hBefore).pid] at hAlive
      rw [hAlive, hBefore, Option.map_some, Option.map_some, status_survivor]
      rfl
  | none =>
      split_ifs with hDied
      · rfl
      · cases hBefore : info.procs[pid]? with
        | none => rfl
        | some before =>
            have hAlive : isAlive alivePids before.pid = true := by
              rw [(h.record _ _ hBefore).pid]
              exact Bool.eq_true_of_not_eq_false hDied
            rw [filterDiedProcs_lookup.mpr ⟨before, hBefore, hAlive, rfl⟩] at hAfter
            cases hAfter

/-- A bundle whose dead are taken. -/
theorem statusOf_filtered (h : WellFormed s) (process : Int × Int) (bundle : BundleRef) :
    (s.modifyBundle bundle (filterDiedProcs alivePids)).statusOf process =
      if s.findBundle process.2 (getOsAccountIdByUid process.2) = some bundle ∧
          isAlive alivePids process.1 = false then none
      else s.statusOf process := by
  have hFound : (s.modifyBundle bundle (filterDiedProcs alivePids)).findBundle = s.findBundle :=
    findBundle_congr rfl
  rw [statusOf, statusOf, boundProc, boundProc, hFound]
  cases hFind : s.findBundle process.2 (getOsAccountIdByUid process.2) with
  | none => simp
  | some other =>
      rw [Option.bind_some, Option.bind_some, modifyBundle_bundles, Function.update_apply]
      by_cases hIs : other = bundle
      · rw [if_pos hIs, ← hIs, filterDiedProcs_status (h.covered other)]
        simp
      · rw [if_neg hIs, if_neg fun hBoth => hIs (Option.some.inj hBoth.1)]

/-- A bundle that goes takes whatever is stored under its uid. -/
theorem statusOf_dropped (h : WellFormed s) (process : Int × Int) (bundle : BundleRef) (position : Nat) :
    (s.dropDied platform alivePids bundle position).statusOf process =
      if (s.bundles bundle).uid = process.2 then none else s.statusOf process := by
  have hOwner := (h.covered bundle).owner
  rw [statusOf, statusOf, boundProc, boundProc, Walking.findBundle_dropDied, hOwner]
  split_ifs with hBoth hUid hUid
  · rfl
  · exact absurd hBoth.2 hUid
  · exact absurd ⟨by rw [hUid], hUid⟩ hBoth
  · cases hFind : s.findBundle process.2 (getOsAccountIdByUid process.2) with
    | none => rfl
    | some other =>
        have hNe : other ≠ bundle := by
          rintro rfl
          exact hUid (h.stored hFind).1
        have hKept : (s.dropDied platform alivePids bundle position).bundles other = s.bundles other :=
          Function.update_of_ne hNe _ _
        rw [Option.bind_some, Option.bind_some, hKept]

theorem statusOf_eq_none_of_findBundle
    (hNone : s.findBundle process.2 (getOsAccountIdByUid process.2) = none) : s.statusOf process = none := by
  rw [statusOf, boundProc, hNone]
  rfl

end ReclaimPriorityManager

/-- What a purge has made of a process so far. -/
structure Purging (alivePids : List Nat) (process : Int × Int) (start : ReclaimPriorityManager)
    (visited : List BundleRef) (s : ReclaimPriorityManager) : Prop where
  walking : Walking alivePids start visited s
  due : ∀ bundle ∈ start.prioList, start.Purges alivePids process bundle →
    bundle ∈ s.prioList ∧ bundle ∉ visited ∨ s.statusOf process = none
  status : s.statusOf process = start.statusOf process ∨
    s.statusOf process = none ∧ ∃ bundle ∈ start.prioList, start.Purges alivePids process bundle

namespace Purging

variable {platform : Platform} {s start : ReclaimPriorityManager} {alivePids : List Nat}
variable {bundle : BundleRef} {process : Int × Int} {before rest : List BundleRef}

/-- A bundle stays in the set. Its turn is over, so what is due because of it has to be done. -/
theorem stay (h : Purging alivePids process start before s)
    (hWalking : Walking alivePids start (before ++ [bundle])
      (s.modifyBundle bundle (filterDiedProcs alivePids)))
    (hList : s.prioList = before ++ bundle :: rest)
    (hDone : start.Purges alivePids process bundle →
      (s.modifyBundle bundle (filterDiedProcs alivePids)).statusOf process = none) :
    Purging alivePids process start (before ++ [bundle])
      (s.modifyBundle bundle (filterDiedProcs alivePids)) := by
  have hMem : bundle ∈ start.prioList := h.walking.set (by simp [hList])
  have hFiltered := @statusOf_filtered s alivePids h.walking.wellFormed process bundle
  refine ⟨hWalking, fun other hOther hPurges => ?_, ?_⟩
  · by_cases hIs : bundle = other
    · subst hIs
      exact Or.inr (hDone hPurges)
    · rcases h.due other hOther hPurges with ⟨hLeft, hNot⟩ | hNone
      · exact Or.inl ⟨hLeft, Walking.not_mem_visited hNot hIs⟩
      · rw [hFiltered, hNone]
        exact Or.inr (ite_self none)
  · rw [hFiltered]
    split_ifs with hDied
    · have hStored := h.walking.stored hDied.1
      have hUid := (h.walking.wellFormed.stored hDied.1).1
      rw [(h.walking.owner bundle).1] at hUid
      exact Or.inr ⟨rfl, bundle, hMem, hUid, Or.inr ⟨hStored, hDied.2⟩⟩
    · exact h.status

theorem keep (platform : Platform) (h : Purging alivePids process start before s)
    (hList : s.prioList = before ++ bundle :: rest) (hLeft : HasSurvivor alivePids (s.bundles bundle)) :
    Purging alivePids process start (before ++ [bundle])
      (s.modifyBundle bundle (filterDiedProcs alivePids)) := by
  apply h.stay (h.walking.stay platform (.keep (by simp [hList]) hLeft)) hList
  rintro ⟨-, hEmpty | ⟨hStored, hDied⟩⟩
  · exact absurd ((h.walking.survivors bundle).mp hLeft) hEmpty
  · rw [statusOf_filtered h.walking.wellFormed]
    split_ifs with hBoth
    · rfl
    · -- It is not stored any more.
      apply statusOf_eq_none_of_findBundle
      rw [Option.eq_none_iff_forall_ne_some]
      intro other hFind
      have hSame := h.walking.stored hFind
      rw [hStored] at hSame
      exact hBoth ⟨Option.some.inj hSame ▸ hFind, hDied⟩

theorem orphan (platform : Platform) (h : Purging alivePids process start before s)
    (hList : s.prioList = before ++ bundle :: rest) (hEmpty : ¬ HasSurvivor alivePids (s.bundles bundle))
    (hNone : s.findOsAccountById (s.bundles bundle).accountId = none) :
    Purging alivePids process start (before ++ [bundle])
      (s.modifyBundle bundle (filterDiedProcs alivePids)) := by
  apply h.stay (h.walking.stay platform (.orphan (by simp [hList]) hEmpty hNone)) hList
  rintro ⟨hUid, -⟩
  rw [(h.walking.wellFormed.covered bundle).owner, (h.walking.owner bundle).1, hUid] at hNone
  have hFind : s.findBundle process.2 (getOsAccountIdByUid process.2) = none := by
    rw [findBundle, hNone]
    rfl
  rw [statusOf_filtered h.walking.wellFormed, statusOf_eq_none_of_findBundle hFind]
  exact ite_self none

theorem drop (platform : Platform) (h : Purging alivePids process start before s)
    (hList : s.prioList = before ++ bundle :: rest) (hEmpty : ¬ HasSurvivor alivePids (s.bundles bundle)) :
    Purging alivePids process start before (s.dropDied platform alivePids bundle before.length) := by
  have hMem : bundle ∈ start.prioList := h.walking.set (by simp [hList])
  have hDropped := @statusOf_dropped platform s alivePids h.walking.wellFormed process bundle before.length
  rw [(h.walking.owner bundle).1] at hDropped
  refine ⟨h.walking.drop (by simp [hList]) hEmpty, fun other hOther hPurges => ?_, ?_⟩
  · by_cases hIs : bundle = other
    · subst hIs
      rw [hDropped, if_pos hPurges.1]
      exact Or.inr rfl
    · rcases h.due other hOther hPurges with ⟨hLeft, hNot⟩ | hNone
      · rw [dropDied_prioList]
        exact Or.inl ⟨Walking.mem_eraseIdx_of_ne hList hIs hLeft, hNot⟩
      · rw [hDropped, hNone]
        exact Or.inr (ite_self none)
  · rw [hDropped]
    split_ifs with hUid
    · have hWas : ¬ HasSurvivor alivePids (start.bundles bundle) :=
        fun hWas => hEmpty ((h.walking.survivors bundle).mpr hWas)
      exact Or.inr ⟨rfl, bundle, hMem, hUid, Or.inl hWas⟩
    · exact h.status

end Purging

namespace ReclaimPriorityManager

variable {platform : Platform} {services : Services} {s s' : ReclaimPriorityManager}
variable {process : Int × Int}

theorem statusOf_filterDiedProcess (h : WellFormed s) (alivePids : List Nat) :
    (s.filterDiedProcess platform (some alivePids)).statusOf process =
      if ∃ bundle ∈ s.prioList, s.Purges alivePids process bundle then none else s.statusOf process := by
  have hStart : Purging alivePids process s [] s :=
    ⟨.zero h, fun bundle hMem _ => Or.inl ⟨hMem, List.not_mem_nil⟩, Or.inl rfl⟩
  have hEnd := @filterDiedBundles_rounds platform alivePids s (Purging alivePids process s)
    (fun hList hLeft h => h.keep platform hList hLeft)
    (fun hList hEmpty hNone h => h.orphan platform hList hEmpty hNone)
    (fun hList hEmpty h => h.drop platform hList hEmpty)
    s.prioList [] rfl hStart
  split_ifs with hPurged
  · obtain ⟨bundle, hMem, hPurges⟩ := hPurged
    exact (hEnd.due bundle hMem hPurges).resolve_left fun hBoth => hBoth.2 hBoth.1
  · exact hEnd.status.resolve_right fun hNone => hPurged hNone.2

end ReclaimPriorityManager

/-- What a process is told. -/
inductive StatusNotice where
  | created
  | event (reason : AppStateUpdateReason)
  | linked
  | gone
  deriving DecidableEq

namespace StatusNotice

/-- The notice of a request about a tracked process. -/
def ofReason : AppStateUpdateReason → StatusNotice
  | .processTerminated => .gone
  | reason => .event reason

/-- What is known of the process after the notice. A record that is left of an earlier process
stands for the new one. -/
def hear : StatusNotice → Option ProcessStatus → Option ProcessStatus
  | .created, status => some (status.getD .untold)
  | .event reason, status => status.map fun known => known.told reason
  | .linked, status => status.map ProcessStatus.linked
  | .gone, _ => none

theorem ofReason_of_ne {reason : AppStateUpdateReason} (hNe : reason ≠ .processTerminated) :
    ofReason reason = .event reason := by
  cases reason with
  | processTerminated => exact absurd rfl hNe
  | _ => rfl

def heard : Option StatusNotice → Option ProcessStatus → Option ProcessStatus
  | none, status => status
  | some notice, status => notice.hear status

end StatusNotice

namespace ReclaimPriorityManager

variable (s : ReclaimPriorityManager) (services : Services)

/-- Requests about the bundles of the system are skipped. -/
def Heeds (uid : Int) : Prop :=
  ∃ bundle ∈ s.findBundle uid (getOsAccountIdByUid uid),
    reclaimPriorityKillableSystem < (s.bundles bundle).priority

/-- A process can be bound if neither it nor its bundle belongs to the system or its killable apps. -/
def Linkable (target : ReqProc) : Prop :=
  ∃ bundle ∈ s.findBundle target.uid (getOsAccountIdByUid target.uid),
    reclaimPriorityKillableSystem < (s.bundles bundle).priority ∧
    (s.isKillableSystemApp services bundle).2 = false ∧
    ∃ proc ∈ (s.bundles bundle).procs[target.pid]?, reclaimPriorityKillableSystem < proc.priority

instance : DecidablePred s.Heeds := fun _ => inferInstanceAs (Decidable (∃ _ ∈ _, _))

instance : DecidablePred (s.Linkable services) := fun _ => inferInstanceAs (Decidable (∃ _ ∈ _, _))

/-- What a request tells its target. -/
def requestNotice (request : UpdateRequest) : Option StatusNotice :=
  match request.reason with
  | .createProcess => if s.HasRoom services request.target then some .created else none
  | .renderCreateProcess => none
  | .abilityStart => none
  | .bindExtension => if s.Linkable services request.target then some .linked else none
  | .unbindExtension => if s.Linkable services request.target then some .linked else none
  | reason => if s.Heeds request.target.uid then some (.ofReason reason) else none

/-- What an operation tells a process. -/
def noticeOf (process : Int × Int) : Op → Option StatusNotice
  | .updateReclaimPriorityInner request _ services =>
      if process = (request.target.pid, request.target.uid) then s.requestNotice services request
      else none
  | .filterDiedProcess (some alivePids) =>
      if ∃ bundle ∈ s.prioList, s.Purges alivePids process bundle then some .gone else none
  | .reset => some .gone
  | _ => none

variable {platform : Platform} {services : Services} {s s' : ReclaimPriorityManager}
variable {process : Int × Int} {request : UpdateRequest} {eventTime : Int} {prepared : Prepared}

theorem statusOf_eq_none (hNone : ∀ bundle,
      s.findBundle request.target.uid (getOsAccountIdByUid request.target.uid) = some bundle →
        (s.bundles bundle).procs[request.target.pid]? = none) :
    s.statusOf (request.target.pid, request.target.uid) = none := by
  rw [statusOf, Option.map_eq_none_iff, Option.eq_none_iff_forall_ne_some]
  intro proc hBound
  obtain ⟨bundle, hFind, hProc⟩ := boundProc_eq_some.mp hBound
  rw [hNone bundle hFind] at hProc
  cases hProc

/-- A process that is not known hears nothing but its creation. -/
theorem heard_none {notice : Option StatusNotice} (hNotice : notice ≠ some .created) :
    StatusNotice.heard notice none = none := by
  cases notice with
  | none => rfl
  | some notice =>
      cases notice with
      | created => exact absurd rfl hNotice
      | _ => rfl

/-- A request about a tracked process. -/
theorem statusOf_prepareTracked (h : WellFormed s)
    (hAfter : WellFormed prepared.state)
    (hPrepare : s.prepareTracked platform request eventTime = .ok prepared) :
    prepared.state.statusOf = Function.update s.statusOf (request.target.pid, request.target.uid)
      (StatusNotice.heard (if s.Heeds request.target.uid then some (.ofReason request.reason) else none)
        (s.statusOf (request.target.pid, request.target.uid))) := by
  have hNotice : (if s.Heeds request.target.uid then some (StatusNotice.ofReason request.reason)
      else none) ≠ some .created := by
    split_ifs
    · cases request.reason <;> simp [StatusNotice.ofReason]
    · simp
  rw [prepareTracked] at hPrepare
  split at hPrepare
  · cases hFind : s.findBundle request.target.uid (getOsAccountIdByUid request.target.uid) with
    | none =>
        rw [hFind] at hPrepare
        cases hPrepare
        have hNone := @statusOf_eq_none s request (by simp [hFind])
        rw [hNone, heard_none hNotice, ← hNone, Function.update_eq_self]
        rfl
    | some bundle =>
        have hHeeds : s.Heeds request.target.uid ↔
            reclaimPriorityKillableSystem < (s.bundles bundle).priority := by
          simp [Heeds, hFind]
        rw [hFind] at hPrepare
        dsimp only at hPrepare
        split_ifs at hPrepare with hKept hSuspend hTerminated
        · cases hPrepare
          rw [if_neg (hHeeds.not.mpr (not_lt.mpr hKept)), StatusNotice.heard, Function.update_eq_self]
          rfl
        · cases hPrepare
          have hSame : ∀ status, StatusNotice.heard (some (.ofReason .applicationSuspend)) status = status :=
            fun status => by cases status <;> rfl
          rw [if_pos (hHeeds.mpr (not_le.mp hKept)), hSuspend, hSame, Function.update_eq_self]
          exact statusOf_handleApplicationSuspend bundle
        · obtain ⟨proc, hProc, hPrepare⟩ := bind_eq_ok.mp hPrepare
          cases hPrepare
          rw [if_pos (hHeeds.mpr (not_le.mp hKept)), hTerminated]
          exact statusOf_handleTerminateProcess h hFind
            (BundlePriorityInfo.findProcByPid_eq_ok.mp hProc) hAfter
        · obtain ⟨proc, hFound, hPrepare⟩ := bind_eq_ok.mp hPrepare
          cases hPrepare
          have hProc := BundlePriorityInfo.findProcByPid_eq_ok.mp hFound
          rw [if_pos (hHeeds.mpr (not_le.mp hKept)), statusOf_eq_some hFind hProc,
            StatusNotice.ofReason_of_ne hTerminated]
          exact statusOf_prepareUpdate h hFind hProc
  · rename_i hExist
    cases hPrepare
    have hNone : s.statusOf (request.target.pid, request.target.uid) = none := by
      apply statusOf_eq_none
      intro bundle hFind
      by_contra hSome
      exact hExist (isProcExist_iff.mpr ⟨bundle, hFind, Or.inr hSome⟩)
    rw [hNone, heard_none hNotice, ← hNone, Function.update_eq_self]
    rfl

theorem linkable_congr {target : ReqProc} (hMap : s'.osAccountsInfoMap = s.osAccountsInfoMap)
    (hPriority : ∀ bundle, (s'.bundles bundle).priority = (s.bundles bundle).priority)
    (hKillable : ∀ bundle, (s'.isKillableSystemApp services bundle).2 =
      (s.isKillableSystemApp services bundle).2)
    (hProcs : ∀ bundle (pid : Int), (s'.bundles bundle).procs[pid]?.map (·.priority) =
      (s.bundles bundle).procs[pid]?.map (·.priority)) :
    s'.Linkable services target ↔ s.Linkable services target := by
  have hAbove : ∀ proc : Option ProcessPriorityInfo,
      (∃ found ∈ proc, reclaimPriorityKillableSystem < found.priority) ↔
        ∃ priority ∈ proc.map (·.priority), reclaimPriorityKillableSystem < priority := by
    intro proc
    cases proc <;> simp
  simp only [Linkable, findBundle_congr hMap, hPriority, hKillable, hAbove, hProcs]

/-- A record is written back with its flags. -/
theorem statusOf_setProc_kept (h : WellFormed s) {bundle : BundleRef} {pid : Int}
    {proc after : ProcessPriorityInfo} (hTracks : s.TracksProc bundle pid proc)
    (hPid : after.pid = proc.pid) (hStatus : after.status = proc.status) :
    (s.setProc bundle after).statusOf = s.statusOf := by
  obtain ⟨⟨accountId, uid, hFind⟩, hProc⟩ := hTracks
  obtain rfl := (h.stored hFind).2
  rw [((h.covered bundle).record _ _ hProc).pid] at hPid
  rw [statusOf_setProc h hFind hPid, hStatus, ← statusOf_eq_some hFind hProc, Function.update_eq_self]

/-- A record is written back with its priority. -/
theorem linkable_setProc (h : WellFormed s) {bundle : BundleRef} {pid : Int}
    {proc after : ProcessPriorityInfo} {target : ReqProc} (hTracks : s.TracksProc bundle pid proc)
    (hPid : after.pid = proc.pid) (hPriority : after.priority = proc.priority) :
    (s.setProc bundle after).Linkable services target ↔ s.Linkable services target := by
  have hMap : (s.setProc bundle after).osAccountsInfoMap = s.osAccountsInfoMap := rfl
  rw [((h.covered bundle).record _ _ hTracks.2).pid] at hPid
  apply linkable_congr hMap
  · intro other
    obtain ⟨procs, hObject⟩ := @setProc_object s other bundle after
    rw [hObject]
  · exact fun other => isKillableSystemApp_setProc services other bundle after
  · intro other key
    rw [setProc, modifyBundle_bundles, Function.update_apply]
    split_ifs with hIs
    · rw [hIs, BundlePriorityInfo.setProc_procs, hPid]
      split_ifs with hSame
      · rw [← hSame, hTracks.2, Option.map_some, Option.map_some, hPriority]
      · rfl
    · rfl

/-- The caller's side of a binding is no matter of flags. -/
theorem caller_status (h : WellFormed s) {ret : Bool}
    (hRun : s.updateExtensionStatusForCaller request = .ok (s', ret)) :
    s'.statusOf = s.statusOf ∧ (s'.Linkable services request.target ↔ s.Linkable services request.target) := by
  rcases updateExtensionStatusForCaller_form hRun with rfl | ⟨bundle, proc, bindings, hTracks, rfl⟩
  · exact ⟨rfl, Iff.rfl⟩
  · exact ⟨statusOf_setProc_kept h hTracks rfl rfl, linkable_setProc h hTracks rfl rfl⟩

theorem status_bindTarget (proc : ProcessPriorityInfo)
    (hReason : request.reason = .bindExtension ∨ request.reason = .unbindExtension) :
    (bindTarget request proc).status.told request.reason = proc.status.linked := by
  rw [bindTarget]
  rcases hReason with hReason | hReason <;> rw [hReason] <;> rfl

/-- The target's side of a binding. -/
theorem statusOf_prepareTarget (h : WellFormed s)
    (hReason : request.reason = .bindExtension ∨ request.reason = .unbindExtension)
    (hPrepare : s.prepareTarget services request eventTime = .ok prepared) :
    prepared.state.statusOf = Function.update s.statusOf (request.target.pid, request.target.uid)
      (StatusNotice.heard (if s.Linkable services request.target then some .linked else none)
        (s.statusOf (request.target.pid, request.target.uid))) := by
  obtain ⟨found, hFound, hPrepare⟩ := bind_eq_ok.mp hPrepare
  cases found with
  | none =>
      cases hPrepare
      have hNone : s.statusOf (request.target.pid, request.target.uid) = none := by
        apply statusOf_eq_none
        intro bundle hFind
        rw [Option.eq_none_iff_forall_ne_some]
        intro proc hProc
        rw [lookupProc_eq_some.mpr ⟨hFind, hProc⟩] at hFound
        cases hFound
      have hNotice : (if s.Linkable services request.target then some StatusNotice.linked else none) ≠
          some .created := by
        split_ifs <;> simp
      rw [hNone, heard_none hNotice, ← hNone, Function.update_eq_self]
      rfl
  | some found =>
      obtain ⟨bundle, proc⟩ := found
      obtain ⟨hFind, hProc⟩ := lookupProc_eq_some.mp hFound
      obtain ⟨apps, killable, hApps⟩ := isKillableSystemApp_eq s services bundle
      have hLinkable : s.Linkable services request.target ↔
          reclaimPriorityKillableSystem < (s.bundles bundle).priority ∧ killable = false ∧
            reclaimPriorityKillableSystem < proc.priority := by
        simp [Linkable, hFind, hProc, hApps]
      dsimp only at hPrepare
      rw [hApps] at hPrepare
      split_ifs at hPrepare with hSystem hKillable
      · cases hPrepare
        have hNot : ¬ s.Linkable services request.target := by
          rw [hLinkable]
          rintro ⟨hBundle, -, hAbove⟩
          omega
        rw [if_neg hNot, StatusNotice.heard, Function.update_eq_self]
        rfl
      · cases hPrepare
        have hNot : ¬ s.Linkable services request.target := by
          rw [hLinkable]
          rintro ⟨-, hApp, -⟩
          exact absurd (hKillable.symm.trans hApp) (by simp)
        rw [if_neg hNot, StatusNotice.heard, Function.update_eq_self]
        exact statusOf_congr rfl rfl
      · cases hPrepare
        have hIs : s.Linkable services request.target := by
          rw [hLinkable]
          refine ⟨by omega, Bool.eq_false_of_not_eq_true hKillable, by omega⟩
        have hNoted : WellFormed (s.noting s.handler apps) := wellFormed_noting h _ _
        have hTracks : (s.noting s.handler apps).TracksProc bundle request.target.pid proc :=
          ⟨⟨_, _, hFind⟩, hProc⟩
        have hPid := (bindTarget_same request proc).1.pid.trans ((h.covered bundle).record _ _ hProc).pid
        have hBound := wellFormed_bindTarget hNoted hTracks request
        have hRecord : (((s.noting s.handler apps).setProc bundle (bindTarget request proc)).bundles
            bundle).procs[request.target.pid]? = some (bindTarget request proc) := by
          rw [← hPid]
          exact (tracksProc_setProc hTracks).2
        have hFlags := @statusOf_prepareUpdate _ bundle _ _ eventTime _ request.reason hBound hFind hRecord
        have hNotes : (s.noting s.handler apps).statusOf = s.statusOf := statusOf_congr rfl rfl
        rw [statusOf_setProc hNoted hFind hPid, Function.update_idem, hNotes,
          status_bindTarget proc hReason] at hFlags
        rw [if_pos hIs, statusOf_eq_some hFind hProc]
        exact hFlags

/-- A request tells its target, and no other process. -/
theorem statusOf_prepareRequest (h : WellFormed s) (hAfter : WellFormed prepared.state)
    (hPrepare : s.prepareRequest platform services request eventTime = .ok prepared) :
    prepared.state.statusOf = Function.update s.statusOf (request.target.pid, request.target.uid)
      (StatusNotice.heard (s.requestNotice services request)
        (s.statusOf (request.target.pid, request.target.uid))) := by
  have hBinding : s.prepareBinding services request eventTime = .ok prepared →
      request.reason = .bindExtension ∨ request.reason = .unbindExtension →
      prepared.state.statusOf = Function.update s.statusOf (request.target.pid, request.target.uid)
        (StatusNotice.heard (if s.Linkable services request.target then some .linked else none)
          (s.statusOf (request.target.pid, request.target.uid))) := by
    intro hPrepare hReason
    obtain ⟨caller, hCaller, hPrepare⟩ := bind_eq_ok.mp hPrepare
    obtain ⟨hSame, hLinkable⟩ := @caller_status services s caller.1 request h caller.2 hCaller
    have hTarget := statusOf_prepareTarget (wellFormed_caller h hCaller) hReason hPrepare
    rw [hSame] at hTarget
    simpa only [hLinkable] using hTarget
  rw [prepareRequest] at hPrepare
  rw [requestNotice]
  cases hReason : request.reason <;> rw [hReason] at hPrepare
  case bindExtension => exact hBinding hPrepare (Or.inl hReason)
  case unbindExtension => exact hBinding hPrepare (Or.inr hReason)
  case createProcess =>
    cases hPrepare
    apply (statusOf_handleCreateProcess h hAfter).trans
    dsimp only
    split_ifs <;> rfl
  case renderCreateProcess =>
    cases hPrepare
    dsimp only [StatusNotice.heard]
    rw [Function.update_eq_self]
    exact statusOf_congr rfl rfl
  case abilityStart =>
    obtain ⟨started, hStarted, hPrepare⟩ := bind_eq_ok.mp hPrepare
    cases hPrepare
    dsimp only [StatusNotice.heard]
    rw [Function.update_eq_self]
    exact statusOf_handleAbilityStart h hStarted
  all_goals
    have hTracked := statusOf_prepareTracked h hAfter hPrepare
    rw [hReason] at hTracked
    exact hTracked

end ReclaimPriorityManager

namespace Service

variable {platform : Platform} {sys sys' : Service} {op : Op} {process : Int × Int}

theorem statusOf_prepare {prepared : Prepared} (h : WellFormed sys.manager)
    (hAfter : WellFormed prepared.state) (hPrepare : sys.prepare platform op = .ok prepared) :
    prepared.state.statusOf process =
      StatusNotice.heard (sys.manager.noticeOf process op) (sys.manager.statusOf process) := by
  cases op with
  | updateReclaimPriorityInner request eventTime services =>
      have hTold := congrFun (statusOf_prepareRequest h hAfter hPrepare) process
      rw [Function.update_apply] at hTold
      rw [hTold, noticeOf]
      split_ifs with hTarget
      · rw [hTarget]
      · rfl
  | updateRecalimPrioritySyncWithLock request systemTimeMs =>
      cases preparedBy hPrepare with
      | syncStart hStarted => exact congrFun (statusOf_handleAbilityStart h hStarted) process
      | unchanged => rfl
  | checkAbilityStartCompleted pid bundleUid accountId =>
      cases preparedBy hPrepare with
      | @startCompleted _ _ _ bundle proc hTracks =>
          have hKept : (sys.manager.setProc bundle { proc with isAbilityStarting := false }).statusOf =
              sys.manager.statusOf := statusOf_setProc_kept h hTracks rfl rfl
          exact congrFun hKept process
      | unchanged => rfl
  | checkCreateProcPriorityDelay pid uid => cases preparedBy hPrepare <;> rfl
  | filterDiedProcess alivePids =>
      cases hPrepare
      cases alivePids with
      | none => rfl
      | some alivePids =>
          apply (statusOf_filterDiedProcess h alivePids).trans
          rw [noticeOf]
          split_ifs <;> rfl
  | setBundleState accountId uid state =>
      cases hPrepare
      exact congrFun (statusOf_setBundleState accountId uid state) process
  | reset =>
      cases hPrepare
      exact statusOf_of_untracked not_tracked_reset
  | initAccounts answers =>
      cases hPrepare
      rfl
  | osAccountsChanged accountId switchMod answers =>
      cases hPrepare
      rcases updateAllPrioForOsAccountChanged_manager sys.accounts answers accountId switchMod
        sys.manager with hKept | ⟨used, updatedAccountIds, -, hManager⟩
      · rw [Prepared.state, hKept]
        rfl
      · rw [Prepared.state, hManager]
        exact congrFun (statusOf_handleAccountHotSwitch h used updatedAccountIds) process

/-- A step changes what is known of a process as it tells the process, and in no other way. -/
theorem Step.statusOf (h : WellFormed sys.manager) (hStep : Step platform sys op sys') :
    sys'.manager.statusOf process =
      StatusNotice.heard (sys.manager.noticeOf process op) (sys.manager.statusOf process) := by
  have hLast : WellFormed sys'.manager := (hStep.effect h).wellFormed h
  obtain ⟨prepared, fuel, hPrepare, hFinish⟩ := hStep.prepared
  cases prepared with
  | done s =>
      cases hFinish
      have hDone : WellFormed (Prepared.done sys'.manager).state := hLast
      exact statusOf_prepare h hDone hPrepare
  | recompute s bundle proc =>
      have hReady := prepare_recompute h hPrepare
      have hState : WellFormed (Prepared.recompute s bundle proc).state := hReady.1
      rw [statusOf_recompute hReady hFinish]
      exact statusOf_prepare h hState hPrepare

end Service
end MemMgr
