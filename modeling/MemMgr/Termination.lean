import MemMgr.BundleMinimum
import MemMgr.SetOrder
import MemMgr.Prepare

/-! What the end of a process leaves behind. The record goes, and with the last record
the bundle, unless a guard or a stale order of the set is in the way. -/
namespace MemMgr

open Execution SearchTree ReclaimPriorityManager BundlePriorityInfo

namespace ReclaimPriorityManager

variable {platform : Platform} {s : ReclaimPriorityManager} {bundle other : BundleRef} {uid pid : Int}
variable {proc : ProcessPriorityInfo}

/-- The process was the only one of the bundle. -/
def LastProc (s : ReclaimPriorityManager) (bundle : BundleRef) (pid : Int) : Prop :=
  ((s.bundles bundle).removeProcByPid pid).getProcsCount = 0

instance (s : ReclaimPriorityManager) (bundle : BundleRef) (pid : Int) : Decidable (s.LastProc bundle pid) :=
  inferInstanceAs (Decidable (_ = 0))

/-- The set lists the bundle once, where a search for it ends, or not at all. -/
def ErasedFromSet (s : ReclaimPriorityManager) (bundle : BundleRef) : Prop :=
  bundle ∉ s.prioList ∨ s.prioList.count bundle = 1 ∧
    (lowerBound s.bundleInfoPtrCmp bundle s.totalBundlePrioSet).map Prod.snd = some bundle

/-- What is left of a process that has ended, and of its bundle. -/
structure Terminated (s s' : ReclaimPriorityManager) (bundle : BundleRef) (pid uid : Int) : Prop where
  removed : (s'.bundles bundle).procs[pid]? = none
  last : s.LastProc bundle pid → ¬ s'.Tracked bundle ∧ bundle ∉ s'.prioList ∧
    ∀ account, s'.osAccountsInfoMap[getOsAccountIdByUid uid]? = some account →
      account.getBundlesCount ≠ 0
  left : ¬ s.LastProc bundle pid → (s'.bundles bundle).IsMinimum
  others : ∀ other, other ≠ bundle →
    s'.bundles other = s.bundles other ∧ (s'.Tracked other ↔ s.Tracked other)

/-- The account goes with its last bundle. -/
def closeIfEmpty (s : ReclaimPriorityManager) (accountId : Int) : ReclaimPriorityManager :=
  match s.findOsAccountById accountId with
  | some account => if account.getBundlesCount = 0 then s.removeOsAccountById account.id else s
  | none => s

theorem closeIfEmpty_bundles (accountId : Int) : (s.closeIfEmpty accountId).bundles = s.bundles := by
  rw [closeIfEmpty]
  cases s.findOsAccountById accountId with
  | none => rfl
  | some account =>
      dsimp only
      split_ifs <;> rfl

theorem closeIfEmpty_prioList (accountId : Int) : (s.closeIfEmpty accountId).prioList = s.prioList := by
  rw [closeIfEmpty]
  cases s.findOsAccountById accountId with
  | none => rfl
  | some account =>
      dsimp only
      split_ifs <;> rfl

theorem tracked_closeIfEmpty {accountId : Int}
    (hIds : ∀ {account}, s.osAccountsInfoMap[accountId]? = some account → account.id = accountId) :
    (s.closeIfEmpty accountId).Tracked other ↔ s.Tracked other := by
  rw [closeIfEmpty]
  cases hAccount : s.findOsAccountById accountId with
  | none => rfl
  | some account =>
      dsimp only
      split_ifs with hEmpty
      · rw [hIds hAccount]
        exact tracked_closeAccount hAccount hEmpty
      · rfl

theorem closeIfEmpty_left {accountId : Int} {account : AccountBundleInfo}
    (hIds : ∀ {account}, s.osAccountsInfoMap[accountId]? = some account → account.id = accountId)
    (hAccount : (s.closeIfEmpty accountId).osAccountsInfoMap[accountId]? = some account) :
    account.getBundlesCount ≠ 0 := by
  rw [closeIfEmpty] at hAccount
  cases hFound : s.findOsAccountById accountId with
  | none =>
      rw [hFound] at hAccount
      exact absurd (hFound.symm.trans hAccount) (by simp)
  | some found =>
      rw [hFound] at hAccount
      dsimp only at hAccount
      split_ifs at hAccount with hEmpty
      · rw [removeOsAccountById_lookup, if_pos (hIds hFound)] at hAccount
        cases hAccount
      · obtain rfl := Option.some.inj (hFound.symm.trans hAccount)
        exact hEmpty

/-- The bundle without the process, before the account is looked at. -/
def withoutProc (platform : Platform) (s : ReclaimPriorityManager) (bundle : BundleRef) (accountId : Int)
    (proc : ProcessPriorityInfo) : ReclaimPriorityManager :=
  let removed := s.modifyBundle bundle fun info => info.removeProcByPid proc.pid
  if ((s.bundles bundle).removeProcByPid proc.pid).getProcsCount = 0 then
    (removed.modifyAccount accountId fun account =>
      account.removeBundleById (s.bundles bundle).uid).deleteBundleInfoFromSet platform bundle
  else if proc.priority ≤ (s.bundles bundle).priority then removed.updateBundlePriority platform bundle
  else removed

theorem handleTerminateProcess_eq (platform : Platform) (s : ReclaimPriorityManager) (bundle : BundleRef)
    (accountId : Int) (proc : ProcessPriorityInfo) :
    (s.handleTerminateProcess platform proc bundle accountId).1 =
      (s.withoutProc platform bundle accountId proc).closeIfEmpty accountId := by
  have hRemoved : (s.modifyBundle bundle fun info => info.removeProcByPid proc.pid).bundles bundle =
      (s.bundles bundle).removeProcByPid proc.pid := by simp
  have hClose : ∀ (s : ReclaimPriorityManager) (ret : Bool),
      (match s.findOsAccountById accountId with
        | some account =>
            (if account.getBundlesCount = 0 then s.removeOsAccountById account.id else s, ret)
        | none => (s, ret)).1 = s.closeIfEmpty accountId := by
    intro s ret
    rw [closeIfEmpty]
    cases s.findOsAccountById accountId <;> rfl
  rw [handleTerminateProcess, withoutProc]
  simp only [hRemoved]
  by_cases hLast : ((s.bundles bundle).removeProcByPid proc.pid).getProcsCount = 0
  · rw [if_pos hLast, if_pos hLast, applyReclaimPriority,
      writeBundleOomScoreAdj_of_empty (by rw [hRemoved]; exact hLast)]
    simp only [hRemoved]
    exact hClose _ _
  · rw [if_neg hLast, if_neg hLast]
    by_cases hLeast : proc.priority ≤ (s.bundles bundle).priority
    · have hBundle : proc.priority ≤ ((s.bundles bundle).removeProcByPid proc.pid).priority := hLeast
      rw [if_pos hBundle, if_pos hLeast]
      exact hClose _ _
    · have hBundle : ¬ proc.priority ≤ ((s.bundles bundle).removeProcByPid proc.pid).priority := hLeast
      rw [if_neg hBundle, if_neg hLeast]
      exact hClose _ _

theorem withoutProc_last {accountId : Int}
    (hLast : ((s.bundles bundle).removeProcByPid proc.pid).getProcsCount = 0) :
    s.withoutProc platform bundle accountId proc =
      ((s.modifyBundle bundle fun info => info.removeProcByPid proc.pid).modifyAccount accountId
        fun account => account.removeBundleById (s.bundles bundle).uid).deleteBundleInfoFromSet
          platform bundle := by
  rw [withoutProc, if_pos hLast]

/-- One object changes, and of it the records and perhaps the priority. -/
theorem withoutProc_bundles (platform : Platform) (s : ReclaimPriorityManager) (bundle : BundleRef)
    (accountId : Int) (proc : ProcessPriorityInfo) :
    (s.withoutProc platform bundle accountId proc).bundles = Function.update s.bundles bundle
      (if ((s.bundles bundle).removeProcByPid proc.pid).getProcsCount ≠ 0 ∧
          proc.priority ≤ (s.bundles bundle).priority then
        ((s.bundles bundle).removeProcByPid proc.pid).updatePriority
      else (s.bundles bundle).removeProcByPid proc.pid) := by
  rw [withoutProc]
  split_ifs with hLast hBoth hLeast hBoth hBoth
  · exact absurd hLast hBoth.1
  · rfl
  · exact resort_bundles _
  · exact absurd ⟨hLast, hLeast⟩ hBoth
  · exact absurd hBoth.2 hLeast
  · rfl

theorem tracked_withoutProc (h : WellFormed s) {uid : Int}
    (hFind : s.findBundle uid (getOsAccountIdByUid uid) = some bundle) (platform : Platform)
    (proc : ProcessPriorityInfo) (other : BundleRef) :
    (s.withoutProc platform bundle (getOsAccountIdByUid uid) proc).Tracked other ↔ s.Tracked other ∧
      (((s.bundles bundle).removeProcByPid proc.pid).getProcsCount = 0 → other ≠ bundle) := by
  obtain ⟨hUid, -⟩ := h.stored hFind
  by_cases hLast : ((s.bundles bundle).removeProcByPid proc.pid).getProcsCount = 0
  · have hUnlink := h.tracked_unlink ⟨_, _, hFind⟩ other
    rw [hUid] at hUnlink
    have hSame : (s.withoutProc platform bundle (getOsAccountIdByUid uid) proc).Tracked other ↔
        (s.modifyAccount (getOsAccountIdByUid uid) fun account =>
          account.removeBundleById uid).Tracked other := by
      rw [withoutProc_last hLast, hUid]
      exact tracked_congr rfl
    rw [hSame, hUnlink]
    exact and_congr_right fun _ => ⟨fun hNe _ => hNe, fun hNe => hNe hLast⟩
  · have hSame : (s.withoutProc platform bundle (getOsAccountIdByUid uid) proc).Tracked other ↔
        s.Tracked other := by
      rw [withoutProc, if_neg hLast]
      split_ifs <;> exact tracked_congr rfl
    rw [hSame]
    exact ⟨fun hTracked => ⟨hTracked, fun hIs => absurd hIs hLast⟩, And.left⟩

theorem withoutProc_prioList {accountId : Int}
    (hLast : ((s.bundles bundle).removeProcByPid proc.pid).getProcsCount = 0) :
    bundle ∉ (s.withoutProc platform bundle accountId proc).prioList ↔ s.ErasedFromSet bundle := by
  have hCmp : (s.modifyBundle bundle fun info => info.removeProcByPid proc.pid).bundleInfoPtrCmp =
      s.bundleInfoPtrCmp := by
    have hKept : ∀ other, ((s.modifyBundle bundle fun info =>
          info.removeProcByPid proc.pid).bundles other).uid = (s.bundles other).uid ∧
        ((s.modifyBundle bundle fun info =>
          info.removeProcByPid proc.pid).bundles other).priority = (s.bundles other).priority := by
      intro other
      rw [modifyBundle_bundles, Function.update_apply]
      split_ifs with hIs
      · rw [hIs]
        exact ⟨rfl, rfl⟩
      · exact ⟨rfl, rfl⟩
    funext p1 p2
    simp only [bundleInfoPtrCmp, (hKept _).1, (hKept _).2]
  have hSelf : s.bundleInfoPtrCmp bundle bundle = false := if_pos rfl
  have hList : (s.withoutProc platform bundle accountId proc).prioList =
      inorder (erase s.bundleInfoPtrCmp bundle s.totalBundlePrioSet) := by
    rw [withoutProc_last hLast, prioList, deleteBundleInfoFromSet, Rebalancing.inorder_balance, ← hCmp]
    rfl
  rw [hList, not_mem_erase_iff hSelf]
  rfl

/-- What a termination needs to clean up: its bundle is not taken for one of the system; the
set finds the bundle, if it has to go; and the priority of the bundle is the minimum of
what is left, if it is not computed again. -/
structure CleansUp (s : ReclaimPriorityManager) (bundle : BundleRef) (proc : ProcessPriorityInfo) :
    Prop where
  notSystem : reclaimPriorityKillableSystem < (s.bundles bundle).priority
  found : s.LastProc bundle proc.pid → s.ErasedFromSet bundle
  least : ¬ s.LastProc bundle proc.pid → proc.priority ≤ (s.bundles bundle).priority ∨
    ((s.bundles bundle).removeProcByPid proc.pid).IsMinimum

theorem isMinimum_updatePriority {info : BundlePriorityInfo} (hShaped : info.Shaped)
    (hLeft : info.getProcsCount ≠ 0) : info.updatePriority.IsMinimum :=
  (isMinimum_iff hShaped.updatePriority hLeft).mpr (attained_updatePriority info)

theorem wellFormed_withoutProc (h : WellFormed s)
    (hFind : s.findBundle uid (getOsAccountIdByUid uid) = some bundle)
    (hProc : (s.bundles bundle).procs[pid]? = some proc) (platform : Platform) :
    WellFormed (s.withoutProc platform bundle (getOsAccountIdByUid uid) proc) := by
  have hTracks : s.TracksProc bundle pid proc := ⟨⟨_, _, hFind⟩, hProc⟩
  have hClean : ∀ other, ¬ noBundle other := fun _ h => h
  have hEffect : Effect platform noBundle s
      (s.withoutProc platform bundle (getOsAccountIdByUid uid) proc) := by
    rw [withoutProc]
    split_ifs with hLast hLeast
    · exact .retire hClean hFind hProc hLast
    · exact .dischargeLeast hClean hTracks hLast
    · exact .discharge hClean hTracks hLast (not_le.mp hLeast)
  exact h.effect hEffect

/-- A termination that is not skipped cleans up exactly then. -/
theorem handleTerminateProcess_terminated (h : WellFormed s)
    (hFind : s.findBundle uid (getOsAccountIdByUid uid) = some bundle)
    (hProc : (s.bundles bundle).procs[pid]? = some proc)
    (hAbove : reclaimPriorityKillableSystem < (s.bundles bundle).priority) :
    Terminated s (s.handleTerminateProcess platform proc bundle (getOsAccountIdByUid uid)).1 bundle pid
      uid ↔ CleansUp s bundle proc := by
  have hPid : proc.pid = pid := ((h.covered bundle).record _ _ hProc).pid
  subst hPid
  have hBundles := withoutProc_bundles platform s bundle (getOsAccountIdByUid uid) proc
  have hOwn := congrFun hBundles bundle
  rw [Function.update_self] at hOwn
  have hTracked := fun other => tracked_withoutProc h hFind platform proc other
  have hAfter := wellFormed_withoutProc h hFind hProc platform
  rw [handleTerminateProcess_eq]
  constructor
  · intro hTerminated
    refine ⟨hAbove, fun hLast => ?_, fun hLeft => ?_⟩
    · have hGone := (hTerminated.last hLast).2.1
      rw [closeIfEmpty_prioList] at hGone
      exact (withoutProc_prioList hLast).mp hGone
    · refine or_iff_not_imp_left.mpr fun hMore => ?_
      have hMinimum := hTerminated.left hLeft
      rw [closeIfEmpty_bundles, hOwn, if_neg fun hBoth => hMore hBoth.2] at hMinimum
      exact hMinimum
  · intro hCleans
    refine ⟨?_, fun hLast => ⟨?_, ?_, ?_⟩, fun hLeft => ?_, fun other hNe => ⟨?_, ?_⟩⟩
    · rw [closeIfEmpty_bundles, hOwn]
      split_ifs <;> simp [updatePriority]
    · rw [tracked_closeIfEmpty hAfter.accountId, hTracked]
      exact fun hBoth => hBoth.2 hLast rfl
    · rw [closeIfEmpty_prioList]
      exact (withoutProc_prioList hLast).mpr (hCleans.found hLast)
    · exact fun account hAccount => closeIfEmpty_left hAfter.accountId hAccount
    · rw [closeIfEmpty_bundles, hOwn]
      split_ifs with hBoth
      · exact isMinimum_updatePriority ((h.covered bundle).removeProcByPid _).toShaped hLeft
      · exact (hCleans.least hLeft).resolve_left fun hLeast => hBoth ⟨hLeft, hLeast⟩
    · rw [closeIfEmpty_bundles, hBundles, Function.update_of_ne hNe]
    · rw [tracked_closeIfEmpty hAfter.accountId, hTracked]
      exact and_iff_left fun _ => hNe

/-- The request returns, and skips the bundles of the system. -/
theorem updateReclaimPriorityInner_terminated {services : Services} {fuel : Nat} {request : UpdateRequest}
    {eventTime : Int} (hReason : request.reason = .processTerminated)
    (hFind : s.findBundle request.target.uid (getOsAccountIdByUid request.target.uid) = some bundle)
    (hProc : (s.bundles bundle).procs[request.target.pid]? = some proc) :
    Prod.fst <$> s.updateReclaimPriorityInner platform services fuel request eventTime =
      .ok (if (s.bundles bundle).priority ≤ reclaimPriorityKillableSystem then s
        else (s.handleTerminateProcess platform proc bundle
          (getOsAccountIdByUid request.target.uid)).1) := by
  have hExist : s.isProcExist request.target.pid request.target.uid
      (getOsAccountIdByUid request.target.uid) = true := by
    simp only [isProcExist, hFind, hasProc_iff.mpr ⟨proc, hProc⟩, ite_self]
  rw [updateReclaimPriorityInner_eq, prepareRequest, hReason]
  dsimp only
  rw [prepareTracked]
  simp only [hExist, hFind, hReason, findProcByPid_eq_ok.mpr hProc, ↓reduceIte, reduceCtorEq]
  split_ifs <;> rfl

end ReclaimPriorityManager

namespace Service

variable {platform : Platform} {sys : Service}

/-- What the end of a tracked process leads to. -/
theorem exec_terminated {request : UpdateRequest} {eventTime : Int} {services : Services}
    {bundle : BundleRef} {proc : ProcessPriorityInfo} (fuel : Nat)
    (hReason : request.reason = .processTerminated)
    (hFind : sys.manager.findBundle request.target.uid (getOsAccountIdByUid request.target.uid) =
      some bundle)
    (hProc : (sys.manager.bundles bundle).procs[request.target.pid]? = some proc) :
    ∃ sys', sys.exec platform fuel (.updateReclaimPriorityInner request eventTime services) = .ok sys' ∧
      sys'.manager = if (sys.manager.bundles bundle).priority ≤ reclaimPriorityKillableSystem then
          sys.manager
        else (sys.manager.handleTerminateProcess platform proc bundle
          (getOsAccountIdByUid request.target.uid)).1 := by
  have hReturns := @updateReclaimPriorityInner_terminated platform sys.manager bundle proc services fuel
    request eventTime hReason hFind hProc
  obtain ⟨result, hResult, hState⟩ := bind_eq_ok.mp hReturns
  refine ⟨sys.withManager result.1, ?_, Except.ok.inj hState⟩
  rw [exec, hResult]
  rfl

/-- The end of a tracked process is cleaned up after exactly in the states that allow it. -/
theorem Run.terminated_iff (run : Run platform anyOp sys) {request : UpdateRequest} {eventTime : Int}
    {services : Services} {bundle : BundleRef} {proc : ProcessPriorityInfo} (fuel : Nat)
    (hReason : request.reason = .processTerminated)
    (hFind : sys.manager.findBundle request.target.uid (getOsAccountIdByUid request.target.uid) =
      some bundle)
    (hProc : (sys.manager.bundles bundle).procs[request.target.pid]? = some proc) :
    ∃ sys', sys.exec platform fuel (.updateReclaimPriorityInner request eventTime services) = .ok sys' ∧
      (Terminated sys.manager sys'.manager bundle request.target.pid request.target.uid ↔
        CleansUp sys.manager bundle proc) := by
  have hWf := run.wellFormed
  obtain ⟨sys', hExec, hManager⟩ :=
    @exec_terminated platform sys request eventTime services bundle proc fuel hReason hFind hProc
  refine ⟨sys', hExec, ?_⟩
  rw [hManager]
  split_ifs with hSystem
  · -- A skipped request leaves the record.
    apply iff_of_false
    · intro hTerminated
      exact absurd (hTerminated.removed.symm.trans hProc) (by simp)
    · intro hCleans
      exact absurd hSystem (not_le.mpr hCleans.notSystem)
  · exact handleTerminateProcess_terminated hWf hFind hProc (not_le.mp hSystem)

/-- Two processes of one application. -/
def twoProcs : Service :=
  (Scenario.reached [Scenario.event .createProcess 1 20000001,
    Scenario.event .createProcess 2 20000001]).get (by decide)

/-- Of two processes of a bundle one ends, and the other stays. -/
theorem terminated_twoProcs : ∃ sys',
    twoProcs.exec Scenario.platform 40 (Scenario.event .processTerminated 2 20000001) = .ok sys' ∧
      Terminated twoProcs.manager sys'.manager 0 2 20000001 := by
  have hRun : Run Scenario.platform anyOp twoProcs :=
    Scenario.run_reached (fun _ _ _ => trivial) (by decide)
  have hLeft : ¬ twoProcs.manager.LastProc 0 2 := by decide
  obtain ⟨sys', hExec, hIff⟩ := @Run.terminated_iff Scenario.platform twoProcs hRun
    ⟨⟨0, 0, "", ""⟩, ⟨2, 20000001, "", toString 20000001⟩, .processTerminated⟩ 0 Scenario.services 0
    (((twoProcs.manager.bundles 0).procs[(2 : Int)]?).get (by decide)) 40 rfl (by decide) (by decide)
  refine ⟨sys', hExec, hIff.mpr ⟨by decide, fun hLast => absurd hLast (by decide), fun _ => ?_⟩⟩
  exact Or.inl (by decide)

/-- A system application that is kept alive, which is tracked all the same. -/
def keptProc : Service :=
  (Scenario.reached [.updateReclaimPriorityInner
    ⟨⟨0, 0, "", ""⟩, ⟨1, 20000001, "", "kept"⟩, .createProcess⟩ 0
    { Scenario.services with getApplicationInfo := some fun _ _ => some true }]).get (by decide)

/-- The end of its process is skipped. -/
theorem keptProc_not_terminated : Run Scenario.platform anyOp keptProc ∧
    ((keptProc.manager.bundles 0).procs[(1 : Int)]?).isSome = true ∧
      ∀ sys', keptProc.exec Scenario.platform 40 (Scenario.event .processTerminated 1 20000001) = .ok sys' →
        ¬ Terminated keptProc.manager sys'.manager 0 1 20000001 := by
  refine ⟨Scenario.run_reached (fun _ _ _ => trivial) (by decide), by decide, ?_⟩
  intro sys' hExec hTerminated
  have hKept : ((keptProc.exec Scenario.platform 40
      (Scenario.event .processTerminated 1 20000001)).toOption.bind fun after =>
        (after.manager.bundles 0).procs[(1 : Int)]?).isSome = true := by decide
  rw [hExec] at hKept
  have hGone := hTerminated.removed
  rw [Except.toOption, Option.bind_some, hGone] at hKept
  cases hKept

end Service
end MemMgr
