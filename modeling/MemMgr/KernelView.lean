import MemMgr.Runs
import MemMgr.Scenario

/-! The kernel's view of the priorities. A request may leave one bundle out of
step with its files while it runs, and writes that bundle at its end. -/
namespace MemMgr

open Std (ExtTreeMap)
open Relation ReclaimPriorityManager BundlePriorityInfo

namespace ReclaimPriorityManager

def TracksPid (s : ReclaimPriorityManager) (bundle : BundleRef) (pid : Int) : Prop :=
  ∃ proc, s.TracksProc bundle pid proc

/-- Each pid is tracked in at most one bundle. -/
def PidsUnique (s : ReclaimPriorityManager) : Prop :=
  ∀ bundle other pid, s.TracksPid bundle pid → s.TracksPid other pid → bundle = other

/-- The file of every tracked process holds its priority, but in the dirty bundles. -/
def InSyncExcept (s : ReclaimPriorityManager) (dirty : BundleRef → Prop) : Prop :=
  ∀ bundle pid proc, s.TracksProc bundle pid proc → ¬ dirty bundle →
    s.oomScoreAdj pid = some proc.priority

/-- The last value written for a tracked process is its priority. -/
def InSync (s : ReclaimPriorityManager) : Prop :=
  ∀ bundle pid proc, s.TracksProc bundle pid proc → s.oomScoreAdj pid = some proc.priority

instance (s : ReclaimPriorityManager) (pid : Int) : Decidable (∀ bundle, ¬ s.TracksPid bundle pid) :=
  decidable_of_iff (∀ bundle ∈ s.trackedBundles, (s.bundles bundle).procs[pid]? = none) <| by
    simp only [mem_trackedBundles, TracksPid, TracksProc, exists_and_left, not_and,
      ← Option.isSome_iff_exists, Option.not_isSome_iff_eq_none]

instance (s : ReclaimPriorityManager) : Decidable s.PidsUnique :=
  decidable_of_iff (∀ bundle ∈ s.trackedBundles, ∀ other ∈ s.trackedBundles,
      ∀ pid ∈ (s.bundles bundle).procs.keys, pid ∈ (s.bundles other).procs → bundle = other) <| by
    simp only [mem_trackedBundles, ExtTreeMap.mem_keys, ← ExtTreeMap.isSome_getElem?_iff_mem,
      Option.isSome_iff_exists]
    constructor
    · rintro h bundle other pid ⟨proc, hBundle, hProc⟩ ⟨proc', hOther, hProc'⟩
      exact h bundle hBundle other hOther pid ⟨proc, hProc⟩ ⟨proc', hProc'⟩
    · rintro h bundle hBundle other hOther pid ⟨proc, hProc⟩ ⟨proc', hProc'⟩
      exact h bundle other pid ⟨proc, hBundle, hProc⟩ ⟨proc', hOther, hProc'⟩

variable {platform : Platform} {s s' : ReclaimPriorityManager} {bundle other : BundleRef} {pid : Int}
variable {proc : ProcessPriorityInfo} {info : BundlePriorityInfo}

/-- Tracked processes after a change of one bundle object. -/
theorem tracksProc_update (hMap : s'.osAccountsInfoMap = s.osAccountsInfoMap)
    (hHeap : s'.bundles = Function.update s.bundles bundle info) :
    s'.TracksProc other pid proc ↔ s.Tracked other ∧
      (if other = bundle then info.procs[pid]? else (s.bundles other).procs[pid]?) = some proc := by
  rw [TracksProc, tracked_congr hMap, hHeap, Function.update_apply, apply_ite procs]
  split_ifs <;> rfl

/-- Whether a bundle tracks a pid depends on the maps and the bundles only. -/
theorem tracksPid_congr (hMap : s'.osAccountsInfoMap = s.osAccountsInfoMap)
    (hHeap : s'.bundles = s.bundles) : s'.TracksPid other pid ↔ s.TracksPid other pid :=
  exists_congr fun _ => tracksProc_congr hMap hHeap

/-- A change that keeps the records of other bundles, and the pids of this one. -/
theorem tracksPid_update (hMap : s'.osAccountsInfoMap = s.osAccountsInfoMap)
    (hHeap : s'.bundles = Function.update s.bundles bundle info)
    (hPids : ∀ pid : Int, (info.procs[pid]?).isSome = ((s.bundles bundle).procs[pid]?).isSome) :
    s'.TracksPid other pid ↔ s.TracksPid other pid := by
  simp only [TracksPid, tracksProc_update hMap hHeap, exists_and_left]
  simp only [TracksProc, exists_and_left]
  refine and_congr_right fun _ => ?_
  split_ifs with hIs
  · rw [hIs, ← Option.isSome_iff_exists, ← Option.isSome_iff_exists, hPids]
  · rfl

/-- A change that keeps the pids of a bundle changes nothing of what is tracked. -/
theorem tracksPid_modify {change : BundlePriorityInfo → BundlePriorityInfo}
    (hPids : ∀ pid : Int, ((change (s.bundles bundle)).procs[pid]?).isSome =
      ((s.bundles bundle).procs[pid]?).isSome) :
    (s.modifyBundle bundle change).TracksPid other pid ↔ s.TracksPid other pid :=
  tracksPid_update rfl rfl hPids

/-- The pids tracked stay the same when the changed bundle is sorted in again. -/
theorem tracksPid_resort {change : BundlePriorityInfo → BundlePriorityInfo}
    (hPids : ∀ pid : Int, ((change (s.bundles bundle)).procs[pid]?).isSome =
      ((s.bundles bundle).procs[pid]?).isSome) :
    ((s.modifyBundle bundle change).updateBundlePriority platform bundle).TracksPid other pid ↔
      s.TracksPid other pid :=
  tracksPid_update rfl (resort_bundles change) hPids

/-- Writing a record back where it was found keeps the pids of the bundle. -/
theorem pids_setProc {proc' : ProcessPriorityInfo} {info : BundlePriorityInfo} (h : info.Shaped)
    (hProc : info.procs[pid]? = some proc) (hSame : ProcessPriorityInfo.SameIdentity proc proc')
    (other : Int) : ((info.setProc proc').procs[other]?).isSome = (info.procs[other]?).isSome := by
  rw [setProc_procs]
  split_ifs with hPid
  · rw [← hPid, hSame.pid, (h.record pid proc hProc).pid, hProc]
    rfl
  · rfl

/-- Files of processes that are not in the bundle are left alone. -/
theorem writeBundleOomScoreAdj_oomScoreAdj (h : (s.bundles bundle).Shaped) (pid : Int) :
    (s.writeBundleOomScoreAdj bundle).oomScoreAdj pid =
      match (s.bundles bundle).procs[pid]? with
      | some proc => some proc.priority
      | none => s.oomScoreAdj pid := by
  have hFold : ∀ (entries : List (Int × ProcessPriorityInfo)) (s : ReclaimPriorityManager)
      (value : Option Int), (∀ entry ∈ entries, entry.2.pid = pid → some entry.2.priority = value) →
      (s.oomScoreAdj pid = value ∨ ∃ entry ∈ entries, entry.2.pid = pid) →
      (entries.foldl (fun s entry => s.writeOomScoreAdj entry.2.pid entry.2.priority) s).oomScoreAdj
        pid = value := by
    intro entries
    induction entries with
    | nil => simp
    | cons entry entries ih =>
        intro s value hValue hOr
        refine ih _ value (fun e hMem => hValue e (List.mem_cons_of_mem _ hMem)) ?_
        simp only [writeOomScoreAdj, Function.update_apply]
        split_ifs with hPid
        · exact Or.inl (hValue entry List.mem_cons_self hPid.symm)
        · rcases hOr with hOld | ⟨e, hMem, hIs⟩
          · exact Or.inl hOld
          · rcases List.mem_cons.mp hMem with rfl | hMem
            · exact absurd hIs.symm hPid
            · exact Or.inr ⟨e, hMem, hIs⟩
  have hEntry : ∀ entry ∈ (s.bundles bundle).procs.toList, entry.2.pid = pid →
      (s.bundles bundle).procs[pid]? = some entry.2 := by
    intro entry hMem hPid
    have hProc := ExtTreeMap.mem_toList_iff_getElem?_eq_some.mp hMem
    rw [← hPid, (h.record _ _ hProc).pid, hProc]
  refine hFold _ s _ ?_ ?_
  · intro entry hMem hPid
    rw [hEntry entry hMem hPid]
  · cases hProc : (s.bundles bundle).procs[pid]? with
    | none => exact Or.inl rfl
    | some proc =>
        exact Or.inr ⟨(pid, proc), ExtTreeMap.mem_toList_iff_getElem?_eq_some.mpr hProc,
          (h.record _ _ hProc).pid⟩

/-- Writing a bundle that was out of step puts all of it in step. -/
theorem InSyncExcept.written (hShaped : (s.bundles bundle).Shaped) (hUnique : s.PidsUnique)
    (hTracked : s.Tracked bundle) (h : s.InSyncExcept (· = bundle)) : (s.writeBundleOomScoreAdj bundle).InSync := by
  intro other pid proc hTracks
  rw [tracksProc_congr writeBundleOomScoreAdj_osAccountsInfoMap writeBundleOomScoreAdj_bundles] at hTracks
  rw [writeBundleOomScoreAdj_oomScoreAdj hShaped]
  cases hOwn : (s.bundles bundle).procs[pid]? with
  | some own =>
      obtain rfl := hUnique _ _ _ ⟨own, hTracked, hOwn⟩ ⟨proc, hTracks⟩
      rw [Option.some.inj (hOwn.symm.trans hTracks.2)]
  | none =>
      refine h _ _ _ hTracks fun hIs => ?_
      rw [← hIs, hTracks.2] at hOwn
      cases hOwn

end ReclaimPriorityManager

variable {platform : Platform} {dirty : BundleRef → Prop} {s s' : ReclaimPriorityManager}

/-- Effects of a request that writes a bundle track no fewer pids. -/
theorem Effect.keepsPids (hWf : WellFormed s) (hEffect : Effect platform dirty s s')
    {written other : BundleRef} {pid : Int} (hWritten : dirty written)
    (hTracks : s.TracksPid other pid) : s'.TracksPid other pid := by
  cases hEffect with
  | notes handler apps => exact (tracksPid_congr rfl rfl).mpr hTracks
  | edit hEdited hSame hPriority =>
      exact (tracksPid_modify
        (pids_setProc (hWf.covered _).toShaped hEdited.2 hSame)).mpr hTracks
  | reprice hDirty hRecord hRepriced =>
      exact (tracksPid_resort
        (pids_setProc (hWf.covered _).toShaped hRecord.2 hRepriced.same)).mpr hTracks
  | @link bundle _ proc proc' hRecord hRepriced =>
      have hResort : ((s.setProc bundle proc').updateBundlePriority platform bundle).TracksPid other pid :=
        (tracksPid_resort (pids_setProc (hWf.covered _).toShaped hRecord.2 hRepriced.same)).mpr hTracks
      exact (tracksPid_congr rfl rfl).mpr hResort
  | suspend hDirty hTracked =>
      refine (tracksPid_resort fun pid => ?_).mpr hTracks
      simp [suspendProcs]
  | openAccount hNone =>
      exact hTracks.imp fun _ hProc => ⟨(tracked_openAccount hNone).mpr hProc.1, hProc.2⟩
  | @join bundle uid proc hDirty hFind hCreated =>
      obtain ⟨found, hTracked, hProc⟩ := hTracks
      by_cases hIs : other = bundle
      · have hKept : (((s.bundles other).addProc proc).procs[pid]?).isSome := by
          rw [addProc_procs]
          split_ifs
          · rfl
          · simp [hProc]
        obtain ⟨kept, hKept⟩ := Option.isSome_iff_exists.mp hKept
        refine ⟨kept, hTracked.admitProc, ?_⟩
        rw [admitProc_bundles, ← hIs, Function.update_self]
        exact hKept
      · refine ⟨found, hTracked.admitProc, ?_⟩
        rw [admitProc_bundles, Function.update_of_ne hIs]
        exact hProc
  | @enlist name uid now proc hDirty hAccount hNone hCreated =>
      obtain ⟨found, hTracked, hProc⟩ := hTracks
      have hMade : (s.newBundle platform (.create name uid reclaimPriorityBackground now)).Tracked other :=
        hTracked
      have hNe : other ≠ s.nextRef := (hWf.allocated hTracked).ne
      refine ⟨found, hMade.admitProc, ?_⟩
      rw [admitProc_bundles, newBundle_bundles, Function.update_of_ne hNe, Function.update_of_ne hNe]
      exact hProc
  | discharge hClean => exact absurd hWritten (hClean written)
  | dischargeLeast hClean => exact absurd hWritten (hClean written)
  | retire hClean => exact absurd hWritten (hClean written)
  | closeAccount hAccount hEmpty =>
      obtain rfl := hWf.accountId hAccount
      exact hTracks.imp fun _ hProc => ⟨(tracked_closeAccount hAccount hEmpty).mpr hProc.1, hProc.2⟩
  | setState hTracked state => exact (tracksPid_modify fun _ => rfl).mpr hTracks
  | reset hClean => exact absurd hWritten (hClean written)

/-- A tracked process was tracked before, and is in step with its file if it was
in step then. -/
def StaysInStep (s s' : ReclaimPriorityManager) (bundle : BundleRef) (pid : Int)
    (proc : ProcessPriorityInfo) : Prop :=
  ∃ before, s.TracksProc bundle pid before ∧
    (s.oomScoreAdj pid = some before.priority → s'.oomScoreAdj pid = some proc.priority)

namespace StaysInStep

variable {bundle other : BundleRef} {pid : Int} {proc before : ProcessPriorityInfo}
variable {info : BundlePriorityInfo}

/-- A process stays in step when neither its priority nor what the kernel has for it changes. -/
theorem same (hTracks : s.TracksProc other pid before) (hPriority : proc.priority = before.priority)
    (hAdj : s'.oomScoreAdj pid = s.oomScoreAdj pid) : StaysInStep s s' other pid proc :=
  ⟨before, hTracks, fun h => by rw [hAdj, h, hPriority]⟩

/-- One object changed, and what is left in it keeps its priority. -/
theorem update (hHeap : s'.bundles = Function.update s.bundles bundle info)
    (hTracked : s'.Tracked other → s.Tracked other) (hAdj : s'.oomScoreAdj pid = s.oomScoreAdj pid)
    (hTracks : s'.TracksProc other pid proc)
    (hKept : other = bundle → info.procs[pid]? = some proc →
      ∃ before, (s.bundles bundle).procs[pid]? = some before ∧ proc.priority = before.priority) :
    StaysInStep s s' other pid proc := by
  rcases hTracks.of_update hHeap with ⟨hIs, hProc⟩ | ⟨-, hProc⟩
  · obtain ⟨before, hBefore, hPriority⟩ := hKept hIs hProc
    exact .same ⟨hTracked hTracks.1, hIs ▸ hBefore⟩ hPriority hAdj
  · exact .same ⟨hTracked hTracks.1, hProc⟩ rfl hAdj

/-- A record is written with its file. Files of other pids, and records of other bundles, which
have no record of this pid, are as they were. -/
theorem link {key : Int} {old proc' : ProcessPriorityInfo} (hShaped : (s.bundles bundle).Shaped)
    (hUnique : s.PidsUnique) (hRecord : s.TracksProc bundle key old) (hRepriced : Repriced old proc')
    (hTracks : (((s.setProc bundle proc').updateBundlePriority platform bundle).writeOomScoreAdj
      proc'.pid proc'.priority).TracksProc other pid proc) :
    StaysInStep s (((s.setProc bundle proc').updateBundlePriority platform bundle).writeOomScoreAdj
      proc'.pid proc'.priority) other pid proc := by
  have hKey : proc'.pid = key := hRepriced.same.pid.trans (hShaped.record _ _ hRecord.2).pid
  have hHeap : (((s.setProc bundle proc').updateBundlePriority platform bundle).writeOomScoreAdj
      proc'.pid proc'.priority).bundles =
        Function.update s.bundles bundle ((s.bundles bundle).setProc proc').updatePriority := by
    rw [writeOomScoreAdj_bundles]
    exact resort_bundles _
  by_cases hPid : pid = proc'.pid
  · obtain rfl := hPid.trans hKey
    rcases hTracks.of_update hHeap with ⟨rfl, hProc⟩ | ⟨hIs, hProc⟩
    · refine ⟨old, hRecord, fun _ => ?_⟩
      rw [BundlePriorityInfo.updatePriority, setProc_procs, if_pos hKey] at hProc
      rw [writeOomScoreAdj_oomScoreAdj, if_pos hPid, Option.some.inj hProc]
    · exact absurd (hUnique _ _ _ ⟨proc, hTracks.1, hProc⟩ ⟨old, hRecord⟩) hIs
  · refine .update hHeap id ?_ hTracks fun _ hProc => ?_
    · rw [writeOomScoreAdj_oomScoreAdj, if_neg hPid]
      rfl
    · rw [BundlePriorityInfo.updatePriority, setProc_procs, if_neg (Ne.symm hPid)] at hProc
      exact ⟨proc, hProc, rfl⟩

end StaysInStep

/-- Processes of bundles that are not dirty stay in step. -/
theorem Effect.staysInStep (hWf : WellFormed s) (hUnique : s.PidsUnique)
    (hEffect : Effect platform dirty s s') {other : BundleRef} {pid : Int} {proc : ProcessPriorityInfo}
    (hTracks : s'.TracksProc other pid proc) (hOther : ¬ dirty other) :
    StaysInStep s s' other pid proc := by
  have hNot : ∀ {bundle}, dirty bundle → other ≠ bundle := fun hDirty hIs => hOther (hIs ▸ hDirty)
  cases hEffect with
  | notes handler apps => exact .same ((tracksProc_congr rfl rfl).mp hTracks) rfl rfl
  | @edit bundle key old proc' hEdited hSame hPriority =>
      refine .update rfl id rfl hTracks fun _ hProc => ?_
      rw [setProc_procs] at hProc
      split_ifs at hProc with hPid
      · obtain rfl := Option.some.inj hProc
        rw [← hPid, hSame.pid, ((hWf.covered bundle).record _ _ hEdited.2).pid]
        exact ⟨old, hEdited.2, hPriority⟩
      · exact ⟨proc, hProc, rfl⟩
  | reprice hDirty hRecord hRepriced =>
      exact .update (resort_bundles _) id rfl hTracks fun hIs => absurd hIs (hNot hDirty)
  | @link bundle key old proc' hRecord hRepriced =>
      exact .link (hWf.covered bundle).toShaped hUnique hRecord hRepriced hTracks
  | suspend hDirty hTracked =>
      exact .update (resort_bundles _) id rfl hTracks fun hIs => absurd hIs (hNot hDirty)
  | openAccount hNone =>
      exact .same ⟨(tracked_openAccount hNone).mp hTracks.1, hTracks.2⟩ rfl rfl
  | join hDirty hFind hCreated =>
      refine .update (admitProc_bundles _) ?_ rfl hTracks fun hIs => absurd hIs (hNot hDirty)
      exact fun hTracked => (tracked_of_admitProc hTracked).resolve_left (hNot hDirty)
  | enlist hDirty hAccount hNone hCreated =>
      refine .update (enlist_bundles _) ?_ rfl hTracks fun hIs => absurd hIs (hNot hDirty)
      exact fun hTracked => (tracked_of_admitProc hTracked).resolve_left (hNot hDirty)
  | discharge hClean hRecord hLeft hAbove =>
      refine .update rfl id rfl hTracks fun _ hProc => ?_
      rw [removeProcByPid_procs] at hProc
      split_ifs at hProc
      exact ⟨proc, hProc, rfl⟩
  | dischargeLeast hClean hRecord hLeft =>
      refine .update (resort_bundles _) id rfl hTracks fun _ hProc => ?_
      rw [BundlePriorityInfo.updatePriority, removeProcByPid_procs] at hProc
      split_ifs at hProc
      exact ⟨proc, hProc, rfl⟩
  | retire hClean hFind hRecord hLast =>
      refine .update rfl (fun hTracked => tracked_of_removeBundle hTracked) rfl hTracks
        fun _ hProc => ?_
      rw [removeProcByPid_procs] at hProc
      split_ifs at hProc
      exact ⟨proc, hProc, rfl⟩
  | closeAccount hAccount hEmpty =>
      obtain rfl := hWf.accountId hAccount
      exact .same ⟨(tracked_closeAccount hAccount hEmpty).mp hTracks.1, hTracks.2⟩ rfl rfl
  | setState hTracked state =>
      exact .update rfl id rfl hTracks fun _ hProc => ⟨proc, hProc, rfl⟩
  | reset hClean =>
      exact absurd hTracks.1 (not_tracked_reset other)

/-- Tracking no new pid keeps pids unique. -/
theorem ReclaimPriorityManager.PidsUnique.of_tracks (h : s.PidsUnique)
    (hTracks : ∀ bundle pid, s'.TracksPid bundle pid → s.TracksPid bundle pid) : s'.PidsUnique :=
  fun _ _ _ hBundle hOther => h _ _ _ (hTracks _ _ hBundle) (hTracks _ _ hOther)

/-- A process in step after the change was tracked before it. -/
theorem StaysInStep.tracksPid {bundle : BundleRef} {pid : Int} {proc : ProcessPriorityInfo}
    (h : StaysInStep s s' bundle pid proc) : s.TracksPid bundle pid :=
  h.imp fun _ hBefore => hBefore.1

/-- A request without a bundle to write tracks nothing new, and stays in step. -/
theorem Chain.keepsInSync (hWf : WellFormed s) (hUnique : s.PidsUnique) (h : s.InSync)
    (hChain : Chain platform noBundle s s') : s'.InSync := by
  have hBoth : s'.PidsUnique ∧ s'.InSync := by
    induction hChain with
    | refl => exact ⟨hUnique, h⟩
    | @tail s₁ s₂ hPrior hEffect ih =>
        have hStays : ∀ bundle pid proc, s₂.TracksProc bundle pid proc →
            StaysInStep s₁ s₂ bundle pid proc := fun _ _ _ hTracks =>
          hEffect.staysInStep (hWf.chain hPrior) ih.1 hTracks fun hDirty => hDirty
        refine ⟨ih.1.of_tracks ?_, ?_⟩
        · rintro bundle pid ⟨proc, hTracks⟩
          exact (hStays bundle pid proc hTracks).tracksPid
        · intro bundle pid proc hTracks
          obtain ⟨before, hBefore, hStep⟩ := hStays bundle pid proc hTracks
          exact hStep (ih.2 _ _ _ hBefore)
  exact hBoth.2

/-- A request that writes a bundle tracks no fewer pids, so they were unique all
along if they are at its end. -/
theorem Chain.keepsInSyncExcept {written : BundleRef} (hWf : WellFormed s) (h : s.InSync)
    (hChain : Chain platform (· = written) s s') (hUnique : s'.PidsUnique) :
    s'.InSyncExcept (· = written) := by
  induction hChain with
  | refl => exact fun _ _ _ hTracks _ => h _ _ _ hTracks
  | @tail s₁ s₂ hPrior hEffect ih =>
      have hWf₁ : WellFormed s₁ := hWf.chain hPrior
      have hKeeps : ∀ bundle pid, s₁.TracksPid bundle pid → s₂.TracksPid bundle pid :=
        fun _ _ => hEffect.keepsPids hWf₁ rfl
      have hUnique₁ : s₁.PidsUnique := hUnique.of_tracks hKeeps
      intro bundle pid proc hTracks hOther
      obtain ⟨before, hBefore, hStep⟩ := hEffect.staysInStep hWf₁ hUnique₁ hTracks hOther
      exact hStep (ih hUnique₁ _ _ _ hBefore hOther)

/-- A settled request keeps the scores of the kernel in sync, if the pid it writes for was tracked
by no bundle. -/
theorem Settled.keepsInSync {rendered : Option Int} (hWf : WellFormed s) (hUnique : s.PidsUnique)
    (hRendered : ∀ pid ∈ rendered, ∀ bundle, ¬ s.TracksPid bundle pid) (h : s.InSync)
    (hSettled : Settled platform rendered s s') (hUnique' : s'.PidsUnique) : s'.InSync := by
  cases hSettled with
  | clean hChain => exact Chain.keepsInSync hWf hUnique h hChain
  | @written s₁ bundle hTracked hChain handler =>
      have hSame : ∀ {other pid proc}, { s₁.writeBundleOomScoreAdj bundle with
          handler := handler }.TracksProc other pid proc ↔ s₁.TracksProc other pid proc :=
        tracksProc_congr writeBundleOomScoreAdj_osAccountsInfoMap writeBundleOomScoreAdj_bundles
      have hUnique₁ : s₁.PidsUnique := hUnique'.of_tracks fun _ _ => Exists.imp fun _ => hSame.mpr
      have hWritten : (s₁.writeBundleOomScoreAdj bundle).InSync :=
        (Chain.keepsInSyncExcept hWf h hChain hUnique₁).written ((hWf.chain hChain).covered bundle).toShaped
          hUnique₁ hTracked
      exact hWritten
  | render pid hPid priority =>
      intro bundle other proc hTracks
      have hBefore : s.TracksProc bundle other proc := (tracksProc_congr rfl rfl).mp hTracks
      rw [writeOomScoreAdj_oomScoreAdj, if_neg]
      · exact h _ _ _ hBefore
      · rintro rfl
        exact hRendered _ hPid bundle ⟨proc, hBefore⟩

/-- Survivors of a purge keep their priority. -/
theorem Purge.staysInStep {alivePids : List Nat} (hPurge : Purge platform alivePids s s')
    {other : BundleRef} {pid : Int} {proc : ProcessPriorityInfo}
    (hTracks : s'.TracksProc other pid proc) : StaysInStep s s' other pid proc := by
  have hKept : ∀ {bundle}, (filterDiedProcs alivePids (s.bundles bundle)).procs[pid]? = some proc →
      ∃ before, (s.bundles bundle).procs[pid]? = some before ∧ proc.priority = before.priority := by
    intro bundle hProc
    obtain ⟨before, hBefore, -, rfl⟩ := filterDiedProcs_lookup.mp hProc
    exact ⟨before, hBefore, (survivor_same alivePids before).2⟩
  cases hPurge with
  | keep hMem hLeft => exact .update rfl id rfl hTracks fun _ => hKept
  | orphan hMem hEmpty hNone => exact .update rfl id rfl hTracks fun _ => hKept
  | drop position hAt hEmpty =>
      exact .update rfl (fun hTracked => tracked_of_removeBundle hTracked) rfl hTracks fun _ => hKept

/-- The filter of the died processes keeps the scores of the kernel in sync. -/
theorem inSync_filterDiedProcess (h : s.InSync) (alivePids : List Nat) :
    (s.filterDiedProcess platform (some alivePids)).InSync := by
  apply filterDiedProcess_invariant InSync h
  intro s s' hPurge h bundle pid proc hTracks
  obtain ⟨before, hBefore, hStep⟩ := hPurge.staysInStep hTracks
  exact hStep (h _ _ _ hBefore)

/-- A hot switch writes each bundle it shifts at once. -/
theorem inSync_handleAccountHotSwitch {accounts : MultiAccountManager} (hWf : WellFormed s)
    (hUnique : s.PidsUnique) (h : s.InSync) (updatedAccountIds : List Int) :
    (accounts.handleAccountHotSwitch updatedAccountIds s).InSync := by
  have hInv : WellFormed (accounts.handleAccountHotSwitch updatedAccountIds s) ∧
      (accounts.handleAccountHotSwitch updatedAccountIds s).PidsUnique ∧
      (accounts.handleAccountHotSwitch updatedAccountIds s).InSync := by
    refine MultiAccountManager.handleAccountHotSwitch_invariant
      (fun s => WellFormed s ∧ s.PidsUnique ∧ s.InSync) ?_ ⟨hWf, hUnique, h⟩
    rintro s uid accountId bundle - hFind ⟨hWf, hUnique, h⟩
    have hPids : ∀ {other pid}, (s.modifyBundle bundle
        (accounts.shifted accountId)).TracksPid other pid ↔ s.TracksPid other pid :=
      tracksPid_modify fun pid => by simp [MultiAccountManager.shifted]
    have hModified : (s.modifyBundle bundle (accounts.shifted accountId)).PidsUnique :=
      hUnique.of_tracks fun _ _ => hPids.mp
    have hExcept : (s.modifyBundle bundle (accounts.shifted accountId)).InSyncExcept (· = bundle) := by
      rintro other pid proc ⟨hTracked, hProc⟩ hOther
      rw [modifyBundle_bundles, Function.update_of_ne hOther] at hProc
      exact h _ _ _ ⟨hTracked, hProc⟩
    have hWf' : WellFormed (accounts.shiftBundle accountId s bundle) := hWf.shiftBundle accountId bundle
    have hShaped : ((s.modifyBundle bundle (accounts.shifted accountId)).bundles bundle).Shaped := by
      have hCovered := hWf'.covered bundle
      rw [MultiAccountManager.shiftBundle_eq, writeBundleOomScoreAdj_bundles] at hCovered
      exact hCovered.toShaped
    refine ⟨hWf', ?_, hExcept.written hShaped hModified ⟨_, _, hFind⟩⟩
    refine hModified.of_tracks fun _ _ => (tracksPid_congr ?_ ?_).mp
    · exact writeBundleOomScoreAdj_osAccountsInfoMap
    · exact writeBundleOomScoreAdj_bundles
  exact hInv.2.2

/-- One operation of the service keeps the scores of the kernel in sync. -/
theorem StepEffect.keepsInSync {sys : Service} {op : Op} (hWf : WellFormed sys.manager)
    (hUnique : sys.manager.PidsUnique)
    (hRendered : ∀ pid ∈ op.rendered, ∀ bundle, ¬ sys.manager.TracksPid bundle pid)
    (h : sys.manager.InSync) (hEffect : StepEffect platform sys op s') (hUnique' : s'.PidsUnique) :
    s'.InSync := by
  cases hEffect with
  | settled hSettled => exact hSettled.keepsInSync hWf hUnique hRendered h hUnique'
  | purged alivePids => exact inSync_filterDiedProcess h alivePids
  | switched used updatedAccountIds hSwitch =>
      exact inSync_handleAccountHotSwitch hWf hUnique h updatedAccountIds

namespace Service

variable {sys : Service}

/-- Pids are unique, and a request about a render process names none of them. -/
def pidsApart (sys : Service) (op : Op) : Prop :=
  sys.manager.PidsUnique ∧ ∀ pid ∈ op.rendered, ∀ bundle, ¬ sys.manager.TracksPid bundle pid

/-- While pids are unique, the kernel's view of every tracked process is the manager's. -/
theorem Run.inSync (run : Run platform pidsApart sys) (hUnique : sys.manager.PidsUnique) :
    sys.manager.InSync := by
  have hInSync : sys.manager.PidsUnique → sys.manager.InSync := by
    apply run.keeps fun s => s.PidsUnique → s.InSync
    · intro _ bundle pid proc hTracks
      exact absurd hTracks.1 (not_tracked_init platform bundle)
    · intro sys op sys' hWf h hApart hStep
      exact (hStep.effect hWf).keepsInSync hWf hApart.1 hApart.2 (h hApart.1)
  exact hInSync hUnique

instance : ∀ sys op, Decidable (pidsApart sys op) := fun _ _ => inferInstanceAs (Decidable (_ ∧ _))

open Scenario in
/-- A process of another bundle binds an extension, and its account is switched away. -/
theorem inSync_bound_extension : ((reached [event .createProcess 1 20000001,
    event .createProcess 2 20000002, bind 1 20000001 2 20000002, event .background 1 20000001,
    .initAccounts ⟨some [100], fun _ _ => some true, true⟩, .osAccountsChanged 101 .hotSwitch
      ⟨some [101], fun _ id => some (id = 101), true⟩]).get (by decide)).manager.InSync :=
  Run.inSync (run_checked (by decide) (by decide)) (by decide)

end Service
end MemMgr
