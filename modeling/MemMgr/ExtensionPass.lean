import MemMgr.ExtensionSearch

/-! What carrying a change to the connected extensions does to the records: it
changes the priorities of extensions that can be reached, and nothing else. -/
namespace MemMgr

open Execution Relation ProcessPriorityInfo

/-- Records differ in their priorities alone, and where one differs, `result`
holds of the record with the new priority. -/
structure Repricing (result : ProcessPriorityInfo → Prop) (s s' : ReclaimPriorityManager) : Prop where
  osAccountsInfoMap : s'.osAccountsInfoMap = s.osAccountsInfoMap
  missing : ∀ {bundle} {pid : Int}, (s.bundles bundle).procs[pid]? = none →
    (s'.bundles bundle).procs[pid]? = none
  record : ∀ {bundle} {pid : Int} {proc}, (s.bundles bundle).procs[pid]? = some proc →
    ∃ priority, (s'.bundles bundle).procs[pid]? = some (proc.setPriority priority) ∧
      (priority = proc.priority ∨ result (proc.setPriority priority))

variable {result : ProcessPriorityInfo → Prop} {platform : Platform}
variable {s s₁ s₂ s' : ReclaimPriorityManager}

open ReclaimPriorityManager

namespace Repricing

/-- Nothing that is priced anew is a repricing as well. -/
theorem refl (s : ReclaimPriorityManager) : Repricing result s s :=
  ⟨rfl, id, fun {_ _ proc} hProc => ⟨proc.priority, hProc, Or.inl rfl⟩⟩

/-- A change of anything but the accounts and the heap prices nothing anew. -/
theorem of_congr (hMap : s'.osAccountsInfoMap = s.osAccountsInfoMap) (hHeap : s'.bundles = s.bundles) :
    Repricing result s s' := by
  refine ⟨hMap, fun {bundle pid} hNone => ?_, fun {bundle pid proc} hProc => ?_⟩
  · rw [hHeap]
    exact hNone
  · rw [hHeap]
    exact ⟨proc.priority, hProc, Or.inl rfl⟩

/-- Two repricings in a row are one. -/
theorem trans (left : Repricing result s s₁) (right : Repricing result s₁ s₂) :
    Repricing result s s₂ := by
  refine ⟨right.osAccountsInfoMap.trans left.osAccountsInfoMap, fun hNone =>
    right.missing (left.missing hNone), ?_⟩
  intro bundle pid proc hProc
  obtain ⟨first, hFirst, hKept⟩ := left.record hProc
  obtain ⟨second, hSecond, hAgain⟩ := right.record hFirst
  refine ⟨second, hSecond, ?_⟩
  rcases hAgain with rfl | hResult
  · exact hKept
  · exact Or.inr hResult

/-- Every record afterwards comes from one before. -/
theorem before (h : Repricing result s s') {bundle : BundleRef} {pid : Int} {after : ProcessPriorityInfo}
    (hAfter : (s'.bundles bundle).procs[pid]? = some after) :
    ∃ proc, (s.bundles bundle).procs[pid]? = some proc ∧ after = proc.setPriority after.priority ∧
      (after = proc ∨ result after) := by
  cases hProc : (s.bundles bundle).procs[pid]? with
  | none =>
      rw [h.missing hProc] at hAfter
      cases hAfter
  | some proc =>
      obtain ⟨priority, hNew, hKept⟩ := h.record hProc
      obtain rfl := Option.some.inj (hNew.symm.trans hAfter)
      exact ⟨proc, rfl, rfl, hKept.imp_left fun hSame => by rw [hSame, setPriority_self]⟩

/-- A process that is found after new prices was found before, at another price. -/
theorem lookupProc (h : Repricing result s s') {pid uid accountId : Int} {bundle : BundleRef}
    {after : ProcessPriorityInfo}
    (hLookup : s'.lookupProc pid uid accountId = .ok (some (bundle, after))) :
    ∃ proc, s.lookupProc pid uid accountId = .ok (some (bundle, proc)) ∧
      after = proc.setPriority after.priority := by
  obtain ⟨hFind, hAfter⟩ := lookupProc_eq_some.mp hLookup
  obtain ⟨proc, hProc, hSame, -⟩ := h.before hAfter
  rw [findBundle_congr h.osAccountsInfoMap] at hFind
  exact ⟨proc, lookupProc_eq_some.mpr ⟨hFind, hProc⟩, hSame⟩

/-- A repricing can be undone by another one. -/
theorem symm (h : Repricing result s s') : Repricing (fun _ => True) s' s := by
  refine ⟨h.osAccountsInfoMap.symm, fun {bundle pid} hNone => ?_, fun {bundle pid after} hAfter => ?_⟩
  · by_contra hSome
    obtain ⟨proc, hProc⟩ := Option.ne_none_iff_exists'.mp hSome
    obtain ⟨priority, hRecord, -⟩ := h.record hProc
    rw [hRecord] at hNone
    cases hNone
  · obtain ⟨proc, hProc, hSame, -⟩ := h.before hAfter
    refine ⟨proc.priority, ?_, Or.inr trivial⟩
    rw [hSame, setPriority_setPriority, setPriority_self]
    exact hProc

/-- New prices leave no binding dangling that did not, and mend none. -/
theorem dangling_iff (h : Repricing result s s') (binding : Int × Int) :
    s'.Dangling binding ↔ s.Dangling binding := by
  have hMissing : ∀ {bundle}, (s'.bundles bundle).procs[binding.1]? = none ↔
      (s.bundles bundle).procs[binding.1]? = none := ⟨h.symm.missing, h.missing⟩
  simp only [Dangling, findBundle_congr h.osAccountsInfoMap, hMissing]

/-- Bindings lead to the same processes, whatever their priorities. -/
theorem reaches_before (h : Repricing result s s') {start after : ProcessPriorityInfo} {priority : Int}
    (hReach : s'.Reaches (start.setPriority priority) after) :
    ∃ before, s.Reaches start before ∧ after = before.setPriority after.priority := by
  induction hReach with
  | refl => exact ⟨start, .refl, rfl⟩
  | @tail node next _ hNext ih =>
      obtain ⟨before, hBefore, hSame⟩ := ih
      obtain ⟨pid, uid, hBinding, hBound⟩ := mem_boundProcs.mp hNext
      obtain ⟨bundle, hFind, hProc⟩ := boundProc_eq_some.mp hBound
      obtain ⟨found, hFound, hAgain, -⟩ := h.before hProc
      rw [findBundle_congr h.osAccountsInfoMap] at hFind
      rw [hSame] at hBinding
      exact ⟨found, hBefore.tail (mem_boundProcs.mpr ⟨pid, uid, hBinding,
        boundProc_eq_some.mpr ⟨bundle, hFind, hFound⟩⟩), hAgain⟩

/-- Who could be reached over the bindings still can be, at a new price. -/
theorem reaches_after (h : Repricing result s s') {start before : ProcessPriorityInfo} (priority : Int)
    (hReach : s.Reaches start before) :
    ∃ other, s'.Reaches (start.setPriority priority) (before.setPriority other) := by
  induction hReach with
  | refl => exact ⟨priority, .refl⟩
  | @tail node next _ hNext ih =>
      obtain ⟨other, hOther⟩ := ih
      obtain ⟨pid, uid, hBinding, hBound⟩ := mem_boundProcs.mp hNext
      obtain ⟨bundle, hFind, hProc⟩ := boundProc_eq_some.mp hBound
      obtain ⟨again, hAgain, -⟩ := h.record hProc
      rw [← findBundle_congr h.osAccountsInfoMap] at hFind
      exact ⟨again, hOther.tail (mem_boundProcs.mpr ⟨pid, uid, hBinding,
        boundProc_eq_some.mpr ⟨bundle, hFind, hAgain⟩⟩)⟩

/-- A tracked process is tracked after new prices as well. -/
theorem tracksProc (h : Repricing result s s') {bundle : BundleRef} {pid : Int}
    {proc : ProcessPriorityInfo} (hTracks : s.TracksProc bundle pid proc) :
    ∃ priority, s'.TracksProc bundle pid (proc.setPriority priority) := by
  obtain ⟨priority, hRecord, -⟩ := h.record hTracks.2
  exact ⟨priority, (tracked_congr h.osAccountsInfoMap).mpr hTracks.1, hRecord⟩

/-- The priority of one record is changed. -/
theorem setProc {bundle : BundleRef} {pid priority : Int} {proc : ProcessPriorityInfo}
    (hProc : (s.bundles bundle).procs[pid]? = some proc) (hPid : proc.pid = pid)
    (hResult : result (proc.setPriority priority))
    (hMap : s'.osAccountsInfoMap = s.osAccountsInfoMap)
    (hHeap : s'.bundles = Function.update s.bundles bundle
      ((s.bundles bundle).setProc (proc.setPriority priority)).updatePriority) :
    Repricing result s s' := by
  have hRecords : ∀ {other} {key : Int}, (s'.bundles other).procs[key]? =
      if other = bundle ∧ key = pid then some (proc.setPriority priority)
      else (s.bundles other).procs[key]? := by
    intro other key
    rw [hHeap, Function.update_apply]
    by_cases hOther : other = bundle
    · subst hOther
      simp only [↓reduceIte, BundlePriorityInfo.updatePriority, BundlePriorityInfo.setProc_procs,
        true_and]
      have hKey : (proc.setPriority priority).pid = key ↔ key = pid := by
        rw [← hPid]
        exact eq_comm
      simp only [hKey]
    · rw [if_neg hOther, if_neg fun hBoth => hOther hBoth.1]
  refine ⟨hMap, fun {other key} hNone => ?_, fun {other key found} hFound => ?_⟩
  · rw [hRecords, if_neg]
    · exact hNone
    · rintro ⟨rfl, rfl⟩
      rw [hProc] at hNone
      cases hNone
  · by_cases hIs : other = bundle ∧ key = pid
    · obtain ⟨rfl, rfl⟩ := hIs
      obtain rfl := Option.some.inj (hProc.symm.trans hFound)
      exact ⟨priority, by rw [hRecords, if_pos ⟨rfl, rfl⟩], Or.inr hResult⟩
    · exact ⟨found.priority, by rw [hRecords, if_neg hIs, hFound, setPriority_self], Or.inl rfl⟩

end Repricing

namespace WellFormed

/-- The uid and pid of a tracked record lead back to it. -/
theorem lookupProc_self (h : WellFormed s) {bundle : BundleRef} {pid : Int} {proc : ProcessPriorityInfo}
    (hTracks : s.TracksProc bundle pid proc) :
    s.lookupProc proc.pid proc.uid (getOsAccountIdByUid proc.uid) = .ok (some (bundle, proc)) := by
  obtain ⟨⟨accountId, uid, hFind⟩, hProc⟩ := hTracks
  have hRecord := (h.covered bundle).record _ _ hProc
  obtain ⟨hUid, rfl⟩ := h.stored hFind
  rw [hRecord.uid, hRecord.pid, hUid]
  exact lookupProc_eq_some.mpr ⟨hFind, hProc⟩

end WellFormed

/-- Whatever a tracked process reaches is tracked. -/
theorem ReclaimPriorityManager.TracksProc.of_reaches {bundle : BundleRef} {pid : Int}
    {proc other : ProcessPriorityInfo} (hTracks : s.TracksProc bundle pid proc)
    (hReach : s.Reaches proc other) : ∃ bundle pid, s.TracksProc bundle pid other := by
  rcases ReflTransGen.cases_tail hReach with rfl | ⟨prior, -, hNext⟩
  · exact ⟨bundle, pid, hTracks⟩
  · obtain ⟨key, uid, -, hBound⟩ := mem_boundProcs.mp hNext
    obtain ⟨owner, hFind, hProc⟩ := boundProc_eq_some.mp hBound
    exact ⟨owner, key, ⟨_, _, hFind⟩, hProc⟩

/-- A tracked record is found in one place only. -/
theorem WellFormed.place_unique (h : WellFormed s) {bundle other : BundleRef} {pid key : Int}
    {proc : ProcessPriorityInfo} (hTracks : s.TracksProc bundle pid proc)
    (hOther : s.TracksProc other key proc) : bundle = other ∧ pid = key := by
  have hSame := (h.lookupProc_self hTracks).symm.trans (h.lookupProc_self hOther)
  refine ⟨by simpa using hSame, ?_⟩
  exact ((h.covered bundle).record _ _ hTracks.2).pid.symm.trans ((h.covered other).record _ _ hOther.2).pid

/-- The uid and pid of a tracked record tell it from the others. -/
theorem WellFormed.record_unique (h : WellFormed s) {bundle other : BundleRef} {pid key : Int}
    {proc found : ProcessPriorityInfo} (hTracks : s.TracksProc bundle pid proc)
    (hOther : s.TracksProc other key found) (hPid : found.pid = proc.pid) (hUid : found.uid = proc.uid) :
    found = proc := by
  have hFound := h.lookupProc_self hOther
  rw [hPid, hUid, h.lookupProc_self hTracks] at hFound
  simp only [Except.ok.injEq, Option.some.injEq, Prod.mk.injEq] at hFound
  exact hFound.2.symm

/-- Pids tell the same processes apart, whatever their priorities. -/
theorem Repricing.separate (h : Repricing result s s') (hWf : WellFormed s') {bundle : BundleRef}
    {pid priority : Int} {start : ProcessPriorityInfo}
    (hTracks : s'.TracksProc bundle pid (start.setPriority priority))
    (hSeparate : QueueSearch.Separate ProcessPriorityInfo.pid isExtension s.boundProcs start) :
    QueueSearch.Separate ProcessPriorityInfo.pid isExtension s'.boundProcs (start.setPriority priority) := by
  intro node other hNode hOther hMarked hPid
  obtain ⟨before, hBefore, hSame⟩ := h.reaches_before hNode
  obtain ⟨before', hBefore', hSame'⟩ := h.reaches_before hOther
  rw [hSame] at hMarked
  have hKeys : before'.pid = before.pid := by
    rw [hSame, hSame'] at hPid
    exact hPid
  obtain rfl := hSeparate before before' hBefore hBefore' hMarked hKeys
  obtain ⟨_, _, hNodeTracks⟩ := hTracks.of_reaches hNode
  obtain ⟨_, _, hOtherTracks⟩ := hTracks.of_reaches hOther
  apply hWf.record_unique hNodeTracks hOtherTracks hPid
  rw [hSame, hSame']
  rfl

/-- One round of the pass: the record is written, its bundle re-sorted, its file written. -/
def relink (platform : Platform) (s : ReclaimPriorityManager) (bundle : BundleRef)
    (proc : ProcessPriorityInfo) : ReclaimPriorityManager :=
  ((s.setProc bundle proc).updateBundlePriority platform bundle).writeOomScoreAdj proc.pid proc.priority

/-- A record that is linked in again changes its own bundle only, which is priced anew. -/
theorem relink_bundles (bundle : BundleRef) (proc : ProcessPriorityInfo) :
    (relink platform s bundle proc).bundles =
      Function.update s.bundles bundle ((s.bundles bundle).setProc proc).updatePriority := by
  rw [relink, writeOomScoreAdj_bundles]
  exact resort_bundles _

/-- The pass stops at a lookup that throws, passes over an extension that is gone,
and relinks every other one. -/
theorem setConnectExtensionProcPrio_cons {extensionProcess : ProcessPriorityInfo}
    {procSet : List ProcessPriorityInfo}
    (hRun : setConnectExtensionProcPrio platform (extensionProcess :: procSet) s = .ok s') :
    ∃ minExtensionPriority, 0 ≤ minExtensionPriority ∧
      s.minConnectorPriority connectorView extensionProcess.procsBindToMe.toList
        reclaimPriorityBackground = .ok minExtensionPriority ∧
      ((s.lookupProc extensionProcess.pid extensionProcess.uid
            (getOsAccountIdByUid extensionProcess.uid) = .ok none ∧
          setConnectExtensionProcPrio platform procSet s = .ok s') ∨
        ∃ bundle proc, s.lookupProc extensionProcess.pid extensionProcess.uid
            (getOsAccountIdByUid extensionProcess.uid) = .ok (some (bundle, proc)) ∧
          setConnectExtensionProcPrio platform procSet (relink platform s bundle
            (proc.setPriority (proc.extensionPriority minExtensionPriority))) = .ok s') := by
  obtain ⟨minExtensionPriority, hMin, hRun⟩ := bind_eq_ok.mp hRun
  obtain ⟨found, hFound, hRun⟩ := bind_eq_ok.mp hRun
  have hNonneg : 0 ≤ minExtensionPriority :=
    le_minConnectorPriority hMin (by decide) le_rfl connectorView_nonneg
  refine ⟨minExtensionPriority, hNonneg, hMin, ?_⟩
  cases found with
  | none => exact Or.inl ⟨hFound, hRun⟩
  | some found =>
      refine Or.inr ⟨found.1, found.2, hFound, ?_⟩
      rw [relink, ← extensionPriorityUpdate_eq found.2 minExtensionPriority]
      exact hRun

/-- To link a record in with the priority of its bindings keeps the state well formed. -/
theorem WellFormed.relink (h : WellFormed s) {bundle : BundleRef} {pid : Int}
    {proc : ProcessPriorityInfo} {minExtensionPriority : Int} (hTracks : s.TracksProc bundle pid proc)
    (hMin : 0 ≤ minExtensionPriority) :
    WellFormed (relink platform s bundle
      (proc.setPriority (proc.extensionPriority minExtensionPriority))) := by
  have hRepriced := repriced_extensionPriorityUpdate proc hMin
  rw [extensionPriorityUpdate_eq] at hRepriced
  have hEffect : Effect platform noBundle s (MemMgr.relink platform s bundle
      (proc.setPriority (proc.extensionPriority minExtensionPriority))) := .link hTracks hRepriced
  exact h.effect hEffect

/-- A record that is linked in again is a repricing. -/
theorem repricing_relink (hWf : WellFormed s) {bundle : BundleRef} {pid priority : Int}
    {proc : ProcessPriorityInfo} (hTracks : s.TracksProc bundle pid proc)
    (hResult : result (proc.setPriority priority)) :
    Repricing result s (relink platform s bundle (proc.setPriority priority)) :=
  .setProc hTracks.2 ((hWf.covered bundle).record _ _ hTracks.2).pid hResult rfl (relink_bundles _ _)

/-- The pass over the sorted extensions reprices the records it looks up. -/
theorem setConnectExtensionProcPrio_repricing (hWf : WellFormed s) {procSet : List ProcessPriorityInfo}
    (hResult : ∀ extensionProcess ∈ procSet, ∀ bundle proc,
      s.lookupProc extensionProcess.pid extensionProcess.uid (getOsAccountIdByUid extensionProcess.uid) =
        .ok (some (bundle, proc)) →
      ∀ priority minExtensionPriority, 0 ≤ minExtensionPriority → result
        (proc.setPriority ((proc.setPriority priority).extensionPriority minExtensionPriority)))
    (hRun : setConnectExtensionProcPrio platform procSet s = .ok s') : Repricing result s s' := by
  induction procSet generalizing s with
  | nil =>
      cases hRun
      exact .refl _
  | cons extensionProcess procSet ih =>
      have hRest := fun other hOther => hResult other (List.mem_cons_of_mem _ hOther)
      obtain ⟨minExtensionPriority, hNonneg, -, ⟨-, hRun⟩ | ⟨bundle, proc, hFound, hRun⟩⟩ :=
        setConnectExtensionProcPrio_cons hRun
      · exact ih hWf hRest hRun
      · obtain ⟨hFind, hProc⟩ := lookupProc_eq_some.mp hFound
        have hTracks : s.TracksProc bundle extensionProcess.pid proc := ⟨⟨_, _, hFind⟩, hProc⟩
        have hFirst : Repricing result s (relink platform s bundle
            (proc.setPriority (proc.extensionPriority minExtensionPriority))) :=
          repricing_relink hWf hTracks
            (hResult _ List.mem_cons_self bundle proc hFound proc.priority _ hNonneg)
        refine hFirst.trans (ih (hWf.relink hTracks hNonneg) ?_ hRun)
        intro other hOther otherBundle after hAfter priority
        obtain ⟨before, hBefore, hSame⟩ := hFirst.lookupProc hAfter
        rw [hSame]
        simp only [setPriority_setPriority]
        exact hRest other hOther otherBundle before hBefore priority

/-- Everything the search finds is an extension that can be reached over the bindings. -/
theorem mem_of_getConnectedExtensionProc (hWf : WellFormed s) {fuel : Nat}
    {proc extensionProc : ProcessPriorityInfo} {procVec : List ProcessPriorityInfo}
    (hRun : s.getConnectedExtensionProc fuel proc = .ok procVec) (hMem : extensionProc ∈ procVec) :
    extensionProc.isExtension = true ∧ s.Reaches proc extensionProc := by
  obtain ⟨_, hSound⟩ := QueueSearch.search_sound (hWf.search_of_loop hRun)
  exact hSound.exact extensionProc hMem

/-- The sorted set holds the extensions, with the priority of their connectors for a key. -/
theorem mem_of_calculateExtensionProcPrio {procVec : List ProcessPriorityInfo}
    {procSet sorted : BinaryTree ProcessPriorityInfo} {extensionProcess : ProcessPriorityInfo}
    (hRun : s.calculateExtensionProcPrio procVec procSet = .ok sorted)
    (hMem : extensionProcess ∈ SearchTree.inorder sorted) :
    extensionProcess ∈ SearchTree.inorder procSet ∨ ∃ extensionProc ∈ procVec, ∃ minExtensionPriority,
      s.minConnectorPriority id extensionProc.procsBindToMe.toList reclaimPriorityBackground =
        .ok minExtensionPriority ∧
      extensionProcess = extensionProc.setPriority minExtensionPriority := by
  induction procVec generalizing procSet with
  | nil =>
      cases hRun
      exact Or.inl hMem
  | cons extensionProc procVec ih =>
      obtain ⟨minExtensionPriority, hMin, hRun⟩ := bind_eq_ok.mp hRun
      rcases ih hRun with hInserted | ⟨other, hOther, rest⟩
      · rcases SearchTree.mem_of_mem_insert hInserted with rfl | hOld
        · exact Or.inr ⟨extensionProc, List.mem_cons_self, minExtensionPriority, hMin, rfl⟩
        · exact Or.inl hOld
      · exact Or.inr ⟨other, List.mem_cons_of_mem _ hOther, rest⟩

/-- What the pass looks up at a turn is an extension that can be reached. -/
theorem reached_of_turn (hWf : WellFormed s) {fuel : Nat} {bundle owner : BundleRef} {pid : Int}
    {proc found extensionProcess : ProcessPriorityInfo} {procVec : List ProcessPriorityInfo}
    {sorted : BinaryTree ProcessPriorityInfo} (hTracks : s.TracksProc bundle pid proc)
    (hVec : s.getConnectedExtensionProc fuel proc = .ok procVec)
    (hSorted : s.calculateExtensionProcPrio procVec .nil = .ok sorted)
    (hMem : extensionProcess ∈ SearchTree.inorder sorted)
    (hFound : s.lookupProc extensionProcess.pid extensionProcess.uid
      (getOsAccountIdByUid extensionProcess.uid) = .ok (some (owner, found))) :
    found.isExtension = true ∧ s.Reaches proc found := by
  rcases mem_of_calculateExtensionProcPrio hSorted hMem with hNone | ⟨other, hOther, _, -, rfl⟩
  · cases hNone
  · have hReached := mem_of_getConnectedExtensionProc hWf hVec hOther
    obtain ⟨_, _, hOtherTracks⟩ := hTracks.of_reaches hReached.2
    obtain ⟨rfl, rfl⟩ : _ = owner ∧ other = found := by
      simpa using (hWf.lookupProc_self hOtherTracks).symm.trans hFound
    exact hReached

/-- Carrying a change of a tracked process on reprices the extensions it reaches. -/
theorem updatePriorityByProcForExtension_repricing (hWf : WellFormed s) {fuel : Nat}
    {bundle : BundleRef} {pid : Int} {proc : ProcessPriorityInfo} (hTracks : s.TracksProc bundle pid proc)
    (hResult : ∀ other, other.isExtension = true → s.Reaches proc other →
      ∀ priority minExtensionPriority, 0 ≤ minExtensionPriority → result
        (other.setPriority ((other.setPriority priority).extensionPriority minExtensionPriority)))
    (hRun : s.updatePriorityByProcForExtension platform fuel proc = .ok s') : Repricing result s s' := by
  obtain ⟨procVec, hVec, hRun⟩ := bind_eq_ok.mp hRun
  split_ifs at hRun
  · cases hRun
    exact .refl _
  · obtain ⟨sorted, hSorted, hRun⟩ := bind_eq_ok.mp hRun
    refine setConnectExtensionProcPrio_repricing hWf ?_ hRun
    intro extensionProcess hMem owner found hFound
    obtain ⟨hExtension, hReach⟩ := reached_of_turn hWf hTracks hVec hSorted hMem hFound
    exact hResult found hExtension hReach

/-- The state once the flags of a process are counted into its priority. -/
def withFlagPriority (platform : Platform) (s : ReclaimPriorityManager) (bundle : BundleRef)
    (proc : ProcessPriorityInfo) : ReclaimPriorityManager :=
  (s.setProc bundle proc.updatePriorityByFlags).updateBundlePriority platform bundle

/-- The priority of the flags is written into one record, and its bundle is priced anew. -/
theorem withFlagPriority_bundles (bundle : BundleRef) (proc : ProcessPriorityInfo) :
    (withFlagPriority platform s bundle proc).bundles = Function.update s.bundles bundle
      ((s.bundles bundle).setProc (proc.setPriority proc.statusPriority)).updatePriority := by
  rw [← updatePriorityByFlags_eq]
  exact resort_bundles _

/-- The recomputation of a priority is that of its flags, followed by the pass over the extensions,
unless the bundle is kept by the system. -/
theorem updatePriorityByProcStatus_eq (hWf : WellFormed s) {fuel : Nat} {bundle : BundleRef} {pid : Int}
    {proc : ProcessPriorityInfo} (hTracks : s.TracksProc bundle pid proc) :
    s.updatePriorityByProcStatus platform fuel bundle proc =
      if (s.bundles bundle).priority < reclaimPriorityForeground then .ok s
      else (withFlagPriority platform s bundle proc).updatePriorityByProcForExtension platform fuel
        (proc.setPriority proc.statusPriority) := by
  rw [updatePriorityByProcStatus, ((hWf.covered bundle).record _ _ hTracks.2).notRender,
    ← updatePriorityByFlags_eq]
  rfl

/-- To price a record by its flags keeps the state well formed. -/
theorem WellFormed.withFlagPriority (h : WellFormed s) {bundle : BundleRef} {pid : Int}
    {proc : ProcessPriorityInfo} (hTracks : s.TracksProc bundle pid proc) :
    WellFormed (withFlagPriority platform s bundle proc) := by
  have hEffect : Effect platform (· = bundle) s (MemMgr.withFlagPriority platform s bundle proc) :=
    .reprice rfl hTracks (repriced_updatePriorityByFlags proc)
  exact h.effect hEffect

/-- A record that is priced by its flags is still tracked. -/
theorem tracksProc_withFlagPriority (hWf : WellFormed s) {bundle : BundleRef} {pid : Int}
    {proc : ProcessPriorityInfo} (hTracks : s.TracksProc bundle pid proc) :
    (withFlagPriority platform s bundle proc).TracksProc bundle pid
      (proc.setPriority proc.statusPriority) := by
  refine ⟨(tracked_congr rfl).mpr hTracks.1, ?_⟩
  rw [withFlagPriority_bundles, Function.update_self, BundlePriorityInfo.updatePriority,
    BundlePriorityInfo.setProc_procs]
  exact if_pos ((hWf.covered bundle).record _ _ hTracks.2).pid

/-- Counting flags in changes one priority. -/
theorem repricing_withFlagPriority (hWf : WellFormed s) {bundle : BundleRef} {pid : Int}
    {proc : ProcessPriorityInfo} (hTracks : s.TracksProc bundle pid proc) :
    Repricing (fun _ => True) s (withFlagPriority platform s bundle proc) :=
  .setProc hTracks.2 ((hWf.covered bundle).record _ _ hTracks.2).pid trivial rfl
    (withFlagPriority_bundles _ _)

/-- The recomputation stops early, or it counts the flags in and carries that on. -/
theorem updatePriorityByProcStatus_repricing (hWf : WellFormed s) {fuel : Nat}
    {bundle : BundleRef} {pid : Int} {proc : ProcessPriorityInfo} (hTracks : s.TracksProc bundle pid proc)
    (hResult : ∀ other, other.isExtension = true → (withFlagPriority platform s bundle proc).Reaches
        (proc.setPriority proc.statusPriority) other →
      ∀ priority minExtensionPriority, 0 ≤ minExtensionPriority → result
        (other.setPriority ((other.setPriority priority).extensionPriority minExtensionPriority)))
    (hRun : s.updatePriorityByProcStatus platform fuel bundle proc = .ok s') :
    (s.bundles bundle).priority < 0 ∧ s' = s ∨ 0 ≤ (s.bundles bundle).priority ∧
      Repricing result (withFlagPriority platform s bundle proc) s' := by
  rw [updatePriorityByProcStatus_eq hWf hTracks] at hRun
  split_ifs at hRun with hLess
  · exact Or.inl ⟨hLess, (Except.ok.inj hRun).symm⟩
  · exact Or.inr ⟨not_lt.mp hLess, updatePriorityByProcForExtension_repricing
      (hWf.withFlagPriority hTracks) (tracksProc_withFlagPriority hWf hTracks) hResult hRun⟩

section

variable {good : ProcessPriorityInfo → Prop}

/-- A property of records that survives the turn of every extension of the pass. -/
theorem setConnectExtensionProcPrio_forall (hWf : WellFormed s) {procSet : List ProcessPriorityInfo}
    (hGood : ∀ bundle pid proc, s.TracksProc bundle pid proc → good proc)
    (hTurn : ∀ extensionProcess ∈ procSet, ∀ bundle proc,
      s.lookupProc extensionProcess.pid extensionProcess.uid (getOsAccountIdByUid extensionProcess.uid) =
        .ok (some (bundle, proc)) →
      ∀ priority minExtensionPriority, 0 ≤ minExtensionPriority → good (proc.setPriority priority) →
        good (proc.setPriority ((proc.setPriority priority).extensionPriority minExtensionPriority)))
    (hRun : setConnectExtensionProcPrio platform procSet s = .ok s') :
    ∀ bundle pid proc, s'.TracksProc bundle pid proc → good proc := by
  induction procSet generalizing s with
  | nil =>
      cases hRun
      exact hGood
  | cons extensionProcess procSet ih =>
      have hRest := fun other hOther => hTurn other (List.mem_cons_of_mem _ hOther)
      obtain ⟨minExtensionPriority, hNonneg, -, ⟨-, hRun⟩ | ⟨bundle, proc, hFound, hRun⟩⟩ :=
        setConnectExtensionProcPrio_cons hRun
      · exact ih hWf hGood hRest hRun
      · obtain ⟨hFind, hProc⟩ := lookupProc_eq_some.mp hFound
        have hTracks : s.TracksProc bundle extensionProcess.pid proc := ⟨⟨_, _, hFind⟩, hProc⟩
        have hFirst : Repricing good s (relink platform s bundle
            (proc.setPriority (proc.extensionPriority minExtensionPriority))) :=
          repricing_relink hWf hTracks (hTurn _ List.mem_cons_self bundle proc hFound proc.priority _
            hNonneg (hGood bundle _ proc hTracks))
        apply ih (hWf.relink hTracks hNonneg) _ _ hRun
        · intro other key after hAfter
          obtain ⟨before, hBefore, -, rfl | hAgain⟩ := hFirst.before hAfter.2
          · exact hGood other key _ ⟨(tracked_congr hFirst.osAccountsInfoMap).mp hAfter.1, hBefore⟩
          · exact hAgain
        · intro other hOther otherBundle after hAfter priority
          obtain ⟨before, hBefore, hSame⟩ := hFirst.lookupProc hAfter
          rw [hSame]
          simp only [setPriority_setPriority]
          exact hRest other hOther otherBundle before hBefore priority

/-- A property of records that survives counting flags in, and the turns of the
extensions that are reached, survives the recomputation. -/
theorem updatePriorityByProcStatus_forall (hWf : WellFormed s) {fuel : Nat} {bundle : BundleRef} {pid : Int}
    {proc : ProcessPriorityInfo} (hTracks : s.TracksProc bundle pid proc)
    (hGood : ∀ bundle pid proc, s.TracksProc bundle pid proc → good proc)
    (hFlags : 0 ≤ (s.bundles bundle).priority → good (proc.setPriority proc.statusPriority))
    (hTurn : 0 ≤ (s.bundles bundle).priority → ∀ other, other.isExtension = true →
      (withFlagPriority platform s bundle proc).Reaches (proc.setPriority proc.statusPriority) other →
      ∀ priority minExtensionPriority, 0 ≤ minExtensionPriority → good (other.setPriority priority) →
        good (other.setPriority ((other.setPriority priority).extensionPriority minExtensionPriority)))
    (hRun : s.updatePriorityByProcStatus platform fuel bundle proc = .ok s') :
    ∀ bundle pid proc, s'.TracksProc bundle pid proc → good proc := by
  rw [updatePriorityByProcStatus_eq hWf hTracks] at hRun
  split_ifs at hRun with hLess
  · cases hRun
    exact hGood
  have hNonneg : 0 ≤ (s.bundles bundle).priority := not_lt.mp hLess
  have hCounted : Repricing good s (withFlagPriority platform s bundle proc) :=
    .setProc hTracks.2 ((hWf.covered bundle).record _ _ hTracks.2).pid (hFlags hNonneg) rfl
      (withFlagPriority_bundles _ _)
  have hAll : ∀ bundle' pid' proc', (withFlagPriority platform s bundle proc).TracksProc bundle' pid' proc' →
      good proc' := by
    intro other key after hAfter
    obtain ⟨before, hBefore, -, rfl | hAgain⟩ := hCounted.before hAfter.2
    · exact hGood other key _ ⟨(tracked_congr hCounted.osAccountsInfoMap).mp hAfter.1, hBefore⟩
    · exact hAgain
  obtain ⟨procVec, hVec, hRun⟩ := bind_eq_ok.mp hRun
  split_ifs at hRun
  · cases hRun
    exact hAll
  obtain ⟨sorted, hSorted, hRun⟩ := bind_eq_ok.mp hRun
  have hWf₁ : WellFormed (withFlagPriority platform s bundle proc) := hWf.withFlagPriority hTracks
  apply setConnectExtensionProcPrio_forall hWf₁ hAll _ hRun
  intro extensionProcess hMem owner found hFound
  obtain ⟨hExtension, hReach⟩ := reached_of_turn hWf₁ (tracksProc_withFlagPriority hWf hTracks) hVec
    hSorted hMem hFound
  exact hTurn hNonneg found hExtension hReach

end

end MemMgr
