import Mathlib.Data.Prod.Lex
import MemMgr.ExtensionPass

/-! The turns of the pass over the connected extensions. The extensions take turns in
the order of the priorities their connectors had before the pass, each turn reads the
connectors as they are by then, and nothing is computed twice. -/
namespace MemMgr

open Execution ReclaimPriorityManager ProcessPriorityInfo SearchTree

namespace ProcessPriorityInfo

/-- What the pass sorts by, where the priority stands for the connectors' least. -/
def turnKey (proc : ProcessPriorityInfo) : Int ×ₗ Int := toLex (proc.priority, proc.pid)

/-- The turn key of a process orders it among processes of other pids as the comparison of the
pass does. -/
theorem comparesByKey_turnKey {proc : ProcessPriorityInfo} {list : List ProcessPriorityInfo}
    (hPids : ∀ other ∈ list, other.pid ≠ proc.pid) :
    ComparesByKey turnKey procInfoCmpByPriority proc list := by
  intro other hOther
  have hNe := hPids other hOther
  simp only [procInfoCmpByPriority, turnKey, Prod.Lex.toLex_lt_toLex, if_neg hNe, if_neg hNe.symm]
  constructor <;> split_ifs with hPriority <;> simp only [decide_eq_true_eq] <;> omega

end ProcessPriorityInfo

variable {platform : Platform} {s s₁ s' : ReclaimPriorityManager} {bundle : BundleRef} {pid : Int}
variable {proc : ProcessPriorityInfo} {procVec procSet before after : List ProcessPriorityInfo}
variable {sorted : BinaryTree ProcessPriorityInfo}

/-- The place of an extension in the pass: the connectors' least priority as it was, then the pid. -/
def ReclaimPriorityManager.turnOf (s : ReclaimPriorityManager) (proc : ProcessPriorityInfo) :
    Option (Int ×ₗ Int) :=
  (s.minConnectorPriority id proc.procsBindToMe.toList reclaimPriorityBackground).toOption.map
    fun minExtensionPriority => (proc.setPriority minExtensionPriority).turnKey

/-- The turn of a process is the key it gets with the least priority of its connectors. -/
theorem turnOf_eq_some {least : Int}
    (hLeast : s.minConnectorPriority id proc.procsBindToMe.toList reclaimPriorityBackground = .ok least) :
    s.turnOf proc = some (proc.setPriority least).turnKey := by
  rw [turnOf, hLeast]
  rfl

/-- Extensions with distinct pids all get a turn, in the order of their keys. -/
theorem ascending_calculateExtensionProcPrio {procSet : BinaryTree ProcessPriorityInfo}
    (hDistinct : (procVec.map ProcessPriorityInfo.pid).Nodup)
    (hNew : ∀ other ∈ inorder procSet, ∀ extensionProc ∈ procVec, other.pid ≠ extensionProc.pid)
    (hAscending : Ascending turnKey (inorder procSet))
    (hRun : s.calculateExtensionProcPrio procVec procSet = .ok sorted) :
    Ascending turnKey (inorder sorted) ∧ (∀ other ∈ inorder procSet, other ∈ inorder sorted) ∧
      ∀ extensionProc ∈ procVec, ∃ minExtensionPriority,
        s.minConnectorPriority id extensionProc.procsBindToMe.toList reclaimPriorityBackground =
            .ok minExtensionPriority ∧
          extensionProc.setPriority minExtensionPriority ∈ inorder sorted := by
  induction procVec generalizing procSet with
  | nil =>
      cases hRun
      exact ⟨hAscending, fun other hOther => hOther, by simp⟩
  | cons extensionProc procVec ih =>
      obtain ⟨minExtensionPriority, hMin, hRun⟩ := bind_eq_ok.mp hRun
      obtain ⟨hFirst, hRest⟩ := List.nodup_cons.mp hDistinct
      have hPids : ∀ other ∈ inorder procSet,
          other.pid ≠ (extensionProc.setPriority minExtensionPriority).pid :=
        fun other hOther => hNew other hOther extensionProc List.mem_cons_self
      have hCmp := comparesByKey_turnKey hPids
      have hKeys : ∀ other ∈ inorder procSet,
          other.turnKey ≠ (extensionProc.setPriority minExtensionPriority).turnKey := by
        intro other hOther hKey
        exact hPids other hOther (congrArg (fun key => (ofLex key).2) hKey)
      have hInserted : ∀ other ∈ inorder (insert procInfoCmpByPriority
          (extensionProc.setPriority minExtensionPriority) procSet),
          ∀ later ∈ procVec, other.pid ≠ later.pid := by
        intro other hOther later hLater
        rcases mem_of_mem_insert hOther with rfl | hOld
        · intro hSame
          exact hFirst (List.mem_map.mpr ⟨later, hLater, hSame.symm⟩)
        · exact hNew other hOld later (List.mem_cons_of_mem _ hLater)
      obtain ⟨hSorted, hKept, hTurns⟩ :=
        ih hRest hInserted (insert_ascending hAscending hCmp) hRun
      refine ⟨hSorted, fun other hOther => hKept other (mem_insert_of_mem hOther), ?_⟩
      intro other hOther
      rcases List.mem_cons.mp hOther with rfl | hOther
      · exact ⟨minExtensionPriority, hMin, hKept _ (mem_insert_self hCmp hKeys)⟩
      · exact hTurns other hOther

/-- A pass is the pass over its first part, and the rest from there. -/
theorem setConnectExtensionProcPrio_append
    (hRun : setConnectExtensionProcPrio platform (before ++ after) s = .ok s') :
    ∃ s₁, setConnectExtensionProcPrio platform before s = .ok s₁ ∧
      setConnectExtensionProcPrio platform after s₁ = .ok s' := by
  induction before generalizing s with
  | nil => exact ⟨s, rfl, hRun⟩
  | cons extensionProcess before ih =>
      rw [List.cons_append, setConnectExtensionProcPrio] at hRun
      obtain ⟨minExtensionPriority, hMin, hRun⟩ := bind_eq_ok.mp hRun
      obtain ⟨found, hFound, hRun⟩ := bind_eq_ok.mp hRun
      cases found with
      | none =>
          obtain ⟨s₁, hBefore, hAfter⟩ := ih hRun
          refine ⟨s₁, ?_, hAfter⟩
          rw [setConnectExtensionProcPrio, hMin, hFound]
          exact hBefore
      | some found =>
          obtain ⟨s₁, hBefore, hAfter⟩ := ih hRun
          refine ⟨s₁, ?_, hAfter⟩
          rw [setConnectExtensionProcPrio, hMin, hFound]
          exact hBefore

/-- The pass has a turn for this process. -/
def Listed (procSet : List ProcessPriorityInfo) (proc : ProcessPriorityInfo) : Prop :=
  ∃ extensionProcess ∈ procSet, extensionProcess.pid = proc.pid ∧ extensionProcess.uid = proc.uid

/-- A pass reprices what it lists. -/
theorem repricing_listed (hWf : WellFormed s)
    (hRun : setConnectExtensionProcPrio platform procSet s = .ok s') :
    Repricing (Listed procSet) s s' := by
  apply setConnectExtensionProcPrio_repricing hWf _ hRun
  intro extensionProcess hMem bundle proc hFound priority minExtensionPriority _
  obtain ⟨hFind, hProc⟩ := lookupProc_eq_some.mp hFound
  have hRecord := (hWf.covered bundle).record _ _ hProc
  exact ⟨extensionProcess, hMem, hRecord.pid.symm, (hRecord.uid.trans (hWf.stored hFind).1).symm⟩

/-- The pass over the extensions keeps the manager well formed. -/
theorem WellFormed.pass (h : WellFormed s)
    (hRun : setConnectExtensionProcPrio platform procSet s = .ok s') : WellFormed s' := by
  have hChain : Chain platform noBundle s s' := setConnectExtensionProcPrio_chain hRun
  exact h.chain hChain

/-- What the pass does not list stays as it is. -/
theorem ReclaimPriorityManager.TracksProc.unlisted (hTracks : s.TracksProc bundle pid proc) (hWf : WellFormed s)
    (hUnlisted : ¬ Listed procSet proc)
    (hRun : setConnectExtensionProcPrio platform procSet s = .ok s') : s'.TracksProc bundle pid proc := by
  have hRepricing := repricing_listed hWf hRun
  obtain ⟨priority, hRecord, rfl | hListed⟩ := hRepricing.record hTracks.2
  · exact ⟨(tracked_congr hRepricing.osAccountsInfoMap).mpr hTracks.1, hRecord⟩
  · exact absurd hListed hUnlisted

/-- The turn of one extension: the state it starts in, the priority the connectors allow there,
and the record it leaves at the end of the pass. -/
structure PassTurn (platform : Platform) (s s₁ s' : ReclaimPriorityManager) (bundle : BundleRef)
    (pid : Int) (proc : ProcessPriorityInfo) (before rest : List ProcessPriorityInfo)
    (minExtensionPriority : Int) : Prop where
  wellFormed : WellFormed s₁
  nonneg : 0 ≤ minExtensionPriority
  first : setConnectExtensionProcPrio platform before s = .ok s₁
  rest : setConnectExtensionProcPrio platform rest s₁ = .ok s'
  least : s₁.minConnectorPriority connectorView proc.procsBindToMe.toList reclaimPriorityBackground =
    .ok minExtensionPriority
  record : s'.TracksProc bundle pid (proc.setPriority (proc.extensionPriority minExtensionPriority))

/-- An extension is given its priority from the connectors as they are after the turns before, and
keeps it. -/
theorem setConnectExtensionProcPrio_turn {least : Int} (hWf : WellFormed s)
    (hTracks : s.TracksProc bundle pid proc) (hBefore : ¬ Listed before proc)
    (hAfter : ¬ Listed after proc)
    (hRun : setConnectExtensionProcPrio platform (before ++ proc.setPriority least :: after) s = .ok s') :
    ∃ s₁ minExtensionPriority, PassTurn platform s s₁ s' bundle pid proc before
      (proc.setPriority least :: after) minExtensionPriority := by
  obtain ⟨s₁, hFirst, hRest⟩ := setConnectExtensionProcPrio_append hRun
  have hWf₁ := hWf.pass hFirst
  have hTracks₁ := hTracks.unlisted hWf hBefore hFirst
  have hSelf := hWf₁.lookupProc_self hTracks₁
  obtain ⟨minExtensionPriority, hNonneg, hMin, ⟨hNone, -⟩ | ⟨owner, found, hFound, hTurn⟩⟩ :=
    setConnectExtensionProcPrio_cons hRest
  · cases hSelf.symm.trans hNone
  · obtain ⟨rfl, rfl⟩ : bundle = owner ∧ proc = found := by simpa using hSelf.symm.trans hFound
    refine ⟨s₁, minExtensionPriority, hWf₁, hNonneg, hFirst, hRest, hMin, ?_⟩
    have hTurned : (relink platform s₁ bundle
        (proc.setPriority (proc.extensionPriority minExtensionPriority))).TracksProc bundle pid
          (proc.setPriority (proc.extensionPriority minExtensionPriority)) := by
      refine ⟨(tracked_congr rfl).mpr hTracks₁.1, ?_⟩
      rw [relink_bundles, Function.update_self, BundlePriorityInfo.updatePriority,
        BundlePriorityInfo.setProc_procs]
      exact if_pos ((hWf₁.covered bundle).record _ _ hTracks₁.2).pid
    exact hTurned.unlisted (hWf₁.relink hTracks₁ hNonneg) hAfter hTurn

end MemMgr
