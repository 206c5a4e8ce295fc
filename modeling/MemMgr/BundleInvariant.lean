import MemMgr.UpdateRequest
import MemMgr.PriorityForms

/-! What holds of every single bundle object, and the changes that keep it. A
bundle is covered when its cached priority is a lower bound for its processes,
which is all a reader of the ordered set relies on. -/
namespace MemMgr

open Std (ExtTreeMap)

/-- A record stored under its own pid in the bundle of its uid. -/
structure RecordOf (uid pid : Int) (proc : ProcessPriorityInfo) : Prop where
  pid : proc.pid = pid
  uid : proc.uid = uid
  notRender : proc.isRender = false
  least : -1000 ≤ proc.priority
  leastIfImportant : -1000 ≤ proc.priorityIfImportant

namespace BundlePriorityInfo

structure Shaped (info : BundlePriorityInfo) : Prop where
  owner : info.accountId = getOsAccountIdByUid info.uid
  record : ∀ (pid : Int) proc, info.procs[pid]? = some proc → RecordOf info.uid pid proc

structure Covered (info : BundlePriorityInfo) : Prop extends Shaped info where
  least : -1000 ≤ info.priority
  greatest : info.priority ≤ 1000
  below : ∀ (pid : Int) proc, info.procs[pid]? = some proc → info.priority ≤ proc.priority

/-- The bundle has a process of some kind. -/
def SomeProc (info : BundlePriorityInfo) (kind : ProcessPriorityInfo → Prop) : Prop :=
  ∃ (pid : Int) (proc : _), info.procs[pid]? = some proc ∧ kind proc

instance (info : BundlePriorityInfo) (kind : ProcessPriorityInfo → Prop) [DecidablePred kind] :
    Decidable (info.SomeProc kind) :=
  decidable_of_iff (∃ entry ∈ info.procs.toList, kind entry.2) <| by
    simp only [SomeProc, Prod.exists, ExtTreeMap.mem_toList_iff_getElem?_eq_some]

variable {info : BundlePriorityInfo}

/-- Recomputing the cached priority makes it a lower bound. -/
theorem Shaped.updatePriority (h : info.Shaped) : info.updatePriority.Covered := by
  have hMin : -1000 ≤ info.getMinProcPriority :=
    le_getMinProcPriority.mpr ⟨by decide, fun pid proc hProc _ => (h.record pid proc hProc).least⟩
  refine ⟨⟨h.owner, h.record⟩, (clampPriority_bounds _).1, (clampPriority_bounds _).2, ?_⟩
  intro pid proc hProc
  have hBelow := le_getMinProcPriority.mp (le_refl info.getMinProcPriority)
  exact (clampPriority_le hMin).trans (hBelow.2 pid proc hProc (h.record pid proc hProc).notRender)

/-- Writing a record back where it was found. -/
theorem Shaped.setProc {pid : Int} {proc proc' : ProcessPriorityInfo} (h : info.Shaped)
    (hProc : info.procs[pid]? = some proc) (hSame : ProcessPriorityInfo.SameIdentity proc proc')
    (hLeast : -1000 ≤ proc.priority → -1000 ≤ proc.priorityIfImportant → -1000 ≤ proc'.priority) :
    (info.setProc proc').Shaped := by
  have hRecord := h.record pid proc hProc
  refine ⟨h.owner, ?_⟩
  intro pid' found hFound
  rw [setProc_procs] at hFound
  split_ifs at hFound with hPid
  · obtain rfl := Option.some.inj hFound
    exact ⟨hPid, hSame.uid.trans hRecord.uid, hSame.isRender.trans hRecord.notRender,
      hLeast hRecord.least hRecord.leastIfImportant,
      hSame.priorityIfImportant ▸ hRecord.leastIfImportant⟩
  · exact h.record pid' found hFound

/-- A record that is written back with its identity and priority keeps its bundle covered. -/
theorem Covered.setProc {pid : Int} {proc proc' : ProcessPriorityInfo} (h : info.Covered)
    (hProc : info.procs[pid]? = some proc) (hSame : ProcessPriorityInfo.SameIdentity proc proc')
    (hPriority : proc'.priority = proc.priority) : (info.setProc proc').Covered := by
  refine ⟨h.toShaped.setProc hProc hSame fun hLeast _ => hPriority ▸ hLeast, h.least, h.greatest, ?_⟩
  intro pid' found hFound
  rw [setProc_procs] at hFound
  split_ifs at hFound
  · obtain rfl := Option.some.inj hFound
    exact hPriority ▸ h.below pid proc hProc
  · exact h.below pid' found hFound

/-- A bundle keeps its shape when a record of its own is added. -/
theorem Shaped.addProc {proc : ProcessPriorityInfo} (h : info.Shaped)
    (hRecord : RecordOf info.uid proc.pid proc) : (info.addProc proc).Shaped := by
  refine ⟨h.owner, ?_⟩
  intro pid found hFound
  rw [addProc_procs] at hFound
  split_ifs at hFound with hNew
  · obtain rfl := Option.some.inj hFound
    exact hNew.1 ▸ hRecord
  · exact h.record pid found hFound

/-- Fewer processes need no lower bound. -/
theorem Covered.mono {info' : BundlePriorityInfo} (h : info.Covered) (hUid : info'.uid = info.uid)
    (hAccount : info'.accountId = info.accountId) (hPriority : info'.priority = info.priority)
    (hProcs : ∀ (pid : Int) proc, info'.procs[pid]? = some proc → ∃ before,
      info.procs[pid]? = some before ∧ ProcessPriorityInfo.SameIdentity before proc ∧
        proc.priority = before.priority) : info'.Covered := by
  refine ⟨⟨by rw [hAccount, h.owner, hUid], ?_⟩, hPriority ▸ h.least, hPriority ▸ h.greatest, ?_⟩
  · intro pid proc hProc
    obtain ⟨before, hBefore, hSame, hKept⟩ := hProcs pid proc hProc
    have hRecord := h.record pid before hBefore
    exact ⟨hSame.pid.trans hRecord.pid, (hSame.uid.trans hRecord.uid).trans hUid.symm,
      hSame.isRender.trans hRecord.notRender, hKept ▸ hRecord.least,
      hSame.priorityIfImportant ▸ hRecord.leastIfImportant⟩
  · intro pid proc hProc
    obtain ⟨before, hBefore, -, hKept⟩ := hProcs pid proc hProc
    rw [hPriority, hKept]
    exact h.below pid before hBefore

/-- A bundle that loses a process still covers the others. -/
theorem Covered.removeProcByPid (h : info.Covered) (removed : Int) :
    (info.removeProcByPid removed).Covered := by
  refine h.mono rfl rfl rfl fun pid proc hProc => ?_
  rw [removeProcByPid_procs] at hProc
  split_ifs at hProc
  exact ⟨proc, hProc, .refl proc, rfl⟩

/-- The suspension of all processes keeps the shape of their bundle. -/
theorem Shaped.suspendProcs (h : info.Shaped) :
    { info with procs := info.procs.map fun _ proc =>
        { proc with priority := reclaimPrioritySuspend } : BundlePriorityInfo }.Shaped := by
  refine ⟨h.owner, ?_⟩
  intro pid proc hProc
  rw [ExtTreeMap.getElem?_map, Option.map_eq_some_iff] at hProc
  obtain ⟨before, hBefore, rfl⟩ := hProc
  have hRecord := h.record pid before hBefore
  exact ⟨hRecord.pid, hRecord.uid, hRecord.notRender, (by decide : (-1000 : Int) ≤ 800),
    hRecord.leastIfImportant⟩

/-- An account switch moves the bundle and its processes by the same amount, to a
priority in the range. -/
theorem Covered.shift {newPriority : Int} (h : info.Covered) (hLeast : 0 ≤ newPriority)
    (hGreatest : newPriority ≤ 1000) :
    ({ info with priority := newPriority }.increaseProcsPriority
      (newPriority - info.priority)).Covered := by
  have hShifted : ∀ (pid : Int) proc, ({ info with priority := newPriority }.increaseProcsPriority
      (newPriority - info.priority)).procs[pid]? = some proc → ∃ before,
        info.procs[pid]? = some before ∧
        proc = before.setPriority (before.priority + (newPriority - info.priority)) := by
    intro pid proc hProc
    rw [increaseProcsPriority_procs, Option.map_eq_some_iff] at hProc
    obtain ⟨before, hBefore, rfl⟩ := hProc
    exact ⟨before, hBefore, rfl⟩
  refine ⟨⟨h.owner, ?_⟩, (by decide : (-1000 : Int) ≤ 0).trans hLeast, hGreatest, ?_⟩
  · intro pid proc hProc
    obtain ⟨before, hBefore, rfl⟩ := hShifted pid proc hProc
    have hRecord := h.record pid before hBefore
    have hBelow := h.below pid before hBefore
    refine ⟨hRecord.pid, hRecord.uid, hRecord.notRender, ?_, hRecord.leastIfImportant⟩
    simp only [ProcessPriorityInfo.setPriority_priority]
    omega
  · intro pid proc hProc
    obtain ⟨before, hBefore, rfl⟩ := hShifted pid proc hProc
    have hBelow := h.below pid before hBefore
    simp only [ProcessPriorityInfo.setPriority_priority, increaseProcsPriority]
    omega

end BundlePriorityInfo
end MemMgr
