import MemMgr.ProcessPriorityInfo

/-! A bundle, the processes it runs, and the cached priority it is sorted by. -/
namespace MemMgr

open Std

structure BundlePriorityInfo where
  name : String
  uid : Int
  procs : ExtTreeMap Int ProcessPriorityInfo
  priority : Int
  accountId : Int
  state : BundleState
  createTime : Int
  deriving DecidableEq

/-- Clamp to the range the kernel accepts. -/
def clampPriority (priority : Int) : Int :=
  if priority ≥ reclaimPriorityMax then reclaimPriorityMax
  else if priority ≤ reclaimPriorityMin then reclaimPriorityMin
  else priority

theorem clampPriority_bounds (priority : Int) :
    -1000 ≤ clampPriority priority ∧ clampPriority priority ≤ 1000 := by
  simp only [clampPriority, reclaimPriorityMax, reclaimPriorityMin]
  split_ifs <;> omega

/-- Only a priority below the bounds is raised. -/
theorem clampPriority_le {priority : Int} (h : -1000 ≤ priority) :
    clampPriority priority ≤ priority := by
  simp only [clampPriority, reclaimPriorityMax, reclaimPriorityMin]
  split_ifs <;> omega

/-- Clamping keeps the order of priorities. -/
theorem clampPriority_mono {first second : Int} (h : first ≤ second) :
    clampPriority first ≤ clampPriority second := by
  simp only [clampPriority, reclaimPriorityMax, reclaimPriorityMin]
  split_ifs <;> omega

namespace BundlePriorityInfo

def create (name : String) (bundleUid priority now : Int) : BundlePriorityInfo where
  name := name
  uid := bundleUid
  procs := ∅
  priority := priority
  accountId := getOsAccountIdByUid bundleUid
  state := .stateDefault
  createTime := now

variable (bundle : BundlePriorityInfo)

def hasProc (pid : Int) : Bool := bundle.procs.contains pid

/-- `std::map::insert`: a record that is already there stays. -/
def addProc (newProcess : ProcessPriorityInfo) : BundlePriorityInfo :=
  { bundle with procs := bundle.procs.insertIfNew newProcess.pid newProcess }

def removeProcByPid (pid : Int) : BundlePriorityInfo :=
  { bundle with procs := bundle.procs.erase pid }

def getProcsCount : Nat := bundle.procs.size

def findProcByPid (pid : Int) : Except Fault ProcessPriorityInfo :=
  match bundle.procs[pid]? with
  | some proc => .ok proc
  | none => .error .outOfRange

def getMinProcPriority : Int :=
  bundle.procs.foldl (fun minPriority _ proc =>
    if proc.isRender then minPriority
    else if proc.priority < minPriority then proc.priority
    else minPriority) reclaimPriorityUnknown

def updatePriority : BundlePriorityInfo :=
  { bundle with priority := clampPriority bundle.getMinProcPriority }

def increaseProcsPriority (delta : Int) : BundlePriorityInfo :=
  { bundle with procs := bundle.procs.map fun _ proc => proc.setPriority (proc.priority + delta) }

/-- Write a record back through a reference obtained from `findProcByPid`. -/
def setProc (proc : ProcessPriorityInfo) : BundlePriorityInfo :=
  { bundle with procs := bundle.procs.insert proc.pid proc }

variable {bundle}

@[simp] theorem setProc_procs (proc : ProcessPriorityInfo) (pid : Int) :
    (bundle.setProc proc).procs[pid]? = if proc.pid = pid then some proc else bundle.procs[pid]? := by
  simp [setProc, ExtTreeMap.getElem?_insert]

@[simp] theorem addProc_procs (proc : ProcessPriorityInfo) (pid : Int) :
    (bundle.addProc proc).procs[pid]? =
      if proc.pid = pid ∧ proc.pid ∉ bundle.procs then some proc else bundle.procs[pid]? := by
  simp [addProc, ExtTreeMap.getElem?_insertIfNew]

@[simp] theorem removeProcByPid_procs (removed pid : Int) :
    (bundle.removeProcByPid removed).procs[pid]? =
      if removed = pid then none else bundle.procs[pid]? := by
  simp [removeProcByPid, ExtTreeMap.getElem?_erase]

@[simp] theorem increaseProcsPriority_procs (delta pid : Int) :
    (bundle.increaseProcsPriority delta).procs[pid]? =
      bundle.procs[pid]?.map fun proc => proc.setPriority (proc.priority + delta) := by
  simp [increaseProcsPriority, ExtTreeMap.getElem?_map]

theorem hasProc_iff {pid : Int} : bundle.hasProc pid = true ↔ ∃ proc, bundle.procs[pid]? = some proc := by
  rw [hasProc, ExtTreeMap.contains_iff_mem, ← ExtTreeMap.isSome_getElem?_iff_mem,
    Option.isSome_iff_exists]

/-- A process is found when there is a record under its pid. -/
theorem findProcByPid_eq_ok {pid : Int} {proc : ProcessPriorityInfo} :
    bundle.findProcByPid pid = .ok proc ↔ bundle.procs[pid]? = some proc := by
  rw [findProcByPid]
  cases bundle.procs[pid]? <;> simp

/-- The lookup throws for just the pids without a record. -/
theorem findProcByPid_eq_error {pid : Int} {fault : Fault} :
    bundle.findProcByPid pid = .error fault ↔ bundle.procs[pid]? = none ∧ fault = .outOfRange := by
  rw [findProcByPid]
  cases bundle.procs[pid]? <;> simp [eq_comm]

/-- A bundle without processes has no record under any pid. -/
theorem getProcsCount_eq_zero : bundle.getProcsCount = 0 ↔ ∀ pid : Int, bundle.procs[pid]? = none := by
  rw [getProcsCount, ← beq_iff_eq, ← ExtTreeMap.isEmpty_eq_size_beq_zero, ExtTreeMap.isEmpty_iff]
  constructor
  · intro h pid
    simp [h]
  · intro h
    apply ExtTreeMap.ext_getElem?
    intro pid
    simp [h pid]

theorem getProcsCount_ne_zero :
    bundle.getProcsCount ≠ 0 ↔ ∃ (pid : Int) (proc : _), bundle.procs[pid]? = some proc := by
  rw [ne_eq, getProcsCount_eq_zero, not_forall]
  simp only [← ne_eq, Option.ne_none_iff_exists']

/-- After an insertion the pid is recorded, whoever recorded it. -/
theorem addProc_recorded (proc : ProcessPriorityInfo) :
    ∃ recorded, (bundle.addProc proc).procs[proc.pid]? = some recorded := by
  rw [addProc]
  cases hOld : bundle.procs[proc.pid]? with
  | none => exact ⟨proc, by rw [ExtTreeMap.getElem?_insertIfNew_of_none hOld, if_pos compare_self]⟩
  | some old => exact ⟨old, by rw [ExtTreeMap.getElem?_insertIfNew_of_some hOld, hOld]⟩

/-- The cached minimum is the greatest bound below every process that is not a
render process, capped by the initial value of the loop. -/
theorem le_getMinProcPriority {bound : Int} :
    bound ≤ bundle.getMinProcPriority ↔ bound ≤ 1000 ∧
      ∀ (pid : Int) proc, bundle.procs[pid]? = some proc → proc.isRender = false →
        bound ≤ proc.priority := by
  have hFold : ∀ (entries : List (Int × ProcessPriorityInfo)) (start : Int),
      bound ≤ entries.foldl (fun minPriority entry =>
          if entry.2.isRender then minPriority
          else if entry.2.priority < minPriority then entry.2.priority
          else minPriority) start ↔
        bound ≤ start ∧ ∀ entry ∈ entries, entry.2.isRender = false → bound ≤ entry.2.priority := by
    intro entries
    induction entries with
    | nil => simp
    | cons entry entries ih =>
        intro start
        rw [List.foldl_cons, ih, List.forall_mem_cons]
        cases hRender : entry.2.isRender with
        | true => simp
        | false =>
            simp only [Bool.false_eq_true, ↓reduceIte, forall_const]
            split_ifs <;> constructor <;> rintro ⟨h1, h2⟩ <;> first
              | exact ⟨by omega, by omega, h2⟩
              | exact ⟨by omega, h2.2⟩
  rw [getMinProcPriority, ExtTreeMap.foldl_eq_foldl_toList, hFold]
  simp only [Prod.forall, ExtTreeMap.mem_toList_iff_getElem?_eq_some, reclaimPriorityUnknown]

end BundlePriorityInfo
end MemMgr
