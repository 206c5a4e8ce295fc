import MemMgr.UpdateRequest

/-! Closed forms. Every function that computes a priority changes nothing else of
the record, so it is `setPriority` of a number. -/
namespace MemMgr

namespace ProcessPriorityInfo

variable (proc : ProcessPriorityInfo)

@[simp] theorem setPriority_priority (priority : Int) : (proc.setPriority priority).priority = priority :=
  rfl

@[simp] theorem setPriority_setPriority (first second : Int) :
    (proc.setPriority first).setPriority second = proc.setPriority second := rfl

@[simp] theorem setPriority_self : proc.setPriority proc.priority = proc := rfl

theorem sameIdentity_setPriority (priority : Int) : SameIdentity proc (proc.setPriority priority) :=
  ⟨rfl, rfl, rfl, rfl, rfl⟩

theorem capPriority_eq (bound : Int) :
    proc.capPriority bound = proc.setPriority (min proc.priority bound) := by
  rw [capPriority]
  split_ifs with h
  · rw [min_eq_right (by omega)]
  · rw [min_eq_left (by omega), setPriority_self]

theorem setImportantProcPriority_eq :
    proc.setImportantProcPriority = proc.setPriority (min proc.priority proc.priorityIfImportant) :=
  proc.capPriority_eq proc.priorityIfImportant

/-- Cap a priority by the bound of an important process. -/
def capIfImportant (priority : Int) : Int :=
  if proc.isImportant then min priority proc.priorityIfImportant else priority

/-- What a process may keep of its priority at most, besides the foreground and
the plain background: the weightiest of its flags. -/
def statusCap : Option Int :=
  if proc.isSuspendDelay then some reclaimPriorityBgSuspendDelay
  else if proc.isBackgroundRunning || proc.isEventStart then some reclaimPriorityBgPerceived
  else if proc.isDistDeviceConnected then some reclaimPriorityBgDistDevice
  else none

def capBy (priority : Int) : Option Int → Int
  | some bound => min priority bound
  | none => priority

/-- Where the recomputation from flags starts. -/
def statusStart : Int :=
  if proc.isFreground then min proc.priority reclaimPriorityForeground
  else if proc.isExtension then proc.priority
  else reclaimPriorityBackground

/-- The number `updatePriorityByFlags` arrives at. -/
def statusPriority : Int :=
  let priority := proc.statusStart
  let priority := if proc.isVisible then min priority reclaimPriorityVisible else priority
  proc.capIfImportant (capBy priority proc.statusCap)

private theorem foreground_eq :
    (if proc.isFreground then proc.capPriority reclaimPriorityForeground
      else if !proc.isExtension then proc.setPriority reclaimPriorityBackground
      else proc) = proc.setPriority proc.statusStart := by
  rw [statusStart, capPriority_eq]
  cases proc.isFreground with
  | true => rfl
  | false => cases proc.isExtension <;> rfl

private theorem visible_eq (priority : Int) :
    (if (proc.setPriority priority).isVisible then
        (proc.setPriority priority).capPriority reclaimPriorityVisible
      else proc.setPriority priority) =
      proc.setPriority (if proc.isVisible then min priority reclaimPriorityVisible else priority) := by
  rw [capPriority_eq, apply_ite proc.setPriority]
  rfl

private theorem status_eq (priority : Int) :
    (if (proc.setPriority priority).isSuspendDelay then
        (proc.setPriority priority).capPriority reclaimPriorityBgSuspendDelay
      else if (proc.setPriority priority).isBackgroundRunning ||
          (proc.setPriority priority).isEventStart then
        (proc.setPriority priority).capPriority reclaimPriorityBgPerceived
      else if (proc.setPriority priority).isDistDeviceConnected then
        (proc.setPriority priority).capPriority reclaimPriorityBgDistDevice
      else proc.setPriority priority) =
      proc.setPriority (capBy priority proc.statusCap) := by
  simp only [capPriority_eq, statusCap, setPriority]
  split_ifs <;> rfl

private theorem important_eq (priority : Int) :
    (if (proc.setPriority priority).isImportant then
        (proc.setPriority priority).setImportantProcPriority
      else proc.setPriority priority) = proc.setPriority (proc.capIfImportant priority) := by
  rw [setImportantProcPriority_eq, capIfImportant, apply_ite proc.setPriority]
  rfl

theorem updatePriorityByFlags_eq :
    proc.updatePriorityByFlags = proc.setPriority proc.statusPriority := by
  rw [updatePriorityByFlags]
  simp only [foreground_eq]
  simp only [visible_eq]
  simp only [status_eq]
  simp only [important_eq, statusPriority]

/-- The bound of an important process, or a priority that is no bound. -/
theorem capIfImportant_le (priority : Int) : proc.capIfImportant priority ≤ priority := by
  rw [capIfImportant]
  split_ifs
  · exact min_le_left _ _
  · exact le_rfl

theorem le_capIfImportant {priority bound : Int} (hPriority : bound ≤ priority)
    (hImportant : proc.isImportant = true → bound ≤ proc.priorityIfImportant) :
    bound ≤ proc.capIfImportant priority := by
  rw [capIfImportant]
  split_ifs with h
  · exact le_min hPriority (hImportant h)
  · exact hPriority

theorem le_capBy {priority bound : Int} {cap : Option Int} (hPriority : bound ≤ priority)
    (hCap : ∀ value, cap = some value → bound ≤ value) : bound ≤ capBy priority cap := by
  cases cap with
  | none => exact hPriority
  | some value => exact le_min hPriority (hCap value rfl)

theorem statusCap_pos {value : Int} (h : proc.statusCap = some value) : 100 ≤ value := by
  simp only [statusCap, reclaimPriorityBgSuspendDelay, reclaimPriorityBgPerceived,
    reclaimPriorityBgDistDevice] at h
  split_ifs at h <;> cases h <;> decide

theorem le_statusPriority {bound : Int} (hBound : bound ≤ 0) (hPriority : bound ≤ proc.priority)
    (hImportant : proc.isImportant = true → bound ≤ proc.priorityIfImportant) :
    bound ≤ proc.statusPriority := by
  have hStart : bound ≤ proc.statusStart := by
    simp only [statusStart, reclaimPriorityForeground, reclaimPriorityBackground]
    split_ifs <;> omega
  refine proc.le_capIfImportant (le_capBy ?_ ?_) hImportant
  · simp only [reclaimPriorityVisible]
    split_ifs <;> omega
  · intro value hValue
    have := proc.statusCap_pos hValue
    omega

/-- What the flags of an extension are worth to it as an application of its own. -/
def priorityByFlags : Int :=
  if proc.isFreground then reclaimPriorityForeground
  else if proc.isVisible then reclaimPriorityVisible
  else if proc.isSuspendDelay then reclaimPriorityBgSuspendDelay
  else if proc.isBackgroundRunning || proc.isEventStart then reclaimPriorityBgPerceived
  else if proc.isDistDeviceConnected then reclaimPriorityBgDistDevice
  else if proc.hasUI then reclaimPriorityBackground
  else reclaimPriorityUnknown

/-- The bound of an important process replaces its flags, unless its priority so
far is already below. -/
theorem getPriorityByProcStatus_eq :
    proc.getPriorityByProcStatus =
      if proc.isImportant = true ∧ proc.priorityIfImportant ≤ proc.priority then
        proc.priorityIfImportant
      else proc.priorityByFlags := by
  rw [getPriorityByProcStatus, priorityByFlags]
  cases proc.isFreground <;> cases proc.isImportant <;> simp

theorem priorityByFlags_nonneg : 0 ≤ proc.priorityByFlags := by
  rw [priorityByFlags]
  split_ifs <;> decide

theorem le_getPriorityByProcStatus {bound : Int} (hBound : bound ≤ 0)
    (hImportant : proc.isImportant = true → bound ≤ proc.priorityIfImportant) :
    bound ≤ proc.getPriorityByProcStatus := by
  rw [getPriorityByProcStatus_eq]
  split_ifs with h
  · exact hImportant h.1
  · exact hBound.trans proc.priorityByFlags_nonneg

/-- The number an extension is given. -/
def extensionPriority (minExtensionPriority : Int) : Int :=
  proc.capIfImportant (min proc.getPriorityByProcStatus
    (minExtensionPriority + ReclaimPriorityManager.deltaPriority))

theorem extensionPriorityUpdate_eq (minExtensionPriority : Int) :
    ReclaimPriorityManager.extensionPriorityUpdate proc minExtensionPriority =
      proc.setPriority (proc.extensionPriority minExtensionPriority) := by
  have hMin : ∀ first second : Int, (if first < second then first else second) = min first second := by
    intro first second
    split_ifs with h
    · exact (min_eq_left h.le).symm
    · exact (min_eq_right (not_lt.mp h)).symm
  simp only [ReclaimPriorityManager.extensionPriorityUpdate, hMin, important_eq, extensionPriority]

theorem le_extensionPriority {bound minExtensionPriority : Int} (hBound : bound ≤ 0)
    (hMin : bound ≤ minExtensionPriority)
    (hImportant : proc.isImportant = true → bound ≤ proc.priorityIfImportant) :
    bound ≤ proc.extensionPriority minExtensionPriority := by
  refine proc.le_capIfImportant (le_min (proc.le_getPriorityByProcStatus hBound hImportant) ?_)
    hImportant
  simp only [ReclaimPriorityManager.deltaPriority]
  omega

end ProcessPriorityInfo
end MemMgr
