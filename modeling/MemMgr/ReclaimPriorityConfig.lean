import Std.Data.ExtTreeMap
import Std.Data.ExtTreeSet
import MemMgr.ReclaimPriorityConstants

/-! The part of the configuration that sets initial priorities. Only accepted
entries are ever stored, so the range check travels with the table. -/
namespace MemMgr

open Std

structure ReclaimPriorityConfig where
  killalbeSystemApps : ExtTreeSet String
  importantBgApps : ExtTreeMap String Int
  importantBgApps_range : ∀ (procName : String) minPriority,
    importantBgApps[procName]? = some minPriority →
      reclaimPriorityMin ≤ minPriority ∧ minPriority ≤ reclaimPriorityMax + 1

namespace ReclaimPriorityConfig

def empty : ReclaimPriorityConfig where
  killalbeSystemApps := ∅
  importantBgApps := ∅
  importantBgApps_range := by simp

/-- One `importantBgApp` element: an empty name or a bound outside the accepted
range is ignored, and `std::map::insert` keeps the first entry of a name. -/
def addImportantBgApp (config : ReclaimPriorityConfig) (procName : String) (minPriority : Int) :
    ReclaimPriorityConfig :=
  if h : procName.length = 0 ∨ minPriority < reclaimPriorityMin ∨
      minPriority > reclaimPriorityMax + 1 then config
  else
    { config with
      importantBgApps := config.importantBgApps.insertIfNew procName minPriority
      importantBgApps_range := by
        intro name bound hBound
        rw [ExtTreeMap.getElem?_insertIfNew] at hBound
        split_ifs at hBound with hNew
        · obtain rfl := Option.some.inj hBound
          obtain ⟨-, hLow, hHigh⟩ := by simpa only [not_or] using h
          exact ⟨Int.not_lt.mp hLow, Int.not_lt.mp hHigh⟩
        · exact config.importantBgApps_range name bound hBound }

def addKillableSysApp (config : ReclaimPriorityConfig) (value : String) : ReclaimPriorityConfig :=
  if value.length = 0 then config
  else { config with killalbeSystemApps := config.killalbeSystemApps.insert value }

end ReclaimPriorityConfig
end MemMgr
