import Std.Data.ExtTreeMap
import MemMgr.Library.Lookup
import MemMgr.ReclaimPriorityConstants

/-! One process as the manager records it. Handlers act on the record alone, so
they are functions from records to records. -/
namespace MemMgr

open Std

def extensionStatusBindUnkown : Int := 0
def extensionStatusFgBind : Int := 1
def extensionStatusNoBind : Int := 3

structure ProcessPriorityInfo where
  uid : Int
  pid : Int
  priority : Int
  /-- Only meaningful for an important process, and never changed after creation. -/
  priorityIfImportant : Int
  isImportant : Bool
  isVisible : Bool
  isRender : Bool
  isFreground : Bool
  isBackgroundRunning : Bool
  isSuspendDelay : Bool
  isEventStart : Bool
  isDistDeviceConnected : Bool
  isExtension : Bool
  hasUI : Bool
  extensionBindStatus : Int
  procsBindToMe : ExtTreeMap Int Int
  procsBindFromMe : ExtTreeMap Int Int
  isAbilityStarting : Bool
  startingAbilityTime : Int
  deriving DecidableEq

namespace ProcessPriorityInfo

/-- The constructor: the initial priority is also the bound of an important process. -/
def create (pid bundleUid priority : Int) (isImportant : Bool) : ProcessPriorityInfo where
  uid := bundleUid
  pid := pid
  priority := priority
  priorityIfImportant := priority
  isImportant := isImportant
  isVisible := false
  isRender := false
  isFreground := priority = reclaimPriorityForeground
  isBackgroundRunning := false
  isSuspendDelay := false
  isEventStart := false
  isDistDeviceConnected := false
  isExtension := false
  hasUI := false
  extensionBindStatus := extensionStatusBindUnkown
  procsBindToMe := ∅
  procsBindFromMe := ∅
  isAbilityStarting := false
  startingAbilityTime := invalidTime

variable (proc : ProcessPriorityInfo)

def setPriority (targetPriority : Int) : ProcessPriorityInfo :=
  { proc with priority := targetPriority }

def extensionConnectorsCount : Nat := proc.procsBindToMe.size

def procBindToMe (pid uid : Int) : ProcessPriorityInfo :=
  { proc with procsBindToMe := proc.procsBindToMe.insert pid uid }

def procUnBindToMe (pid : Int) : ProcessPriorityInfo :=
  { proc with procsBindToMe := proc.procsBindToMe.erase pid }

def procBindFromMe (pid uid : Int) : ProcessPriorityInfo :=
  { proc with procsBindFromMe := proc.procsBindFromMe.insert pid uid }

def procUnBindFromMe (pid : Int) : ProcessPriorityInfo :=
  { proc with procsBindFromMe := proc.procsBindFromMe.erase pid }

/-- A change that may touch flags, bindings and ability start, but none of what
the priority of the bundle is computed from or bounded by. -/
structure SameIdentity (before after : ProcessPriorityInfo) : Prop where
  uid : after.uid = before.uid
  pid : after.pid = before.pid
  isRender : after.isRender = before.isRender
  isImportant : after.isImportant = before.isImportant
  priorityIfImportant : after.priorityIfImportant = before.priorityIfImportant

theorem SameIdentity.refl (proc : ProcessPriorityInfo) : SameIdentity proc proc :=
  ⟨rfl, rfl, rfl, rfl, rfl⟩

theorem SameIdentity.trans {first second third : ProcessPriorityInfo}
    (left : SameIdentity first second) (right : SameIdentity second third) :
    SameIdentity first third :=
  ⟨right.uid.trans left.uid, right.pid.trans left.pid, right.isRender.trans left.isRender,
    right.isImportant.trans left.isImportant,
    right.priorityIfImportant.trans left.priorityIfImportant⟩

end ProcessPriorityInfo
end MemMgr
