import Mathlib.Tactic.Common
import Mathlib.Algebra.Group.Int.Defs
import Mathlib.Algebra.Group.Nat.Defs

/-! The priority bands of the reclaim priority list, the reasons of an update
request, and the faults a manager operation can end with. Larger priorities are
reclaimed and killed first. -/
namespace MemMgr

/-- System app. -/
@[simp] def reclaimPrioritySystem : Int := -1000
/-- Killable system app. -/
@[simp] def reclaimPriorityKillableSystem : Int := -800
@[simp] def reclaimPriorityForeground : Int := 0
@[simp] def reclaimPriorityVisible : Int := 50
/-- Perceived suspend delay case. -/
@[simp] def reclaimPriorityBgSuspendDelay : Int := 100
/-- Perceived background process. -/
@[simp] def reclaimPriorityBgPerceived : Int := 200
/-- Background and connected by a distributed device. -/
@[simp] def reclaimPriorityBgDistDevice : Int := 260
@[simp] def reclaimPriorityBackground : Int := 400
@[simp] def reclaimPrioritySuspend : Int := 800
@[simp] def reclaimPriorityUnknown : Int := 1000

@[simp] def reclaimPriorityMin : Int := -1000
@[simp] def reclaimPriorityMax : Int := 1000

@[simp] def userIdShift : Int := 200000

/-- C++ division truncates toward zero. -/
def getOsAccountIdByUid (bundleUid : Int) : Int := bundleUid.tdiv userIdShift

@[simp] def ignorePid : Int := -1
@[simp] def invalidTime : Int := -1

inductive AppStateUpdateReason where
  | createProcess
  | processReady
  | foreground
  | background
  | suspendDelayStart
  | suspendDelayEnd
  | backgroundRunningStart
  | backgroundRunningEnd
  | eventStart
  | eventEnd
  | applicationSuspend
  | processTerminated
  | osAccountChanged
  | distDeviceConnected
  | distDeviceDisconnected
  | bindExtension
  | unbindExtension
  | visible
  | unVisible
  | renderCreateProcess
  | abilityStart
  deriving DecidableEq, Repr

inductive BundleState where
  | stateDefault
  | stateWaitingForKill
  deriving DecidableEq, Repr

/-- How an operation can fail to return. `outOfRange` is the exception of
`procs_.at`, which nothing catches. `outOfFuel` stands for a loop that has not
finished within the iterations it was given. -/
inductive Fault where
  | outOfRange
  | outOfFuel
  deriving DecidableEq, Repr

end MemMgr
