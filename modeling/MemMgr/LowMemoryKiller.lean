import MemMgr.Manager
import MemMgr.UpdateRequest

/-! The low memory killer: which priorities may be killed at a buffer reading,
the choice of a bundle, and the rounds of one pressure event. -/
namespace MemMgr

open Std

@[simp] def maxBufferKB : Nat := 0x7fffffff
def maxKillCntPerEvent : Nat := 3
def notToKillDuring : Int := 3

/-- The table used when none is configured: buffer in KB and least priority to kill. -/
def minPrioTable : List (Nat × Int) :=
  [(100 * 1024, 0), (200 * 1024, 100), (300 * 1024, 200), (400 * 1024, 300), (500 * 1024, 400)]

/-- A C++ `int` read as `unsigned int`. -/
def toUnsigned (value : Int) : Nat := (value % 2 ^ 32).toNat

structure KillMemoryPriority where
  minBufKB : Nat
  minPrio : Int
  targetBufKB : Nat
  killLevel : Nat
  deriving DecidableEq

/-- The first level whose memory is above the buffer, counting the levels passed. -/
def firstLevelAbove (currBufferKB : Nat) : List (Nat × Int) → Nat → Nat × Int × Nat
  | [], killLevel => (0, reclaimPriorityUnknown + 1, killLevel)
  | (memory, prio) :: levels, killLevel =>
      if currBufferKB < memory then (memory, prio, killLevel + 1)
      else firstLevelAbove currBufferKB levels (killLevel + 1)

def queryKillMemoryPriorityPair (levelMap : ExtTreeMap Nat Int) (currBufferKB : Nat) :
    KillMemoryPriority :=
  let levels := if levelMap.isEmpty then minPrioTable else levelMap.toList
  let (minBufKB, minPrio, killLevel) := firstLevelAbove currBufferKB levels 0
  { minBufKB := minBufKB
    minPrio := minPrio
    targetBufKB := (levels.getLast?.map Prod.fst).getD 0
    killLevel := killLevel }

/-- The copy constructor, which enters every record again under its own pid. -/
def BundlePriorityInfo.copy (copyBundle : BundlePriorityInfo) : BundlePriorityInfo :=
  { copyBundle with
    procs := copyBundle.procs.foldl (fun procs _ proc => procs.insertIfNew proc.pid proc) ∅ }

/-- What is answered during one pressure event: buffer readings and clock by the
number of the round, the result of a kill by the number of kills before it, and
whether memory suffices to copy the bundle met at a position of a round. -/
structure PressureEvent where
  getCurrentBuffer : Nat → Int
  getSystemCurTime : Nat → Int
  killOneProcessByPid : Nat → Int → Int
  copyBundle : Nat → Nat → Bool

/-- The loop over the set from its greatest element. The copy, and the processes
killed at once because a copy failed. -/
def ReclaimPriorityManager.killableFrom (s : ReclaimPriorityManager) (copySucceeds : Nat → Bool)
    (minPrio : Int) : List BundleRef → Nat → Option BundlePriorityInfo × List Int
  | [], _ => (none, [])
  | bundle :: bundles, position =>
      let info := s.bundles bundle
      if info.priority < minPrio then (none, [])
      else if info.state = .stateWaitingForKill then
        s.killableFrom copySucceeds minPrio bundles (position + 1)
      else if copySucceeds position then (some info.copy, [])
      else
        let (found, killed) := s.killableFrom copySucceeds minPrio bundles (position + 1)
        (found, info.procs.toList.map (fun entry => entry.2.pid) ++ killed)

/-- `GetOneKillableBundle`, called with an empty result set. -/
def ReclaimPriorityManager.getOneKillableBundle (s : ReclaimPriorityManager)
    (copySucceeds : Nat → Bool) (minPrio : Int) : Option BundlePriorityInfo × List Int :=
  s.killableFrom copySucceeds minPrio s.prioList.reverse 0

/-- The killer together with the manager, and the pids passed to
`KillOneProcessByPid` so far, the last one first. -/
structure KillerState where
  manager : ReclaimPriorityManager
  killLevel : Nat
  killed : List Int

namespace LowMemoryKiller

variable (event : PressureEvent)

/-- Signal the processes in turn and add up what they free. The sum is one of integers, where the
source adds up ints: what a bundle can free is taken to be less than these can hold. -/
def killAll : List Int → KillerState → KillerState × Int
  | [], killer => (killer, 0)
  | pid :: pids, killer =>
      let freed := event.killOneProcessByPid killer.killed.length pid
      let (killer, freedBuf) := killAll pids { killer with killed := pid :: killer.killed }
      (killer, freed + freedBuf)

/-- Killing only notes the pids that were killed. -/
theorem killAll_eq (pids : List Int) (killer : KillerState) :
    (killAll event pids killer).1 = { killer with killed := pids.reverse ++ killer.killed } := by
  induction pids generalizing killer with
  | nil => rfl
  | cons pid pids ih =>
      rw [killAll, List.reverse_cons, List.append_assoc]
      exact ih _

def killOneBundleByPrio (round : Nat) (minPrio : Int) (killer : KillerState) : KillerState × Int :=
  let (found, quick) := killer.manager.getOneKillableBundle (event.copyBundle round) minPrio
  let (killer, _) := killAll event quick killer
  match found with
  | none => (killer, 0)
  | some bundle =>
      if bundle.priority < minPrio then (killer, 0)
      else if event.getSystemCurTime round - bundle.createTime < notToKillDuring then (killer, 0)
      else if bundle.state = .stateWaitingForKill then (killer, 0)
      else
        let (killer, freedBuf) := killAll event bundle.procs.keys killer
        ({ killer with manager :=
            killer.manager.setBundleState bundle.accountId bundle.uid .stateWaitingForKill }, freedBuf)

/-- The rounds of an event; `left` of them are allowed. -/
def killRounds (minPrio : Int) (targetBuf targetKillKb : Nat) :
    Nat → Nat → KillerState → KillerState
  | 0, _, killer => killer
  | left + 1, currKillKb, killer =>
      let round := maxKillCntPerEvent - (left + 1)
      let (killer, freedBuf) := killOneBundleByPrio event round minPrio killer
      if freedBuf ≤ 0 then killer
      else
        let currKillKb := (currKillKb + toUnsigned freedBuf) % 2 ^ 32
        let availBuf := event.getCurrentBuffer (round + 1)
        if availBuf < 0 ∨ availBuf ≥ maxBufferKB then killer
        else if toUnsigned availBuf ≥ targetBuf then { killer with killLevel := 0 }
        else if currKillKb < targetKillKb then
          killRounds minPrio targetBuf targetKillKb left currKillKb killer
        else killer

def psiHandlerInner (levelMap : ExtTreeMap Nat Int) (killer : KillerState) : KillerState :=
  let curBuf := toUnsigned (event.getCurrentBuffer 0)
  if curBuf = maxBufferKB then killer
  else
    let memPrio := queryKillMemoryPriorityPair levelMap curBuf
    let killer := { killer with killLevel := memPrio.killLevel }
    let targetKillKb :=
      if curBuf > 0 ∧ memPrio.targetBufKB > curBuf then memPrio.targetBufKB - curBuf else 0
    if memPrio.minPrio < reclaimPriorityMin ∨ memPrio.minPrio > reclaimPriorityMax then killer
    else killRounds event memPrio.minPrio memPrio.targetBufKB targetKillKb maxKillCntPerEvent 0 killer

end LowMemoryKiller
end MemMgr
