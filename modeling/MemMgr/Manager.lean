import Mathlib.Logic.Function.Basic
import MemMgr.Library.SearchTree
import MemMgr.BundlePriorityInfo
import MemMgr.ReclaimPriorityConfig

/-! The state of the manager. Bundle objects are shared: the account map and the
ordered set both hold references to them, and a change through one is seen
through the other. The contents of `oom_score_adj` files belong to the kernel,
but only the manager writes them. -/
namespace MemMgr

open Std

/-- What a `shared_ptr<BundlePriorityInfo>` points to. -/
abbrev BundleRef := Nat

structure AccountBundleInfo where
  id : Int
  bundleIdInfoMapping : ExtTreeMap Int BundleRef
  deriving DecidableEq

namespace AccountBundleInfo

variable (account : AccountBundleInfo)

def create (accountId : Int) : AccountBundleInfo := ⟨accountId, ∅⟩

def findBundleById (bundleUid : Int) : Option BundleRef := account.bundleIdInfoMapping[bundleUid]?

def addBundleToOsAccount (bundleUid : Int) (bundle : BundleRef) : AccountBundleInfo :=
  { account with bundleIdInfoMapping := account.bundleIdInfoMapping.insertIfNew bundleUid bundle }

def removeBundleById (bundleUid : Int) : AccountBundleInfo :=
  { account with bundleIdInfoMapping := account.bundleIdInfoMapping.erase bundleUid }

def getBundlesCount : Nat := account.bundleIdInfoMapping.size

end AccountBundleInfo

/-- A task the event handler runs later. Only ability start checks are posted
under a name, which is what `RemoveTask` finds them by. -/
inductive DelayedTask where
  | checkAbilityStartCompleted (taskName : String) (pid bundleUid accountId : Int)
  | checkCreateProcPriorityDelay (pid uid : Int)
  deriving DecidableEq

def DelayedTask.taskName : DelayedTask → String
  | .checkAbilityStartCompleted taskName _ _ _ => taskName
  | .checkCreateProcPriorityDelay _ _ => ""

structure ReclaimPriorityManager where
  initialized : Bool
  osAccountsInfoMap : ExtTreeMap Int AccountBundleInfo
  totalBundlePrioSet : BinaryTree BundleRef
  handler : List DelayedTask
  allKillableSystemApps : ExtTreeSet String
  /-- The bundle objects, and the first reference that is still unused. -/
  bundles : BundleRef → BundlePriorityInfo
  nextRef : BundleRef
  /-- The last value written to `/proc/<pid>/oom_score_adj`. -/
  oomScoreAdj : Int → Option Int

/-- What does not change while the service runs: the shapes the set's tree takes
after an update, and the configuration read at start. -/
structure Platform where
  rebalancing : SearchTree.Rebalancing BundleRef
  config : ReclaimPriorityConfig

/-- What the services answer during one operation: whether the bundle manager
knows an application and keeps it alive, the clock, and whether allocations of
the two kinds of objects succeed. -/
structure Services where
  getApplicationInfo : Option (String → Int → Option Bool)
  systemCurTime : Int
  makeAccount : Bool
  makeBundle : Bool

namespace ReclaimPriorityManager

/-- The manager right after `Init`. -/
def init (platform : Platform) : ReclaimPriorityManager where
  initialized := true
  osAccountsInfoMap := ∅
  totalBundlePrioSet := .nil
  handler := []
  allKillableSystemApps := platform.config.killalbeSystemApps
  bundles := fun _ => .create "" 0 0 0
  nextRef := 0
  oomScoreAdj := fun _ => none

variable (platform : Platform) (s : ReclaimPriorityManager)

def modifyBundle (bundle : BundleRef) (change : BundlePriorityInfo → BundlePriorityInfo) :
    ReclaimPriorityManager :=
  { s with bundles := Function.update s.bundles bundle (change (s.bundles bundle)) }

/-- Write a process record back through its reference. -/
def setProc (bundle : BundleRef) (proc : ProcessPriorityInfo) : ReclaimPriorityManager :=
  s.modifyBundle bundle fun info => info.setProc proc

/-- `BundleInfoPtrCmp`, which reads the objects as they are at the time of the call. -/
def bundleInfoPtrCmp (p1 p2 : BundleRef) : Bool :=
  if (s.bundles p1).uid = (s.bundles p2).uid then false
  else if (s.bundles p1).priority ≠ (s.bundles p2).priority then
    (s.bundles p1).priority < (s.bundles p2).priority
  else (s.bundles p1).uid < (s.bundles p2).uid

/-- The bundles of the set in iteration order. -/
def prioList : List BundleRef := SearchTree.inorder s.totalBundlePrioSet

def addBundleInfoToSet (bundle : BundleRef) : ReclaimPriorityManager :=
  { s with
    totalBundlePrioSet := platform.rebalancing.balance
      (SearchTree.insert s.bundleInfoPtrCmp bundle s.totalBundlePrioSet) }

def deleteBundleInfoFromSet (bundle : BundleRef) : ReclaimPriorityManager :=
  { s with
    totalBundlePrioSet := platform.rebalancing.balance
      (SearchTree.erase s.bundleInfoPtrCmp bundle s.totalBundlePrioSet) }

def updateBundlePriority (bundle : BundleRef) : ReclaimPriorityManager :=
  ((s.deleteBundleInfoFromSet platform bundle).modifyBundle bundle
    BundlePriorityInfo.updatePriority).addBundleInfoToSet platform bundle

def findOsAccountById (accountId : Int) : Option AccountBundleInfo := s.osAccountsInfoMap[accountId]?

def addOsAccountInfo (account : AccountBundleInfo) : ReclaimPriorityManager :=
  { s with osAccountsInfoMap := s.osAccountsInfoMap.insertIfNew account.id account }

def removeOsAccountById (accountId : Int) : ReclaimPriorityManager :=
  { s with osAccountsInfoMap := s.osAccountsInfoMap.erase accountId }

/-- Change an account object in place; the map holds the only reference to it. -/
def modifyAccount (accountId : Int) (change : AccountBundleInfo → AccountBundleInfo) :
    ReclaimPriorityManager :=
  { s with osAccountsInfoMap := s.osAccountsInfoMap.modify accountId change }

/-- The account's bundle object, or a null pointer. -/
def findBundle (bundleUid accountId : Int) : Option BundleRef :=
  (s.findOsAccountById accountId).bind fun account => account.findBundleById bundleUid

/-- Existence as the handlers check it: `ignorePid` is never looked up in the bundle. -/
def isProcExist (pid bundleUid accountId : Int) : Bool :=
  match s.findBundle bundleUid accountId with
  | none => false
  | some bundle => if pid = ignorePid then true else (s.bundles bundle).hasProc pid

/-- The guarded lookup every handler starts with: nothing if `isProcExist` says
so, otherwise the process `procs_.at` finds in the bundle, or its exception. -/
def lookupProc (pid bundleUid accountId : Int) :
    Except Fault (Option (BundleRef × ProcessPriorityInfo)) :=
  if s.isProcExist pid bundleUid accountId then
    match s.findBundle bundleUid accountId with
    | none => .ok none
    | some bundle => do
        let proc ← (s.bundles bundle).findProcByPid pid
        return some (bundle, proc)
  else .ok none

/-- `OomScoreAdjUtils`: one file of one process. -/
def writeOomScoreAdj (pid priority : Int) : ReclaimPriorityManager :=
  { s with oomScoreAdj := Function.update s.oomScoreAdj pid (some priority) }

/-- `OomScoreAdjUtils`: the files of all processes of a bundle. -/
def writeBundleOomScoreAdj (bundle : BundleRef) : ReclaimPriorityManager :=
  (s.bundles bundle).procs.toList.foldl
    (fun s entry => s.writeOomScoreAdj entry.2.pid entry.2.priority) s

/-- In the default build nothing else learns of the change. -/
def applyReclaimPriority (bundle : BundleRef) : ReclaimPriorityManager × Bool :=
  (s.writeBundleOomScoreAdj bundle, true)

/-- Look the name up in the known killable apps, then ask the bundle manager, and
remember an app it keeps alive. -/
def isKillableSystemApp (services : Services) (bundle : BundleRef) :
    ReclaimPriorityManager × Bool :=
  let name := (s.bundles bundle).name
  if name ∈ s.allKillableSystemApps then (s, true)
  else
    match services.getApplicationInfo with
    | none => (s, false)
    | some getApplicationInfo =>
        match getApplicationInfo name (getOsAccountIdByUid (s.bundles bundle).uid) with
        | none => (s, false)
        | some false => (s, false)
        | some true => ({ s with allKillableSystemApps := s.allKillableSystemApps.insert name }, true)

end ReclaimPriorityManager
end MemMgr
