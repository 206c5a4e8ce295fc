import MemMgr.Library.Execution
import MemMgr.Tracking
import MemMgr.PriorityForms

/-! What a request can do to the state, said once. Every request and every timer
is a chain of the effects below, so an invariant is proved for one effect at a
time and no proof unfolds a handler again. -/
namespace MemMgr

open Std Relation

/-- A recomputation may only move the priority, and not below the least one. -/
structure Repriced (before after : ProcessPriorityInfo) : Prop where
  same : ProcessPriorityInfo.SameIdentity before after
  least : -1000 ≤ before.priority → -1000 ≤ before.priorityIfImportant → -1000 ≤ after.priority

/-- The record of a process that was just created. -/
structure Created (uid : Int) (proc : ProcessPriorityInfo) : Prop where
  uid : proc.uid = uid
  notRender : proc.isRender = false
  least : -1000 ≤ proc.priority
  leastIfImportant : -1000 ≤ proc.priorityIfImportant

namespace ReclaimPriorityManager

/-- The end of a creation: the record enters its bundle, the bundle its account. -/
def admitProc (platform : Platform) (s : ReclaimPriorityManager) (bundle : BundleRef)
    (accountId : Int) (proc : ProcessPriorityInfo) : ReclaimPriorityManager :=
  let s := (s.modifyBundle bundle fun info => info.addProc proc).updateBundlePriority platform bundle
  s.modifyAccount accountId fun account => account.addBundleToOsAccount (s.bundles bundle).uid bundle

/-- A new bundle object in the set. -/
def newBundle (platform : Platform) (s : ReclaimPriorityManager) (info : BundlePriorityInfo) :
    ReclaimPriorityManager :=
  { s.modifyBundle s.nextRef (fun _ => info) with
    nextRef := s.nextRef + 1 }.addBundleInfoToSet platform s.nextRef

variable {platform : Platform} {s : ReclaimPriorityManager} {bundle other : BundleRef}
variable {proc : ProcessPriorityInfo} {info : BundlePriorityInfo}

/-- A process that is let in brings its own bundle among the tracked ones, and no other. -/
theorem tracked_of_admitProc {accountId : Int}
    (h : (s.admitProc platform bundle accountId proc).Tracked other) :
    other = bundle ∨ s.Tracked other := by
  obtain ⟨id, uid, hFind⟩ := h
  exact (findBundle_of_addBundle hFind).imp_right fun hFound => ⟨id, uid, hFound⟩

/-- Bundles that are tracked stay so when a process is let in. -/
theorem Tracked.admitProc {accountId : Int} (h : s.Tracked other) :
    (s.admitProc platform bundle accountId proc).Tracked other := by
  obtain ⟨id, uid, hFind⟩ := h
  exact ⟨id, uid, findBundle_addBundle_of_some hFind⟩

/-- A process that is let in is added to the record of its bundle. -/
theorem admitProc_bundles (accountId : Int) :
    (s.admitProc platform bundle accountId proc).bundles =
      Function.update s.bundles bundle ((s.bundles bundle).addProc proc).updatePriority := by
  simp [ReclaimPriorityManager.admitProc]

/-- A new bundle takes the next free place of the heap. -/
theorem newBundle_bundles :
    (s.newBundle platform info).bundles = Function.update s.bundles s.nextRef info := by
  simp [ReclaimPriorityManager.newBundle]

/-- A new object with its first process. -/
theorem enlist_bundles (accountId : Int) :
    ((s.newBundle platform info).admitProc platform s.nextRef accountId proc).bundles =
      Function.update s.bundles s.nextRef (info.addProc proc).updatePriority := by
  rw [admitProc_bundles, newBundle_bundles, Function.update_self, Function.update_idem]

def suspendProcs (info : BundlePriorityInfo) : BundlePriorityInfo :=
  { info with procs := info.procs.map fun _ proc => { proc with priority := reclaimPrioritySuspend } }

end ReclaimPriorityManager

open ReclaimPriorityManager

/-- One effect of a request. `dirty` tells the bundles whose files the request
still has to write. A request that removes a process writes none. -/
inductive Effect (platform : Platform) (dirty : BundleRef → Prop) :
    ReclaimPriorityManager → ReclaimPriorityManager → Prop where
  | notes {s} (handler : List DelayedTask) (apps : ExtTreeSet String) :
      Effect platform dirty s (s.noting handler apps)
  | edit {s bundle pid proc proc'} (hTracks : s.TracksProc bundle pid proc)
      (hSame : ProcessPriorityInfo.SameIdentity proc proc') (hPriority : proc'.priority = proc.priority) :
      Effect platform dirty s (s.setProc bundle proc')
  | reprice {s bundle pid proc proc'} (hDirty : dirty bundle)
      (hTracks : s.TracksProc bundle pid proc) (hRepriced : Repriced proc proc') :
      Effect platform dirty s ((s.setProc bundle proc').updateBundlePriority platform bundle)
  | link {s bundle pid proc proc'} (hTracks : s.TracksProc bundle pid proc)
      (hRepriced : Repriced proc proc') :
      Effect platform dirty s
        (((s.setProc bundle proc').updateBundlePriority platform bundle).writeOomScoreAdj
          proc'.pid proc'.priority)
  | suspend {s bundle} (hDirty : dirty bundle) (hTracked : s.Tracked bundle) :
      Effect platform dirty s ((s.modifyBundle bundle suspendProcs).updateBundlePriority platform bundle)
  | openAccount {s accountId} (hNone : s.osAccountsInfoMap[accountId]? = none) :
      Effect platform dirty s (s.addOsAccountInfo (.create accountId))
  | join {s bundle uid proc} (hDirty : dirty bundle)
      (hFind : s.findBundle uid (getOsAccountIdByUid uid) = some bundle) (hCreated : Created uid proc) :
      Effect platform dirty s (s.admitProc platform bundle (getOsAccountIdByUid uid) proc)
  | enlist {s name uid now proc} (hDirty : dirty s.nextRef)
      (hAccount : s.osAccountsInfoMap[getOsAccountIdByUid uid]? ≠ none)
      (hNone : s.findBundle uid (getOsAccountIdByUid uid) = none) (hCreated : Created uid proc) :
      Effect platform dirty s
        ((s.newBundle platform (.create name uid reclaimPriorityBackground now)).admitProc platform
          s.nextRef (getOsAccountIdByUid uid) proc)
  | discharge {s bundle pid proc} (hClean : ∀ other, ¬ dirty other)
      (hTracks : s.TracksProc bundle pid proc)
      (hLeft : ((s.bundles bundle).removeProcByPid proc.pid).getProcsCount ≠ 0)
      (hAbove : (s.bundles bundle).priority < proc.priority) :
      Effect platform dirty s (s.modifyBundle bundle fun info => info.removeProcByPid proc.pid)
  | dischargeLeast {s bundle pid proc} (hClean : ∀ other, ¬ dirty other)
      (hTracks : s.TracksProc bundle pid proc)
      (hLeft : ((s.bundles bundle).removeProcByPid proc.pid).getProcsCount ≠ 0) :
      Effect platform dirty s
        ((s.modifyBundle bundle fun info => info.removeProcByPid proc.pid).updateBundlePriority
          platform bundle)
  | retire {s bundle uid pid proc} (hClean : ∀ other, ¬ dirty other)
      (hFind : s.findBundle uid (getOsAccountIdByUid uid) = some bundle)
      (hProc : (s.bundles bundle).procs[(pid : Int)]? = some proc)
      (hLast : ((s.bundles bundle).removeProcByPid proc.pid).getProcsCount = 0) :
      Effect platform dirty s
        (((s.modifyBundle bundle fun info => info.removeProcByPid proc.pid).modifyAccount
          (getOsAccountIdByUid uid) fun account =>
            account.removeBundleById (s.bundles bundle).uid).deleteBundleInfoFromSet platform bundle)
  | closeAccount {s} {accountId : Int} {account : AccountBundleInfo}
      (hAccount : s.osAccountsInfoMap[accountId]? = some account)
      (hEmpty : account.getBundlesCount = 0) :
      Effect platform dirty s (s.removeOsAccountById account.id)
  | setState {s bundle} (hTracked : s.Tracked bundle) (state : BundleState) :
      Effect platform dirty s (s.modifyBundle bundle fun info => { info with state := state })
  | reset {s} (hClean : ∀ other, ¬ dirty other) : Effect platform dirty s s.reset

/-- Any number of effects. -/
abbrev Chain (platform : Platform) (dirty : BundleRef → Prop) :
    ReclaimPriorityManager → ReclaimPriorityManager → Prop :=
  ReflTransGen (Effect platform dirty)

/-- No bundle waits for its files to be written. -/
def noBundle : BundleRef → Prop := fun _ => False

/-- A whole request: effects that leave at most one bundle to be written, and the
writing of that bundle. A request about a render process only writes one file. -/
inductive Settled (platform : Platform) (rendered : Option Int) :
    ReclaimPriorityManager → ReclaimPriorityManager → Prop where
  | clean {s s'} (chain : Chain platform noBundle s s') : Settled platform rendered s s'
  | written {s s'} (bundle : BundleRef) (hTracked : s'.Tracked bundle)
      (chain : Chain platform (· = bundle) s s') (handler : List DelayedTask) :
      Settled platform rendered s { s'.writeBundleOomScoreAdj bundle with handler := handler }
  | render {s} (pid : Int) (hRendered : pid ∈ rendered) (priority : Int) :
      Settled platform rendered s (s.writeOomScoreAdj pid priority)

end MemMgr
