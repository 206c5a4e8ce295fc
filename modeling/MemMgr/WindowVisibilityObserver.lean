import Std.Data.ExtTreeSet
import Mathlib.Data.Finset.Basic
import MemMgr.Library.Transducer
import MemMgr.UpdateRequest

/-! The observer of window visibility. Window updates come in batches and are turned
into requests of their processes, while processes die and the map is checked in between. -/
namespace MemMgr

open Std (ExtTreeMap ExtTreeSet)
open ReclaimPriorityManager

/-- `SingleRequest`. Nothing reads the caller of such a request. -/
def singleRequest (target : ReqProc) (reason : AppStateUpdateReason) : UpdateRequest :=
  ⟨⟨0, 0, "", ""⟩, target, reason⟩

structure MemMgrWindowInfo where
  windowId : Nat
  pid : Int
  uid : Int
  isVisible : Bool
  deriving DecidableEq

structure ProcessWindowVisibilityInfo where
  visible : Bool
  uid : Int
  visibleWindowIds : ExtTreeSet Nat

/-- The change of a process that is not reported yet. -/
def ProcessWindowVisibilityInfo.pending (info : ProcessWindowVisibilityInfo) :
    Option AppStateUpdateReason :=
  if info.visibleWindowIds.size > 0 ∧ info.visible = false then some .visible
  else if info.visibleWindowIds.size = 0 ∧ info.visible = true then some .unVisible
  else none

abbrev WindowVisibleMap := ExtTreeMap Int ProcessWindowVisibilityInfo

namespace WindowVisibilityObserver

def timerPeroidMs : Nat := 5 * 60 * 1000

inductive CheckTrigger where
  | triggerByTime
  | triggerBySize
  deriving DecidableEq

/-- What leaves the observer: a request to the manager, or a check for its own handler. -/
inductive Output where
  | updateReclaimPriority (request : UpdateRequest)
  | postCheckMapSize (trigger : CheckTrigger) (delayMs : Nat)
  deriving DecidableEq

/-- What takes the lock. The second argument of a check is the answer of `GetAllProcPids`. -/
inductive Op where
  | updateWindowVisibilityPriorityInner (memMgrWindowInfo : List (Option MemMgrWindowInfo))
  | onProcessDied (pid : Int)
  | checkMapSize (trigger : CheckTrigger) (alivePids : Option (List Nat))

/-- One window of a batch. -/
def updateWindow (windowVisibleMap : WindowVisibleMap) (info : MemMgrWindowInfo) :
    WindowVisibleMap :=
  match windowVisibleMap[info.pid]? with
  | some process =>
      let visibleWindowIds :=
        if info.isVisible then process.visibleWindowIds.insert info.windowId
        else process.visibleWindowIds.erase info.windowId
      windowVisibleMap.insert info.pid { process with visibleWindowIds }
  | none =>
      if info.isVisible then
        windowVisibleMap.insert info.pid ⟨false, info.uid, ExtTreeSet.ofList [info.windowId]⟩
      else windowVisibleMap

/-- The loop over the map, and the entries without a window erased after it. -/
def updatePriorityForVisible (windowVisibleMap : WindowVisibleMap) :
    WindowVisibleMap × List Output :=
  (windowVisibleMap.filterMap fun _ info =>
      if info.visibleWindowIds.size = 0 then none else some { info with visible := true },
    windowVisibleMap.toList.filterMap fun (pid, info) =>
      info.pending.map fun reason =>
        .updateReclaimPriority (singleRequest ⟨pid, info.uid, "", ""⟩ reason))

def updateWindowVisibilityPriorityInner (memMgrWindowInfo : List (Option MemMgrWindowInfo))
    (windowVisibleMap : WindowVisibleMap) : WindowVisibleMap × List Output :=
  -- A null pointer is skipped.
  let windowVisibleMap := memMgrWindowInfo.reduceOption.foldl updateWindow windowVisibleMap
  let (windowVisibleMap, requests) := updatePriorityForVisible windowVisibleMap
  -- 2048: max process num
  if windowVisibleMap.size ≥ 2048 then
    (windowVisibleMap, requests ++ [.postCheckMapSize .triggerBySize 0])
  else (windowVisibleMap, requests)

def onProcessDied (pid : Int) (windowVisibleMap : WindowVisibleMap) : WindowVisibleMap :=
  windowVisibleMap.erase pid

def checkMapSize (trigger : CheckTrigger) (alivePids : Option (List Nat))
    (windowVisibleMap : WindowVisibleMap) : WindowVisibleMap × List Output :=
  match alivePids with
  | none => (windowVisibleMap, [])
  | some alivePids =>
      (windowVisibleMap.filter fun pid _ => isAlive alivePids pid,
        match trigger with
        | .triggerByTime => [.postCheckMapSize .triggerByTime timerPeroidMs]
        | .triggerBySize => [])

def step (windowVisibleMap : WindowVisibleMap) : Op → WindowVisibleMap × List Output
  | .updateWindowVisibilityPriorityInner infos =>
      updateWindowVisibilityPriorityInner infos windowVisibleMap
  | .onProcessDied pid => (onProcessDied pid windowVisibleMap, [])
  | .checkMapSize trigger alivePids => checkMapSize trigger alivePids windowVisibleMap

abbrev run (windowVisibleMap : WindowVisibleMap) (ops : List Op) : WindowVisibleMap :=
  Transducer.finalState step windowVisibleMap ops

/-- The requests sent for a process, in order. -/
def reasonsOf (pid : Int) (outputs : List Output) : List AppStateUpdateReason :=
  outputs.filterMap fun
    | .updateReclaimPriority request => if request.target.pid = pid then some request.reason else none
    | .postCheckMapSize _ _ => none

/-- The window updates of a history. -/
def updatesOf (ops : List Op) : List MemMgrWindowInfo :=
  ops.flatMap fun
    | .updateWindowVisibilityPriorityInner infos => infos.reduceOption
    | _ => []

/-- The windows a process is left with by one update. -/
def showWindow (pid : Int) (shown : Finset Nat) (info : MemMgrWindowInfo) : Finset Nat :=
  if info.pid = pid then
    if info.isVisible then insert info.windowId shown else shown.erase info.windowId
  else shown

/-- The visible windows of a process after its updates, from none. -/
def replay (pid : Int) (updates : List MemMgrWindowInfo) : Finset Nat :=
  updates.foldl (showWindow pid) ∅

/-- The requests of a process whose visibility was reported and is now this. -/
def edge : Bool → Bool → List AppStateUpdateReason
  | false, true => [.visible]
  | true, false => [.unVisible]
  | _, _ => []

theorem edge_self (shown : Bool) : edge shown shown = [] := by
  cases shown <;> rfl

/-- VISIBLE first, then each request the opposite of the one before. -/
def Alternates (reasons : List AppStateUpdateReason) : Prop :=
  ∀ (index : Nat) reason, reasons[index]? = some reason →
    reason = if index % 2 = 0 then .visible else .unVisible

/-- A death of the process, or a check that does not find it alive. -/
def Op.Removes (pid : Int) : Op → Prop
  | .onProcessDied died => died = pid
  | .checkMapSize _ (some alivePids) => isAlive alivePids pid = false
  | _ => False

/-- The operation takes no entry of the process away. -/
def KeepsEntry (pid : Int) (windowVisibleMap : WindowVisibleMap) (op : Op) : Prop :=
  op.Removes pid → windowVisibleMap[pid]? = none

/-- Every process in the map is reported visible, for some window. -/
def Settled (windowVisibleMap : WindowVisibleMap) : Prop :=
  ∀ (pid : Int) info, windowVisibleMap[pid]? = some info →
    info.visible = true ∧ info.visibleWindowIds ≠ ∅

/-- The map holds these windows of the process. -/
def Shows (windowVisibleMap : WindowVisibleMap) (pid : Int) (shown : Finset Nat) : Prop :=
  ∀ window, window ∈ shown ↔
    ∃ info, windowVisibleMap[pid]? = some info ∧ window ∈ info.visibleWindowIds

/-- The process was last reported visible. -/
def reported (windowVisibleMap : WindowVisibleMap) (pid : Int) : Bool :=
  windowVisibleMap[pid]?.any (·.visible)

variable {windowVisibleMap : WindowVisibleMap} {pid : Int} {shown : Finset Nat}

theorem updateWindow_of_ne {info : MemMgrWindowInfo} (hPid : info.pid ≠ pid) :
    (updateWindow windowVisibleMap info)[pid]? = windowVisibleMap[pid]? := by
  rw [updateWindow]
  split
  · simp [ExtTreeMap.getElem?_insert, hPid]
  · split_ifs <;> simp [ExtTreeMap.getElem?_insert, hPid]

theorem shows_updateWindow (h : Shows windowVisibleMap pid shown) (info : MemMgrWindowInfo) :
    Shows (updateWindow windowVisibleMap info) pid (showWindow pid shown info) := by
  intro window
  have hBefore := h window
  rw [showWindow]
  by_cases hPid : info.pid = pid
  · subst hPid
    rw [if_pos rfl, updateWindow]
    cases hEntry : windowVisibleMap[info.pid]? with
    | none =>
        have hNone : window ∉ shown := by simpa [hEntry] using hBefore
        cases info.isVisible <;> simp [hEntry, hNone, @eq_comm Nat window]
    | some process =>
        have hIff : window ∈ shown ↔ window ∈ process.visibleWindowIds := by
          simpa [hEntry] using hBefore
        cases info.isVisible <;> simp [hIff, @eq_comm Nat window]
  · rw [if_neg hPid, hBefore, updateWindow_of_ne hPid]

theorem reported_updateWindow (info : MemMgrWindowInfo) :
    reported (updateWindow windowVisibleMap info) pid = reported windowVisibleMap pid := by
  rw [reported, reported]
  by_cases hPid : info.pid = pid
  · subst hPid
    rw [updateWindow]
    cases hEntry : windowVisibleMap[info.pid]? <;> cases info.isVisible <;> simp [hEntry]
  · rw [updateWindow_of_ne hPid]

theorem batch_shows (h : Shows windowVisibleMap pid shown) (infos : List MemMgrWindowInfo) :
    Shows (infos.foldl updateWindow windowVisibleMap) pid (infos.foldl (showWindow pid) shown) ∧
      reported (infos.foldl updateWindow windowVisibleMap) pid = reported windowVisibleMap pid := by
  induction infos generalizing windowVisibleMap shown with
  | nil => exact ⟨h, rfl⟩
  | cons info infos ih =>
      have hRest := ih (shows_updateWindow h info)
      rw [reported_updateWindow] at hRest
      exact hRest

theorem reasonsOf_append (first second : List Output) :
    reasonsOf pid (first ++ second) = reasonsOf pid first ++ reasonsOf pid second :=
  List.filterMap_append

/-- The requests of one loop over the map. -/
theorem reasonsOf_updatePriorityForVisible :
    reasonsOf pid (updatePriorityForVisible windowVisibleMap).2 =
      (windowVisibleMap[pid]?.bind ProcessWindowVisibilityInfo.pending).toList := by
  have hRequests : reasonsOf pid (updatePriorityForVisible windowVisibleMap).2 =
      (windowVisibleMap.toList.filter fun entry => entry.1 = pid).filterMap fun entry =>
        entry.2.pending := by
    rw [updatePriorityForVisible, reasonsOf, List.filterMap_filterMap, List.filterMap_filter]
    congr 1
    funext entry
    cases hPending : entry.2.pending <;> simp [hPending, singleRequest]
  rw [hRequests, ExtTreeMap.toList_filter_key]
  cases windowVisibleMap[pid]? with
  | none => rfl
  | some info => cases hPending : info.pending <;> simp [hPending]

theorem updatePriorityForVisible_lookup :
    (updatePriorityForVisible windowVisibleMap).1[pid]? = windowVisibleMap[pid]?.bind fun info =>
      if info.visibleWindowIds.size = 0 then none else some { info with visible := true } :=
  ExtTreeMap.getElem?_filterMap'

theorem size_eq_zero {windows : ExtTreeSet Nat} :
    windows.size = 0 ↔ ∀ window, window ∉ windows := by
  rw [← ExtTreeSet.eq_empty_iff_size_eq_zero, ExtTreeSet.eq_empty_iff_forall_not_mem]

theorem settled_updatePriorityForVisible : Settled (updatePriorityForVisible windowVisibleMap).1 := by
  intro pid info hInfo
  rw [updatePriorityForVisible_lookup, Option.bind_eq_some_iff] at hInfo
  obtain ⟨before, -, hInfo⟩ := hInfo
  split_ifs at hInfo with hSize
  cases hInfo
  exact ⟨rfl, fun hEmpty => hSize (ExtTreeSet.eq_empty_iff_size_eq_zero.mp hEmpty)⟩

theorem shows_updatePriorityForVisible (h : Shows windowVisibleMap pid shown) :
    Shows (updatePriorityForVisible windowVisibleMap).1 pid shown := by
  intro window
  rw [h window, updatePriorityForVisible_lookup]
  cases windowVisibleMap[pid]? with
  | none => simp
  | some info =>
      by_cases hSize : info.visibleWindowIds.size = 0
      · simp [hSize, size_eq_zero.mp hSize]
      · simp [hSize]

/-- A process that shows a window and was not reported is reported now, and so is one that
was reported and shows none. -/
theorem reasonsOf_changed (h : Shows windowVisibleMap pid shown) :
    reasonsOf pid (updatePriorityForVisible windowVisibleMap).2 =
      edge (reported windowVisibleMap pid) (decide shown.Nonempty) := by
  rw [reasonsOf_updatePriorityForVisible, reported]
  cases hEntry : windowVisibleMap[pid]? with
  | none =>
      have hNone : ¬ shown.Nonempty := by
        rintro ⟨window, hWindow⟩
        simpa [hEntry] using (h window).mp hWindow
      simp [hNone, edge]
  | some info =>
      have hShown : decide shown.Nonempty = decide (info.visibleWindowIds.size ≠ 0) := by
        rw [decide_eq_decide, ne_eq, size_eq_zero, not_forall_not]
        exact exists_congr fun window => by simpa [hEntry] using h window
      rw [Option.bind_some, ProcessWindowVisibilityInfo.pending, hShown]
      cases hVisible : info.visible <;> by_cases hSize : info.visibleWindowIds.size = 0 <;>
        simp [hSize, hVisible, edge, Nat.pos_iff_ne_zero]

/-- Entries of other processes may go. -/
theorem Settled.removed {after : WindowVisibleMap} (hSettled : Settled windowVisibleMap)
    (h : ∀ (other : Int) info, after[other]? = some info → windowVisibleMap[other]? = some info) :
    Settled after :=
  fun other info hInfo => hSettled other info (h other info hInfo)

/-- What is reported is what is shown. -/
theorem Settled.reported_iff (hSettled : Settled windowVisibleMap)
    (h : Shows windowVisibleMap pid shown) :
    reported windowVisibleMap pid = true ↔ shown.Nonempty := by
  rw [reported, Option.any_eq_true]
  constructor
  · rintro ⟨info, hInfo, -⟩
    have hSize : info.visibleWindowIds.size ≠ 0 := fun hSize =>
      (hSettled pid info hInfo).2 (ExtTreeSet.eq_empty_iff_size_eq_zero.mpr hSize)
    rw [ne_eq, size_eq_zero, not_forall_not] at hSize
    obtain ⟨window, hWindow⟩ := hSize
    exact ⟨window, (h window).mpr ⟨info, hInfo, hWindow⟩⟩
  · rintro ⟨window, hWindow⟩
    obtain ⟨info, hInfo, -⟩ := (h window).mp hWindow
    exact ⟨info, hInfo, (hSettled pid info hInfo).1⟩

/-- The windows a process is left with by an operation. -/
def Op.showWindows (pid : Int) (op : Op) (shown : Finset Nat) : Finset Nat :=
  (updatesOf [op]).foldl (showWindow pid) shown

theorem settled_step (hSettled : Settled windowVisibleMap) (op : Op) :
    Settled (step windowVisibleMap op).1 := by
  cases op with
  | updateWindowVisibilityPriorityInner infos =>
      rw [step, updateWindowVisibilityPriorityInner]
      dsimp only
      split_ifs <;> exact settled_updatePriorityForVisible
  | onProcessDied died =>
      apply hSettled.removed
      intro other info hInfo
      rw [step, onProcessDied, ExtTreeMap.getElem?_erase] at hInfo
      split_ifs at hInfo
      exact hInfo
  | checkMapSize trigger alivePids =>
      cases alivePids with
      | none => exact hSettled
      | some alivePids =>
          apply hSettled.removed
          intro other info hInfo
          dsimp only [step, checkMapSize] at hInfo
          rw [ExtTreeMap.getElem?_filter', Option.filter_eq_some_iff] at hInfo
          exact hInfo.1

/-- A step that takes no entry away reports exactly the change of what is shown. -/
theorem step_spec {op : Op} (hSettled : Settled windowVisibleMap)
    (h : Shows windowVisibleMap pid shown) (hKeeps : KeepsEntry pid windowVisibleMap op) :
    Shows (step windowVisibleMap op).1 pid (op.showWindows pid shown) ∧
      reasonsOf pid (step windowVisibleMap op).2 =
        edge (decide shown.Nonempty) (decide (op.showWindows pid shown).Nonempty) := by
  cases op with
  | updateWindowVisibilityPriorityInner infos =>
      obtain ⟨hShows, hSame⟩ := batch_shows h infos.reduceOption
      have hOp : (Op.updateWindowVisibilityPriorityInner infos).showWindows pid shown =
          infos.reduceOption.foldl (showWindow pid) shown := by
        simp [Op.showWindows, updatesOf]
      have hReported : reported windowVisibleMap pid = decide shown.Nonempty := by
        rw [Bool.eq_iff_iff, decide_eq_true_iff, hSettled.reported_iff h]
      have hReasons := reasonsOf_changed hShows
      rw [hSame, hReported] at hReasons
      rw [hOp, step, updateWindowVisibilityPriorityInner]
      dsimp only
      split_ifs
      · constructor
        · exact shows_updatePriorityForVisible hShows
        · rw [reasonsOf_append, hReasons]
          simp [reasonsOf]
      · exact ⟨shows_updatePriorityForVisible hShows, hReasons⟩
  | onProcessDied died =>
      have hSame : (windowVisibleMap.erase died)[pid]? = windowVisibleMap[pid]? := by
        by_cases hPid : died = pid
        · rw [hKeeps hPid, hPid]
          simp
        · simp [ExtTreeMap.getElem?_erase, hPid]
      constructor
      · intro window
        rw [step, onProcessDied, hSame]
        exact h window
      · exact (edge_self _).symm
  | checkMapSize trigger alivePids =>
      cases alivePids with
      | none => exact ⟨h, (edge_self _).symm⟩
      | some alivePids =>
          have hSame : (windowVisibleMap.filter fun pid _ => isAlive alivePids pid)[pid]? =
              windowVisibleMap[pid]? := by
            rw [ExtTreeMap.getElem?_filter']
            cases hAlive : isAlive alivePids pid with
            | false => simp [hKeeps hAlive]
            | true => cases windowVisibleMap[pid]? <;> simp
          constructor
          · intro window
            dsimp only [step, checkMapSize]
            rw [hSame]
            exact h window
          · cases trigger <;> exact (edge_self _).symm

/-- A process of which this many requests were sent is shown after an odd number of them. -/
structure Reported (pid : Int) (updates : List MemMgrWindowInfo) (reasons : List AppStateUpdateReason)
    (windowVisibleMap : WindowVisibleMap) : Prop where
  shows : Shows windowVisibleMap pid (replay pid updates)
  alternates : Alternates reasons
  odd : (replay pid updates).Nonempty ↔ reasons.length % 2 = 1

theorem alternates_concat {reasons : List AppStateUpdateReason} (h : Alternates reasons)
    {reason : AppStateUpdateReason}
    (hReason : reason = if reasons.length % 2 = 0 then .visible else .unVisible) :
    Alternates (reasons ++ [reason]) := by
  intro index found hFound
  rw [List.getElem?_append] at hFound
  split_ifs at hFound with hIndex
  · exact h index found hFound
  · obtain ⟨hLast, rfl⟩ : index = reasons.length ∧ reason = found := by
      rw [List.getElem?_singleton] at hFound
      split_ifs at hFound with hZero
      exact ⟨by omega, Option.some.inj hFound⟩
    rw [hLast]
    exact hReason

theorem Reported.step {updates : List MemMgrWindowInfo} {reasons : List AppStateUpdateReason} {op : Op}
    (h : Reported pid updates reasons windowVisibleMap) (hSettled : Settled windowVisibleMap)
    (hKeeps : KeepsEntry pid windowVisibleMap op) :
    Reported pid (updates ++ updatesOf [op])
      (reasons ++ reasonsOf pid (step windowVisibleMap op).2) (step windowVisibleMap op).1 := by
  obtain ⟨hShows, hReasons⟩ := step_spec hSettled h.shows hKeeps
  have hReplay : replay pid (updates ++ updatesOf [op]) = op.showWindows pid (replay pid updates) := by
    rw [replay, List.foldl_append]
    rfl
  rw [hReasons, ← hReplay]
  have hOdd := h.odd
  refine ⟨hReplay ▸ hShows, ?_, ?_⟩
  · by_cases hBefore : (replay pid updates).Nonempty <;>
      by_cases hAfter : (replay pid (updates ++ updatesOf [op])).Nonempty <;>
      simp only [hBefore, hAfter, decide_true, decide_false, edge, List.append_nil]
    · exact h.alternates
    · exact alternates_concat h.alternates (by simp [hOdd.mp hBefore])
    · exact alternates_concat h.alternates (by simpa [hBefore] using hOdd)
    · exact h.alternates
  · by_cases hBefore : (replay pid updates).Nonempty <;>
      by_cases hAfter : (replay pid (updates ++ updatesOf [op])).Nonempty <;>
      simp only [hBefore, hAfter, decide_true, decide_false, edge, List.append_nil,
        List.length_append, List.length_singleton, true_iff, false_iff] at hOdd ⊢ <;>
      omega

theorem Alternates.last_visible_iff {reasons : List AppStateUpdateReason} (h : Alternates reasons) :
    reasons.getLast? = some .visible ↔ reasons.length % 2 = 1 := by
  rw [List.getLast?_eq_getElem?]
  constructor
  · intro hLast
    have hIndex := List.getElem?_eq_some_iff.mp hLast
    have hReason := h _ _ hLast
    split_ifs at hReason with hEven
    obtain ⟨hLength, -⟩ := hIndex
    omega
  · intro hOdd
    have hLength : reasons.length - 1 < reasons.length := by omega
    have hReason := h _ _ (List.getElem?_eq_getElem hLength)
    rw [if_pos (by omega)] at hReason
    rw [List.getElem?_eq_getElem hLength, hReason]

theorem settled_run (ops : List Op) : Settled (run ∅ ops) := by
  apply Transducer.state_invariant Settled
  · intro pid info hInfo
    simp at hInfo
  · exact fun _ op h => settled_step h op

theorem removed_by_step {op : Op} (h : op.Removes pid) : (step windowVisibleMap op).1[pid]? = none := by
  cases op with
  | updateWindowVisibilityPriorityInner infos => cases h
  | onProcessDied died =>
      obtain rfl := h
      simp [step, onProcessDied]
  | checkMapSize trigger alivePids =>
      cases alivePids with
      | none => cases h
      | some alivePids =>
          have hDead : isAlive alivePids pid = false := h
          dsimp only [step, checkMapSize]
          rw [ExtTreeMap.getElem?_filter', hDead]
          cases windowVisibleMap[pid]? <;> rfl

/-- At the start, or right after the process was removed. -/
def StartsAnew (pid : Int) (before : List Op) : Prop :=
  before = [] ∨ ∃ earlier op, before = earlier ++ [op] ∧ op.Removes pid

theorem StartsAnew.entry {before : List Op} (h : StartsAnew pid before) :
    (run ∅ before)[pid]? = none := by
  rcases h with rfl | ⟨earlier, op, rfl, hRemoves⟩
  · simp [run]
  · rw [run, Transducer.finalState_concat]
    exact removed_by_step hRemoves

theorem reported_since {before after : List Op} (hStart : StartsAnew pid before)
    (hBetween : Transducer.AllowedAll step (KeepsEntry pid) (run ∅ before) after) :
    Reported pid (updatesOf after) (reasonsOf pid (Transducer.outputs step (run ∅ before) after))
      (run (run ∅ before) after) := by
  have hBoth : Settled (run (run ∅ before) after) ∧
      Reported pid (updatesOf after) (reasonsOf pid (Transducer.outputs step (run ∅ before) after))
        (run (run ∅ before) after) := by
    apply Transducer.invariant (fun ops outputs windowVisibleMap => Settled windowVisibleMap ∧
      Reported pid (updatesOf ops) (reasonsOf pid outputs) windowVisibleMap) (KeepsEntry pid) _ _
        after hBetween
    · refine ⟨settled_run before, ?_, ?_, ?_⟩
      · intro window
        simp [hStart.entry, replay, updatesOf]
      · intro index reason hReason
        simp [reasonsOf] at hReason
      · simp [replay, updatesOf, reasonsOf]
    · intro ops outputs windowVisibleMap op h hKeeps
      have hNext := h.2.step h.1 hKeeps
      rw [reasonsOf_append]
      have hUpdates : updatesOf (ops ++ [op]) = updatesOf ops ++ updatesOf [op] := by
        simp [updatesOf]
      rw [hUpdates]
      exact ⟨settled_step h.1 op, hNext⟩
  exact hBoth.2

/-- Every process in the map is visible. From one removal of a process to the next its requests
alternate, and the last one is VISIBLE exactly while its updates leave a window visible. -/
theorem visibility_reported_exactly : (∀ ops, Settled (run ∅ ops)) ∧
    ∀ pid before after, StartsAnew pid before →
      Transducer.AllowedAll step (KeepsEntry pid) (run ∅ before) after →
        Alternates (reasonsOf pid (Transducer.outputs step (run ∅ before) after)) ∧
          ((reasonsOf pid (Transducer.outputs step (run ∅ before) after)).getLast? = some .visible ↔
            (replay pid (updatesOf after)).Nonempty) := by
  refine ⟨settled_run, fun pid before after hStart hBetween => ?_⟩
  have h := reported_since hStart hBetween
  exact ⟨h.alternates, h.alternates.last_visible_iff.trans h.odd.symm⟩

/-- Process 7 dies while it shows window 1. Later it shows windows 2 and 3, and hides them. -/
def diedBefore : List Op :=
  [.updateWindowVisibilityPriorityInner [some ⟨1, 7, 20000001, true⟩], .onProcessDied 7]

def shownAfter : List Op :=
  [.updateWindowVisibilityPriorityInner [none, some ⟨2, 7, 20000001, true⟩, some ⟨3, 7, 20000001, true⟩],
    .updateWindowVisibilityPriorityInner [some ⟨2, 7, 20000001, false⟩],
    .updateWindowVisibilityPriorityInner [some ⟨3, 7, 20000001, false⟩, some ⟨3, 7, 20000001, false⟩]]

theorem visibility_reported_after_death :
    reasonsOf 7 (Transducer.outputs step (run ∅ diedBefore) shownAfter) = [.visible, .unVisible] ∧
      (Alternates (reasonsOf 7 (Transducer.outputs step (run ∅ diedBefore) shownAfter)) ∧
        ((reasonsOf 7 (Transducer.outputs step (run ∅ diedBefore) shownAfter)).getLast? =
            some .visible ↔ (replay 7 (updatesOf shownAfter)).Nonempty)) := by
  refine ⟨by decide +kernel, visibility_reported_exactly.2 7 diedBefore shownAfter ?_ ?_⟩
  · exact Or.inr ⟨[.updateWindowVisibilityPriorityInner [some ⟨1, 7, 20000001, true⟩]],
      .onProcessDied 7, rfl, rfl⟩
  · intro earlier op hPrefix hRemoves
    have hOp : op ∈ shownAfter := hPrefix.subset (by simp)
    rw [shownAfter] at hOp
    simp only [List.mem_cons, List.not_mem_nil, or_false] at hOp
    rcases hOp with rfl | rfl | rfl <;> cases hRemoves

end WindowVisibilityObserver
end MemMgr
