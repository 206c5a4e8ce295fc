import MemMgr.KillableBundles

/-! The rounds of one pressure event. A round takes the greatest bundle that does not wait and
makes it wait, so the bundles of an event differ, and a later one stands before an earlier one
in the set unless its copy failed earlier. -/
namespace MemMgr

open ReclaimPriorityManager BundlePriorityInfo

/-- One attempt of an event: its round, the copy it works on, and what killing that freed. -/
structure Attempt where
  round : Nat
  bundle : BundlePriorityInfo
  freedBuf : Int

/-- Where the bundle stood in the set. -/
def Attempt.sortKey (attempt : Attempt) : Int ×ₗ Int :=
  toLex (attempt.bundle.priority, attempt.bundle.uid)

/-- The key that an attempt records names the uid of the bundle. -/
theorem Attempt.uid_eq {attempt : Attempt} {s : ReclaimPriorityManager} {bundle : BundleRef}
    (h : attempt.sortKey = s.sortKey bundle) : attempt.bundle.uid = (s.bundles bundle).uid :=
  congrArg (fun key => (ofLex key).2) h

namespace LowMemoryKiller

variable (event : PressureEvent)

/-- The bundle was too young to be killed. -/
def ProtectedByAge (attempt : Attempt) : Prop :=
  event.getSystemCurTime attempt.round - attempt.bundle.createTime < notToKillDuring

instance (attempt : Attempt) : Decidable (ProtectedByAge event attempt) :=
  inferInstanceAs (Decidable (_ < _))

/-- `killRounds` with the attempts it makes. -/
def attemptRounds (minPrio : Int) (targetBuf targetKillKb : Nat) :
    Nat → Nat → KillerState → List Attempt × KillerState
  | 0, _, killer => ([], killer)
  | left + 1, currKillKb, killer =>
      let round := maxKillCntPerEvent - (left + 1)
      let found := (killer.manager.getOneKillableBundle (event.copyBundle round) minPrio).1
      let (killer, freedBuf) := killOneBundleByPrio event round minPrio killer
      let attempts := found.toList.map fun bundle => ⟨round, bundle, freedBuf⟩
      if freedBuf ≤ 0 then (attempts, killer)
      else
        let currKillKb := (currKillKb + toUnsigned freedBuf) % 2 ^ 32
        let availBuf := event.getCurrentBuffer (round + 1)
        if availBuf < 0 ∨ availBuf ≥ maxBufferKB then (attempts, killer)
        else if toUnsigned availBuf ≥ targetBuf then (attempts, { killer with killLevel := 0 })
        else if currKillKb < targetKillKb then
          let (later, killer) := attemptRounds minPrio targetBuf targetKillKb left currKillKb killer
          (attempts ++ later, killer)
        else (attempts, killer)

/-- `psiHandlerInner` with the attempts it makes. -/
def attemptedByPsi (levelMap : Std.ExtTreeMap Nat Int) (killer : KillerState) :
    List Attempt × KillerState :=
  let curBuf := toUnsigned (event.getCurrentBuffer 0)
  if curBuf = maxBufferKB then ([], killer)
  else
    let memPrio := queryKillMemoryPriorityPair levelMap curBuf
    let killer := { killer with killLevel := memPrio.killLevel }
    let targetKillKb :=
      if curBuf > 0 ∧ memPrio.targetBufKB > curBuf then memPrio.targetBufKB - curBuf else 0
    if memPrio.minPrio < reclaimPriorityMin ∨ memPrio.minPrio > reclaimPriorityMax then ([], killer)
    else attemptRounds event memPrio.minPrio memPrio.targetBufKB targetKillKb maxKillCntPerEvent 0 killer

/-- Recording the attempts leaves the result of the rounds as it is. -/
theorem attemptRounds_snd (minPrio : Int) (targetBuf targetKillKb left currKillKb : Nat)
    (killer : KillerState) :
    (attemptRounds event minPrio targetBuf targetKillKb left currKillKb killer).2 =
      killRounds event minPrio targetBuf targetKillKb left currKillKb killer := by
  induction left generalizing currKillKb killer with
  | zero => rfl
  | succ left ih =>
      rw [attemptRounds, killRounds]
      dsimp only
      split_ifs
      · rfl
      · rfl
      · rfl
      · exact ih _ _
      · rfl

/-- Forgetting the attempts leaves the handler. -/
theorem attemptedByPsi_snd (levelMap : Std.ExtTreeMap Nat Int) (killer : KillerState) :
    (attemptedByPsi event levelMap killer).2 = psiHandlerInner event levelMap killer := by
  rw [attemptedByPsi, psiHandlerInner]
  dsimp only
  split_ifs
  · rfl
  · rfl
  · exact attemptRounds_snd event _ _ _ _ _ _
  · exact attemptRounds_snd event _ _ _ _ _ _

end LowMemoryKiller

/-- Nothing but the states of bundles differs, and what waited still waits. -/
structure StatesOnly (s s' : ReclaimPriorityManager) : Prop where
  set : s'.prioList = s.prioList
  accounts : s'.osAccountsInfoMap = s.osAccountsInfoMap
  bundles : ∀ bundle, s'.bundles bundle =
    { s.bundles bundle with state := (s'.bundles bundle).state }
  waiting : ∀ bundle, (s.bundles bundle).state = .stateWaitingForKill →
    (s'.bundles bundle).state = .stateWaitingForKill

/-- The set is ascending, and its bundles are found where their objects say. -/
structure Scannable (s : ReclaimPriorityManager) : Prop where
  ascending : SetAscending s
  located : ∀ bundle ∈ s.prioList,
    s.findBundle (s.bundles bundle).uid (s.bundles bundle).accountId = some bundle
  distinct : ∀ bundle ∈ s.prioList, ∀ other ∈ s.prioList,
    (s.bundles bundle).uid = (s.bundles other).uid → bundle = other

namespace StatesOnly

variable {s s₁ s' : ReclaimPriorityManager} {bundle : BundleRef}

/-- Nothing changed. -/
theorem refl (s : ReclaimPriorityManager) : StatesOnly s s :=
  ⟨rfl, rfl, fun _ => rfl, fun _ => id⟩

/-- Two changes of states only are one. -/
theorem trans (first : StatesOnly s s₁) (second : StatesOnly s₁ s') : StatesOnly s s' where
  set := second.set.trans first.set
  accounts := second.accounts.trans first.accounts
  bundles bundle := by
    rw [second.bundles bundle, first.bundles bundle]
  waiting bundle hWaits := second.waiting bundle (first.waiting bundle hWaits)

/-- The priority of every bundle stays. -/
theorem priority (h : StatesOnly s s') : (s'.bundles bundle).priority = (s.bundles bundle).priority := by
  rw [h.bundles]

/-- The uid of every bundle stays. -/
theorem uid (h : StatesOnly s s') : (s'.bundles bundle).uid = (s.bundles bundle).uid := by
  rw [h.bundles]

/-- The account of every bundle stays. -/
theorem accountId (h : StatesOnly s s') :
    (s'.bundles bundle).accountId = (s.bundles bundle).accountId := by
  rw [h.bundles]

/-- Every bundle keeps its place in the order. -/
theorem sortKey (h : StatesOnly s s') : s'.sortKey bundle = s.sortKey bundle := by
  rw [ReclaimPriorityManager.sortKey, ReclaimPriorityManager.sortKey, h.priority, h.uid]

/-- The same bundles are found. -/
theorem findBundle (h : StatesOnly s s') (uid accountId : Int) :
    s'.findBundle uid accountId = s.findBundle uid accountId := by
  rw [ReclaimPriorityManager.findBundle, ReclaimPriorityManager.findBundle, findOsAccountById,
    findOsAccountById, h.accounts]

/-- The scan stays possible. -/
theorem scannable (h : StatesOnly s s') (hScan : Scannable s) : Scannable s' where
  ascending := by
    have hAscending := hScan.ascending
    rw [SetAscending] at hAscending ⊢
    simpa only [h.set, h.priority, h.uid] using hAscending
  located bundle hMem := by
    rw [h.findBundle, h.uid, h.accountId]
    exact hScan.located bundle (h.set ▸ hMem)
  distinct bundle hMem other hOther hUid := by
    rw [h.uid, h.uid] at hUid
    exact hScan.distinct bundle (h.set ▸ hMem) other (h.set ▸ hOther) hUid

/-- Marking a bundle as waiting for its kill changes its state only. -/
theorem setWaiting (s : ReclaimPriorityManager) (bundle : BundleRef) :
    StatesOnly s (s.modifyBundle bundle fun info => { info with state := .stateWaitingForKill }) where
  set := rfl
  accounts := rfl
  bundles other := by
    rw [modifyBundle_bundles, Function.update_apply]
    split_ifs with hIs
    · rw [hIs]
    · rfl
  waiting other hWaits := by
    rw [modifyBundle_bundles, Function.update_apply]
    split_ifs
    · rfl
    · exact hWaits

/-- The copy of a bundle succeeds as before, since its place in the set decides it. -/
theorem copySucceeds (h : StatesOnly s s') {copySucceeds : Nat → Bool} :
    s'.CopySucceeds copySucceeds bundle ↔ s.CopySucceeds copySucceeds bundle := by
  rw [CopySucceeds, CopySucceeds, h.set]

end StatesOnly

/-- The bundle is taken at this priority: no other one that could be taken stands behind it. -/
structure ReclaimPriorityManager.Takes (s : ReclaimPriorityManager) (copySucceeds : Nat → Bool)
    (minPrio : Int) (bundle : BundleRef) : Prop where
  mem : bundle ∈ s.prioList
  choosable : s.Choosable copySucceeds minPrio bundle
  greatest : ∀ other ∈ s.prioList, s.Choosable copySucceeds minPrio other → other ≠ bundle →
    s.sortKey other < s.sortKey bundle

/-- What stands behind a bundle that is taken could not be copied. -/
theorem ReclaimPriorityManager.Takes.passes {s : ReclaimPriorityManager} {copySucceeds : Nat → Bool}
    {minPrio : Int} {bundle other : BundleRef} (h : s.Takes copySucceeds minPrio bundle)
    (hMem : other ∈ s.prioList) (hAbove : minPrio ≤ (s.bundles other).priority)
    (hReady : (s.bundles other).state ≠ .stateWaitingForKill) (hOther : other ≠ bundle) :
    s.sortKey other < s.sortKey bundle ∨ ¬ s.CopySucceeds copySucceeds other := by
  by_cases hCopies : s.CopySucceeds copySucceeds other
  · exact Or.inl (h.greatest other hMem ⟨hAbove, hReady, hCopies⟩ hOther)
  · exact Or.inr hCopies

/-- The attempts made between two states of the manager. -/
structure Attempts (event : PressureEvent) (minPrio : Int) (s : ReclaimPriorityManager)
    (attempts : List Attempt) (s' : ReclaimPriorityManager) : Prop where
  states : StatesOnly s s'
  attempted : ∀ attempt ∈ attempts, ∃ bundle ∈ s.prioList,
    (s.bundles bundle).state ≠ .stateWaitingForKill ∧
    minPrio ≤ (s.bundles bundle).priority ∧
    attempt.sortKey = s.sortKey bundle ∧ attempt.bundle.accountId = (s.bundles bundle).accountId ∧
    (LowMemoryKiller.ProtectedByAge event attempt ∨ (s'.bundles bundle).state = .stateWaitingForKill)
  ordered : attempts.Pairwise fun first second =>
    second.bundle.uid ≠ first.bundle.uid ∧
      (second.sortKey < first.sortKey ∨ ∃ bundle ∈ s.prioList,
        (s.bundles bundle).uid = second.bundle.uid ∧
          ¬ s.CopySucceeds (event.copyBundle first.round) bundle)

namespace Attempts

variable {event : PressureEvent} {minPrio : Int} {s s₁ s' : ReclaimPriorityManager}
variable {first : Attempt} {later : List Attempt} {bundle : BundleRef}

/-- No attempt was made. -/
theorem nil (h : StatesOnly s s') : Attempts event minPrio s [] s' :=
  ⟨h, by simp, List.Pairwise.nil⟩

/-- A later attempt, as it stood before the states changed. -/
theorem attempted_before (hStates : StatesOnly s s₁) (h : Attempts event minPrio s₁ later s')
    {attempt : Attempt} (hLater : attempt ∈ later) : ∃ bundle ∈ s.prioList,
      (s₁.bundles bundle).state ≠ .stateWaitingForKill ∧ minPrio ≤ (s.bundles bundle).priority ∧
      attempt.sortKey = s.sortKey bundle ∧ attempt.bundle.accountId = (s.bundles bundle).accountId ∧
      (LowMemoryKiller.ProtectedByAge event attempt ∨ (s'.bundles bundle).state = .stateWaitingForKill) := by
  obtain ⟨bundle, hMem, hReady, hAbove, hKey, hAccount, hAfter⟩ := h.attempted attempt hLater
  rw [hStates.set] at hMem
  rw [hStates.priority] at hAbove
  rw [hStates.sortKey] at hKey
  rw [hStates.accountId] at hAccount
  exact ⟨bundle, hMem, hReady, hAbove, hKey, hAccount, hAfter⟩

/-- A bundle is taken and made to wait, then others are attempted. -/
theorem cons (hScan : Scannable s) (hTakes : s.Takes (event.copyBundle first.round) minPrio bundle)
    (hCopied : first.bundle = (s.bundles bundle).copy) (hStates : StatesOnly s s₁)
    (hWaits : (s₁.bundles bundle).state = .stateWaitingForKill)
    (h : Attempts event minPrio s₁ later s') : Attempts event minPrio s (first :: later) s' := by
  have hFirstKey : first.sortKey = s.sortKey bundle := by
    rw [Attempt.sortKey, hCopied]
    rfl
  exact
    { states := hStates.trans h.states
      attempted := by
        intro attempt hAttempt
        rcases List.mem_cons.mp hAttempt with rfl | hLater
        · refine ⟨bundle, hTakes.mem, hTakes.choosable.ready, hTakes.choosable.above, hFirstKey, ?_, ?_⟩
          · rw [hCopied]
            rfl
          · exact Or.inr (h.states.waiting bundle hWaits)
        · obtain ⟨other, hMem, hReady, hRest⟩ := h.attempted_before hStates hLater
          exact ⟨other, hMem, fun hWaited => hReady (hStates.waiting other hWaited), hRest⟩
      ordered := by
        apply List.pairwise_cons.mpr
        constructor
        · intro second hSecond
          obtain ⟨other, hMem, hReady, hAbove, hKey, -, -⟩ := h.attempted_before hStates hSecond
          have hOther : other ≠ bundle := by
            intro hIs
            rw [hIs] at hReady
            exact hReady hWaits
          have hNotWaiting : (s.bundles other).state ≠ .stateWaitingForKill :=
            fun hWaited => hReady (hStates.waiting other hWaited)
          constructor
          · intro hSame
            rw [Attempt.uid_eq hKey, Attempt.uid_eq hFirstKey] at hSame
            exact hOther (hScan.distinct other hMem bundle hTakes.mem hSame)
          · rw [hKey, hFirstKey]
            apply (hTakes.passes hMem hAbove hNotWaiting hOther).imp_right
            intro hFails
            exact ⟨other, hMem, (Attempt.uid_eq hKey).symm, hFails⟩
        · apply h.ordered.imp
          intro second third hOrdered
          rw [hStates.set] at hOrdered
          simpa only [hStates.uid, hStates.copySucceeds] using hOrdered }

/-- The last attempt, on a bundle that is protected or made to wait. -/
theorem single (hTakes : s.Takes (event.copyBundle first.round) minPrio bundle)
    (hCopied : first.bundle = (s.bundles bundle).copy) (hStates : StatesOnly s s')
    (hAfter : LowMemoryKiller.ProtectedByAge event first ∨
      (s'.bundles bundle).state = .stateWaitingForKill) : Attempts event minPrio s [first] s' where
  states := hStates
  attempted := by
    intro attempt hAttempt
    rw [List.mem_singleton.mp hAttempt, Attempt.sortKey, hCopied]
    exact ⟨bundle, hTakes.mem, hTakes.choosable.ready, hTakes.choosable.above, rfl, rfl, hAfter⟩
  ordered := List.pairwise_singleton _ _

end Attempts

namespace LowMemoryKiller

variable (event : PressureEvent) {minPrio : Int} {killer : KillerState} {copied : BundlePriorityInfo}
variable {round : Nat} {bundle : BundleRef}

/-- A round that finds nothing. -/
theorem killOneBundleByPrio_of_none
    (hNone : (killer.manager.getOneKillableBundle (event.copyBundle round) minPrio).1 = none) :
    (killOneBundleByPrio event round minPrio killer).1.manager = killer.manager ∧
      (killOneBundleByPrio event round minPrio killer).2 = 0 := by
  rw [killOneBundleByPrio]
  dsimp only
  rw [hNone, killAll_eq]
  exact ⟨rfl, rfl⟩

/-- A round that takes a bundle frees nothing if it is too young, and makes it wait otherwise. -/
theorem killOneBundleByPrio_of_taken (hScan : Scannable killer.manager)
    (hTakes : killer.manager.Takes (event.copyBundle round) minPrio bundle)
    (hFound : (killer.manager.getOneKillableBundle (event.copyBundle round) minPrio).1 =
      some (killer.manager.bundles bundle).copy) (freedBuf : Int) :
    StatesOnly killer.manager (killOneBundleByPrio event round minPrio killer).1.manager ∧
      (ProtectedByAge event ⟨round, (killer.manager.bundles bundle).copy, freedBuf⟩ ∧
          (killOneBundleByPrio event round minPrio killer).2 = 0 ∨
        ((killOneBundleByPrio event round minPrio killer).1.manager.bundles bundle).state =
          .stateWaitingForKill) := by
  rw [killOneBundleByPrio]
  dsimp only
  rw [hFound, killAll_eq]
  dsimp only
  have hAbove : ¬ (killer.manager.bundles bundle).copy.priority < minPrio :=
    not_lt.mpr hTakes.choosable.above
  have hReady : (killer.manager.bundles bundle).copy.state ≠ .stateWaitingForKill :=
    hTakes.choosable.ready
  rw [if_neg hAbove]
  split_ifs with hAge
  · exact ⟨.refl _, Or.inl ⟨hAge, rfl⟩⟩
  · have hFind : killer.manager.findBundle (killer.manager.bundles bundle).copy.uid
        (killer.manager.bundles bundle).copy.accountId = some bundle := hScan.located bundle hTakes.mem
    rw [killAll_eq]
    dsimp only
    rw [setBundleState, hFind]
    exact ⟨.setWaiting _ bundle, Or.inr (by simp [modifyBundle_bundles])⟩

/-- What a round takes, if it takes anything. -/
theorem exists_takes (hScan : Scannable killer.manager)
    (hFound : (killer.manager.getOneKillableBundle (event.copyBundle round) minPrio).1 = some copied) :
    ∃ bundle, killer.manager.Takes (event.copyBundle round) minPrio bundle ∧
      copied = (killer.manager.bundles bundle).copy := by
  obtain ⟨bundle, hMem, hChosen, hCopied, hGreatest⟩ :=
    (getOneKillableBundle_eq_some hScan.ascending).mp hFound
  exact ⟨bundle, ⟨hMem, hChosen, hGreatest⟩, hCopied⟩

/-- The rounds of one event make their attempts one after the other, each on the state that the one
before left. -/
theorem attemptRounds_attempts (targetBuf targetKillKb left currKillKb : Nat)
    (hScan : Scannable killer.manager) :
    Attempts event minPrio killer.manager
      (attemptRounds event minPrio targetBuf targetKillKb left currKillKb killer).1
      (attemptRounds event minPrio targetBuf targetKillKb left currKillKb killer).2.manager := by
  induction left generalizing currKillKb killer with
  | zero => exact .nil (.refl _)
  | succ left ih =>
      rw [attemptRounds]
      cases hFound : (killer.manager.getOneKillableBundle
          (event.copyBundle (maxKillCntPerEvent - (left + 1))) minPrio).1 with
      | none =>
          obtain ⟨hManager, hFreed⟩ := killOneBundleByPrio_of_none event hFound
          dsimp only
          rw [if_pos hFreed.le]
          dsimp only
          rw [hManager]
          exact .nil (.refl _)
      | some copied =>
          obtain ⟨bundle, hTakes, rfl⟩ := exists_takes event hScan hFound
          obtain ⟨hStates, hAfter⟩ := killOneBundleByPrio_of_taken event hScan hTakes hFound
            (killOneBundleByPrio event (maxKillCntPerEvent - (left + 1)) minPrio killer).2
          have hSingle := @Attempts.single event minPrio killer.manager _ ⟨_, _, _⟩ bundle hTakes rfl
            hStates (hAfter.imp And.left id)
          dsimp only
          split_ifs with hFreed hRead hReached hMore
          · exact hSingle
          · exact hSingle
          · exact hSingle
          · have hWaits := hAfter.resolve_left fun hProtected => hFreed hProtected.2.le
            exact .cons hScan hTakes rfl hStates hWaits (ih _ (hStates.scannable hScan))
          · exact hSingle

/-- After the attempt memory is read, and there is still too little of it. -/
structure StillLow (targetBuf : Nat) (attempt : Attempt) : Prop where
  freed : 0 < attempt.freedBuf
  valid : 0 ≤ event.getCurrentBuffer (attempt.round + 1)
  read : event.getCurrentBuffer (attempt.round + 1) < maxBufferKB
  low : event.getCurrentBuffer (attempt.round + 1) < targetBuf

/-- A round makes no attempt, a last one, or one that the others follow. -/
theorem attemptRounds_cases (minPrio : Int) (targetBuf targetKillKb left currKillKb : Nat)
    (killer : KillerState) :
    (attemptRounds event minPrio targetBuf targetKillKb (left + 1) currKillKb killer).1 = [] ∨
    ∃ first, first.round = maxKillCntPerEvent - (left + 1) ∧
      ((attemptRounds event minPrio targetBuf targetKillKb (left + 1) currKillKb killer).1 = [first] ∨
        StillLow event targetBuf first ∧
          (currKillKb + toUnsigned first.freedBuf) % 2 ^ 32 < targetKillKb ∧
          ∃ next, (attemptRounds event minPrio targetBuf targetKillKb (left + 1) currKillKb killer).1 =
            first :: (attemptRounds event minPrio targetBuf targetKillKb left
              ((currKillKb + toUnsigned first.freedBuf) % 2 ^ 32) next).1) := by
  rw [attemptRounds]
  cases hFound : (killer.manager.getOneKillableBundle
      (event.copyBundle (maxKillCntPerEvent - (left + 1))) minPrio).1 with
  | none =>
      obtain ⟨-, hFreed⟩ := killOneBundleByPrio_of_none event hFound
      dsimp only
      rw [if_pos hFreed.le]
      exact Or.inl rfl
  | some copied =>
      right
      dsimp only
      generalize killOneBundleByPrio event (maxKillCntPerEvent - (left + 1)) minPrio killer = outcome
      obtain ⟨next, freedBuf⟩ := outcome
      refine ⟨⟨maxKillCntPerEvent - (left + 1), copied, freedBuf⟩, rfl, ?_⟩
      dsimp only
      split_ifs with hFreed hRead hReached hMore
      · exact Or.inl rfl
      · exact Or.inl rfl
      · exact Or.inl rfl
      · right
        rw [toUnsigned] at hReached
        simp only [maxBufferKB] at hRead
        refine ⟨⟨not_le.mp hFreed, ?_, ?_, ?_⟩, hMore, next, rfl⟩
        · dsimp only
          omega
        · simp only [maxBufferKB]
          omega
        · dsimp only
          omega
      · exact Or.inl rfl

/-- An event makes no more attempts than it has rounds left. -/
theorem attemptRounds_length (minPrio : Int) (targetBuf targetKillKb left currKillKb : Nat)
    (killer : KillerState) :
    (attemptRounds event minPrio targetBuf targetKillKb left currKillKb killer).1.length ≤ left := by
  induction left generalizing currKillKb killer with
  | zero => exact le_refl 0
  | succ left ih =>
      rcases attemptRounds_cases event minPrio targetBuf targetKillKb left currKillKb killer with
        hNone | ⟨first, -, hLast | ⟨-, -, next, hMore⟩⟩
      · simp [hNone]
      · simp [hLast]
      · rw [hMore, List.length_cons]
        have hRest := ih ((currKillKb + toUnsigned first.freedBuf) % 2 ^ 32) next
        omega

/-- The first attempt is made in the round that comes next. -/
theorem attemptRounds_head {targetBuf targetKillKb left currKillKb : Nat} {first : Attempt}
    {later : List Attempt} (h : (attemptRounds event minPrio targetBuf targetKillKb left currKillKb
      killer).1 = first :: later) : first.round = maxKillCntPerEvent - left := by
  cases left with
  | zero => cases h
  | succ left =>
      rcases attemptRounds_cases event minPrio targetBuf targetKillKb left currKillKb killer with
        hNone | ⟨made, hRound, hLast | ⟨-, -, next, hMore⟩⟩
      · rw [hNone] at h
        cases h
      · rw [hLast] at h
        cases h
        exact hRound
      · rw [hMore] at h
        cases h
        exact hRound

/-- The memory freed by the attempts, as the killer counts it. -/
def countedKb (attempts : List Attempt) : Nat :=
  (attempts.map fun attempt => toUnsigned attempt.freedBuf).sum

/-- An attempt is followed by another in the next round only. -/
theorem attemptRounds_continued {targetBuf targetKillKb left currKillKb : Nat}
    {before after : List Attempt} {attempt next : Attempt} (hLeft : left ≤ maxKillCntPerEvent)
    (h : (attemptRounds event minPrio targetBuf targetKillKb left currKillKb killer).1 =
      before ++ attempt :: next :: after) :
    next.round = attempt.round + 1 ∧ StillLow event targetBuf attempt ∧
      (currKillKb + countedKb (before ++ [attempt])) % 2 ^ 32 < targetKillKb := by
  induction left generalizing currKillKb killer before with
  | zero => simp [attemptRounds] at h
  | succ left ih =>
      rcases attemptRounds_cases event minPrio targetBuf targetKillKb left currKillKb killer with
        hNone | ⟨first, hRound, hLast | ⟨hLow, hBelow, later, hMore⟩⟩
      · simp [hNone] at h
      · have hLength := congrArg List.length (hLast.symm.trans h)
        simp only [List.length_append, List.length_cons, List.length_nil] at hLength
        omega
      · rw [hMore] at h
        cases before with
        | nil =>
            obtain ⟨rfl, hRest⟩ := List.cons.inj h
            have hNext := attemptRounds_head event hRest
            refine ⟨by omega, hLow, ?_⟩
            simpa [countedKb] using hBelow
        | cons made before =>
            obtain ⟨rfl, hRest⟩ := List.cons.inj h
            obtain ⟨hNext, hStill, hCounted⟩ := ih (Nat.le_of_succ_le hLeft) hRest
            refine ⟨hNext, hStill, ?_⟩
            have hSum : currKillKb + countedKb (first :: before ++ [attempt]) =
                currKillKb + toUnsigned first.freedBuf + countedKb (before ++ [attempt]) := by
              simp [countedKb]
              omega
            rw [hSum, ← Nat.mod_add_mod]
            exact hCounted

/-- An attempt that is not the last one is followed by another one. -/
theorem exists_followed {attempts : List Attempt} (next : Attempt) (after : List Attempt) {made : Attempt}
    (hMade : made ∈ attempts) : ∃ front other last,
      attempts ++ next :: after = front ++ made :: other :: last := by
  obtain ⟨front, rest, rfl⟩ := List.append_of_mem hMade
  obtain ⟨other, last, hOther⟩ := List.exists_cons_of_ne_nil (List.append_ne_nil_of_right_ne_nil rest
    (List.cons_ne_nil next after))
  exact ⟨front, other, last, by rw [List.append_assoc, List.cons_append, hOther]⟩

/-- With two attempts at most the count is the sum. -/
theorem countedKb_eq {attempts : List Attempt} (hLength : attempts.length ≤ 2)
    (hFreed : ∀ attempt ∈ attempts, 0 < attempt.freedBuf ∧ attempt.freedBuf < 2 ^ 31) :
    ((countedKb attempts % 2 ^ 32 : Nat) : Int) = (attempts.map Attempt.freedBuf).sum := by
  have hExact : ∀ attempt ∈ attempts, (toUnsigned attempt.freedBuf : Int) = attempt.freedBuf := by
    intro attempt hAttempt
    have hRange := hFreed attempt hAttempt
    rw [toUnsigned]
    omega
  match attempts, hLength with
  | [], _ => rfl
  | [first], _ =>
      have hFirst := hExact first (by simp)
      have hRange := hFreed first (by simp)
      simp only [countedKb, List.map_cons, List.map_nil, List.sum_cons, List.sum_nil]
      omega
  | [first, second], _ =>
      have hFirst := hExact first (by simp)
      have hSecond := hExact second (by simp)
      have hRange := hFreed first (by simp)
      have hRange' := hFreed second (by simp)
      simp only [countedKb, List.map_cons, List.map_nil, List.sum_cons, List.sum_nil]
      omega

end LowMemoryKiller

/-- What the attempts of one event keep to. -/
structure Orderly (event : PressureEvent) (targetBuf : Nat) (s : ReclaimPriorityManager)
    (attempts : List Attempt) (s' : ReclaimPriorityManager) : Prop where
  atMost : attempts.length ≤ 3
  taken : ∀ attempt ∈ attempts, ∃ bundle ∈ s.prioList, attempt.sortKey = s.sortKey bundle
  distinct : attempts.Pairwise fun first second => second.bundle.uid ≠ first.bundle.uid
  descending : attempts.Pairwise fun first second =>
    second.sortKey < first.sortKey ∨ ∃ bundle ∈ s.prioList,
      (s.bundles bundle).uid = second.bundle.uid ∧
        ¬ s.CopySucceeds (event.copyBundle first.round) bundle
  continued : ∀ before attempt next after, attempts = before ++ attempt :: next :: after →
    next.round = attempt.round + 1 ∧ LowMemoryKiller.StillLow event targetBuf attempt
  /-- What is freed is an `int`, so the sum of the killer is exact. -/
  freed : ∀ before attempt next after, attempts = before ++ attempt :: next :: after →
    (∀ made ∈ before ++ [attempt], made.freedBuf < 2 ^ 31) →
      ((before ++ [attempt]).map Attempt.freedBuf).sum <
        targetBuf - toUnsigned (event.getCurrentBuffer 0)
  waiting : ∀ attempt ∈ attempts, ¬ LowMemoryKiller.ProtectedByAge event attempt →
    ∃ bundle, s'.findBundle attempt.bundle.uid attempt.bundle.accountId = some bundle ∧
      (s'.bundles bundle).state = .stateWaitingForKill

/-- A set that agrees with the map, over bundles whose records are intact, can be scanned. -/
theorem SetAgrees.scannable {s : ReclaimPriorityManager} (h : SetAgrees s)
    (hIntact : ∀ bundle ∈ s.prioList, (s.bundles bundle).Intact) : Scannable s where
  ascending := h.ascending
  located bundle hMem := by
    obtain ⟨accountId, uid, hFind⟩ := (h.exact bundle).mp hMem
    obtain ⟨hUid, hAccount⟩ := h.stored uid accountId bundle hFind
    rw [(hIntact bundle hMem).owner, hUid, getOsAccountIdByUid]
    exact hAccount ▸ hFind
  distinct bundle hMem other hOther hUid := by
    obtain ⟨accountId, uid, hFind⟩ := (h.exact bundle).mp hMem
    obtain ⟨accountId', uid', hFind'⟩ := (h.exact other).mp hOther
    obtain ⟨rfl, rfl⟩ := h.stored uid accountId bundle hFind
    obtain ⟨rfl, rfl⟩ := h.stored uid' accountId' other hFind'
    rw [hUid] at hFind
    exact Option.some.inj (hFind.symm.trans hFind')

namespace LowMemoryKiller

variable {event : PressureEvent} {s : ReclaimPriorityManager}

/-- The rounds of an event, from a manager whose set can be scanned. -/
theorem attemptRounds_orderly {killer : KillerState} {minPrio : Int} {targetBuf targetKillKb : Nat}
    (hManager : killer.manager = s) (hScan : Scannable s)
    (hTarget : 0 < targetKillKb →
      (targetKillKb : Int) = targetBuf - toUnsigned (event.getCurrentBuffer 0)) :
    Orderly event targetBuf s
      (attemptRounds event minPrio targetBuf targetKillKb maxKillCntPerEvent 0 killer).1
      (attemptRounds event minPrio targetBuf targetKillKb maxKillCntPerEvent 0 killer).2.manager := by
  subst hManager
  have hLength := attemptRounds_length event minPrio targetBuf targetKillKb maxKillCntPerEvent 0 killer
  have hAttempts := @attemptRounds_attempts event minPrio killer targetBuf targetKillKb
    maxKillCntPerEvent 0 hScan
  have hContinued := fun before attempt next after => @attemptRounds_continued event minPrio killer
    targetBuf targetKillKb maxKillCntPerEvent 0 before after attempt next le_rfl
  generalize attemptRounds event minPrio targetBuf targetKillKb maxKillCntPerEvent 0 killer = outcome
    at hLength hAttempts hContinued ⊢
  obtain ⟨attempts, last⟩ := outcome
  dsimp only at hLength hAttempts hContinued ⊢
  exact
    { atMost := hLength
      taken := by
        intro attempt hAttempt
        obtain ⟨bundle, hMem, -, -, hKey, -⟩ := hAttempts.attempted attempt hAttempt
        exact ⟨bundle, hMem, hKey⟩
      distinct := hAttempts.ordered.imp And.left
      descending := hAttempts.ordered.imp And.right
      continued := by
        intro before attempt next after hSplit
        obtain ⟨hNext, hLow, -⟩ := hContinued before attempt next after hSplit
        exact ⟨hNext, hLow⟩
      freed := by
        intro before attempt next after hSplit hInt
        obtain ⟨-, -, hBelow⟩ := hContinued before attempt next after hSplit
        have hShort : (before ++ [attempt]).length ≤ 2 := by
          rw [hSplit] at hLength
          simp only [List.length_append, List.length_cons, List.length_nil, maxKillCntPerEvent]
            at hLength ⊢
          omega
        have hPositive : ∀ made ∈ before ++ [attempt], 0 < made.freedBuf := by
          intro made hMade
          obtain ⟨front, other, last, hWhole⟩ := exists_followed next after hMade
          rw [hSplit, List.append_cons, hWhole] at hContinued
          exact (hContinued front made other last rfl).2.1.freed
        have hExact := countedKb_eq hShort fun made hMade => ⟨hPositive made hMade, hInt made hMade⟩
        rw [zero_add] at hBelow
        have hSum := hTarget (Nat.zero_lt_of_lt hBelow)
        omega
      waiting := by
        intro attempt hAttempt hOld
        obtain ⟨bundle, hMem, -, -, hKey, hAccount, hAfter⟩ := hAttempts.attempted attempt hAttempt
        have hFind := hScan.located bundle hMem
        rw [← Attempt.uid_eq hKey, ← hAccount, ← hAttempts.states.findBundle] at hFind
        exact ⟨bundle, hFind, hAfter.resolve_left hOld⟩ }

/-- No attempt at all. -/
theorem orderly_nil (targetBuf : Nat) (s : ReclaimPriorityManager) : Orderly event targetBuf s [] s := by
  constructor <;> simp

/-- The attempts of an event are few, on different bundles, from the end of the set on, each one
after the last freed something and memory was still low, and the bundles of them wait. -/
theorem attemptedByPsi_orderly {killer : KillerState} (hAgrees : SetAgrees killer.manager)
    (hIntact : ∀ bundle ∈ killer.manager.prioList, (killer.manager.bundles bundle).Intact)
    (event : PressureEvent) (levelMap : Std.ExtTreeMap Nat Int) :
    (attemptedByPsi event levelMap killer).2 = psiHandlerInner event levelMap killer ∧
      Orderly event
        (queryKillMemoryPriorityPair levelMap (toUnsigned (event.getCurrentBuffer 0))).targetBufKB
        killer.manager (attemptedByPsi event levelMap killer).1
        (psiHandlerInner event levelMap killer).manager := by
  refine ⟨attemptedByPsi_snd event levelMap killer, ?_⟩
  rw [← attemptedByPsi_snd event levelMap killer, attemptedByPsi]
  dsimp only
  have hScan := hAgrees.scannable hIntact
  split_ifs with hFailed hNone hTarget
  · exact orderly_nil _ _
  · exact orderly_nil _ _
  · refine attemptRounds_orderly rfl hScan ?_
    intro _
    omega
  · refine attemptRounds_orderly rfl hScan ?_
    intro hPositive
    exact absurd hPositive (lt_irrefl 0)

end LowMemoryKiller

namespace Scenario

/-- Two bundles in the background. -/
def twoBackground : Service :=
  (reached [event .createProcess 1 20000001, event .createProcess 2 20000002,
    event .background 1 20000001, event .background 2 20000002]).get (by decide)

/-- Two processes in the background are reached by a run. -/
theorem run_twoBackground : Service.Run platform Service.noAccountSwitch twoBackground :=
  run_reached (by simp [Service.noAccountSwitch, event]) (by decide)

/-- Their bundles are intact. -/
theorem intact_twoBackground (bundle : BundleRef) :
    (twoBackground.manager.bundles bundle).Intact :=
  (run_twoBackground.wellFormed.covered bundle).toShaped.intact

/-- Their set agrees with the map. -/
theorem setAgrees_twoBackground : SetAgrees twoBackground.manager := by
  have hBoth := Service.setOrdered_of_run run_twoBackground (.start _) (.start _)
  exact setAgrees_of_ordered hBoth.1 hBoth.2

/-- An event that goes on for as long as it may; memory for a copy may be missing. -/
def lowBuffer (copyBundle : Nat → Nat → Bool) : PressureEvent :=
  ⟨fun _ => 300000, fun _ => 10, fun _ _ => 100, copyBundle⟩

/-- The two bundles are attempted from the greater one on. -/
theorem attemptedByPsi_orderly_twoBackground :
    ((LowMemoryKiller.attemptedByPsi (lowBuffer fun _ _ => true) ∅
        ⟨twoBackground.manager, 0, []⟩).1.map fun attempt => attempt.bundle.uid) =
      [20000002, 20000001] ∧
    Orderly (lowBuffer fun _ _ => true) 512000 twoBackground.manager
      (LowMemoryKiller.attemptedByPsi (lowBuffer fun _ _ => true) ∅
        ⟨twoBackground.manager, 0, []⟩).1
      (LowMemoryKiller.psiHandlerInner (lowBuffer fun _ _ => true) ∅
        ⟨twoBackground.manager, 0, []⟩).manager :=
  ⟨by decide +kernel,
    (@LowMemoryKiller.attemptedByPsi_orderly ⟨twoBackground.manager, 0, []⟩
      setAgrees_twoBackground (fun bundle _ => intact_twoBackground bundle)
      (lowBuffer fun _ _ => true) ∅).2⟩

/-- The copy of the greater bundle fails in the first round and succeeds in the second. -/
theorem attemptedByPsi_copyFails : ∃ sys, Service.Run platform Service.noAccountSwitch sys ∧
    SetAgrees sys.manager ∧
    ¬ (LowMemoryKiller.attemptedByPsi (lowBuffer fun round position => round != 0 || position != 0) ∅
      ⟨sys.manager, 0, []⟩).1.Pairwise fun first second => second.sortKey < first.sortKey :=
  ⟨twoBackground, run_twoBackground, setAgrees_twoBackground, by decide +kernel⟩

end Scenario
end MemMgr
