import MemMgr.KillRounds

/-! The levels of the killer. A buffer reading decides which priorities are killed and how much is
to be freed, and which level is reported while it lasts. -/
namespace MemMgr.LowMemoryKiller

open Std (ExtTreeMap)

/-- The table that is searched. -/
def killLevels (levelMap : ExtTreeMap Nat Int) : List (Nat × Int) :=
  if levelMap.isEmpty then minPrioTable else levelMap.toList

/-- What an event settles before the first kill. -/
structure KillDecision where
  minPrio : Int
  targetKillKb : Nat
  deriving DecidableEq

def killDecision (levelMap : ExtTreeMap Nat Int) (curBuf : Nat) : KillDecision :=
  let memPrio := queryKillMemoryPriorityPair levelMap curBuf
  { minPrio := memPrio.minPrio
    targetKillKb :=
      if curBuf > 0 ∧ memPrio.targetBufKB > curBuf then memPrio.targetBufKB - curBuf else 0 }

/-- No priority is spared that the other decision kills, and no less is to be freed. -/
structure KillDecision.AtLeastAsAggressive (first second : KillDecision) : Prop where
  minPrio : first.minPrio ≤ second.minPrio
  targetKillKb : second.targetKillKb ≤ first.targetKillKb

/-- The priorities of the table rise with the memory. -/
def Increasing (levels : List (Nat × Int)) : Prop :=
  levels.Pairwise fun lower higher => lower.2 < higher.2

instance (levels : List (Nat × Int)) : Decidable (Increasing levels) :=
  inferInstanceAs (Decidable (List.Pairwise _ _))

/-- The first threshold above the buffer is the one at this position, counted from 1. -/
def InBand (currBufferKB : Nat) (levels : List (Nat × Int)) (killLevel : Nat) : Prop :=
  ∃ index, levels.findIdx? (fun level => currBufferKB < level.1) = some index ∧ killLevel = index + 1

/-- Some threshold of the table is above the buffer. -/
def Pressed (currBufferKB : Nat) (levels : List (Nat × Int)) : Prop :=
  ∃ level ∈ levels, currBufferKB < level.1

instance (currBufferKB : Nat) (levels : List (Nat × Int)) : Decidable (Pressed currBufferKB levels) :=
  inferInstanceAs (Decidable (∃ level ∈ levels, _))

variable {levelMap : ExtTreeMap Nat Int} {levels : List (Nat × Int)} {event : PressureEvent}
variable {killer : KillerState} {minPrio : Int}

/-- The handler acts on the decision alone. -/
theorem psiHandlerInner_eq_decision (event : PressureEvent) (levelMap : ExtTreeMap Nat Int)
    (killer : KillerState) : psiHandlerInner event levelMap killer =
      let curBuf := toUnsigned (event.getCurrentBuffer 0)
      if curBuf = maxBufferKB then killer
      else
        let decision := killDecision levelMap curBuf
        let memPrio := queryKillMemoryPriorityPair levelMap curBuf
        let killer := { killer with killLevel := memPrio.killLevel }
        if decision.minPrio < reclaimPriorityMin ∨ decision.minPrio > reclaimPriorityMax then killer
        else killRounds event decision.minPrio memPrio.targetBufKB decision.targetKillKb
          maxKillCntPerEvent 0 killer := rfl

/-- The priority that the loop leaves is that of the first level above the buffer. -/
theorem firstLevelAbove_prio (currBufferKB : Nat) (levels : List (Nat × Int)) (killLevel : Nat) :
    (firstLevelAbove currBufferKB levels killLevel).2.1 =
      ((levels.find? fun level => currBufferKB < level.1).map Prod.snd).getD
        (reclaimPriorityUnknown + 1) := by
  induction levels generalizing killLevel with
  | nil => rfl
  | cons level levels ih =>
      rw [firstLevelAbove]
      by_cases hAbove : currBufferKB < level.1
      · simp [hAbove]
      · simp [hAbove, ih]

/-- The levels passed are counted also when none is found. -/
theorem firstLevelAbove_killLevel (currBufferKB : Nat) (levels : List (Nat × Int)) (killLevel : Nat) :
    (firstLevelAbove currBufferKB levels killLevel).2.2 = killLevel +
      ((levels.findIdx? fun level => currBufferKB < level.1).map (· + 1)).getD levels.length := by
  induction levels generalizing killLevel with
  | nil => rfl
  | cons level levels ih =>
      rw [firstLevelAbove, List.findIdx?_cons]
      by_cases hAbove : currBufferKB < level.1
      · simp [hAbove]
      · simp only [hAbove, ↓reduceIte, ih, List.length_cons, decide_false, Bool.false_eq_true]
        cases levels.findIdx? fun level => currBufferKB < level.1 <;> simp <;> omega

/-- The least priority to kill is that of the first level above the buffer, or one past the
greatest priority. -/
theorem queryKillMemoryPriorityPair_minPrio (levelMap : ExtTreeMap Nat Int) (currBufferKB : Nat) :
    (queryKillMemoryPriorityPair levelMap currBufferKB).minPrio =
      (((killLevels levelMap).find? fun level => currBufferKB < level.1).map Prod.snd).getD
        (reclaimPriorityUnknown + 1) :=
  firstLevelAbove_prio currBufferKB (killLevels levelMap) 0

/-- The kill level counts the levels from one, and is that of the first level above the buffer. -/
theorem queryKillMemoryPriorityPair_killLevel (levelMap : ExtTreeMap Nat Int) (currBufferKB : Nat) :
    (queryKillMemoryPriorityPair levelMap currBufferKB).killLevel =
      (((killLevels levelMap).findIdx? fun level => currBufferKB < level.1).map (· + 1)).getD
        (killLevels levelMap).length := by
  have hLevel := firstLevelAbove_killLevel currBufferKB (killLevels levelMap) 0
  rw [zero_add] at hLevel
  exact hLevel

/-- Below some level, the buffer lies in one of the bands. -/
theorem pressed_iff {currBufferKB : Nat} : Pressed currBufferKB levels ↔ ∃ k, InBand currBufferKB levels k := by
  constructor
  · rintro ⟨level, hMem, hAbove⟩
    cases hIndex : levels.findIdx? fun level => currBufferKB < level.1 with
    | none =>
        have hNone := List.findIdx?_eq_none_iff.mp hIndex level hMem
        simp [hAbove] at hNone
    | some index => exact ⟨index + 1, index, hIndex, rfl⟩
  · rintro ⟨k, index, hIndex, -⟩
    obtain ⟨hLength, hAbove, -⟩ := List.findIdx?_eq_some_iff_getElem.mp hIndex
    exact ⟨levels[index], List.getElem_mem hLength, of_decide_eq_true hAbove⟩

/-! ### The decision -/

/-- What the first match of a rising table says, or the value for no match. -/
theorem find?_prio_le {c1 c2 : Nat} (hIncreasing : Increasing levels) (hLe : c1 ≤ c2) (unmatched : Int) :
    ((levels.find? fun level => c1 < level.1).map Prod.snd).getD unmatched ≤
        ((levels.find? fun level => c2 < level.1).map Prod.snd).getD unmatched ∨
      unmatched ≤ ((levels.find? fun level => c1 < level.1).map Prod.snd).getD unmatched ∧
        unmatched ≤ ((levels.find? fun level => c2 < level.1).map Prod.snd).getD unmatched := by
  induction levels with
  | nil => exact Or.inl le_rfl
  | cons level levels ih =>
      obtain ⟨hFirst, hRest⟩ := List.pairwise_cons.mp hIncreasing
      by_cases hHigh : c2 < level.1
      · left
        simp [hHigh, hLe.trans_lt hHigh]
      · by_cases hLow : c1 < level.1
        · rw [List.find?_cons_of_pos (by simpa using hLow), List.find?_cons_of_neg (by simpa using hHigh)]
          cases hFound : levels.find? fun level => c2 < level.1 with
          | none =>
              simp only [Option.map_some, Option.getD_some, Option.map_none, Option.getD_none]
              omega
          | some later =>
              left
              exact (hFirst later (List.mem_of_find?_eq_some hFound)).le
        · rw [List.find?_cons_of_neg (by simpa using hLow), List.find?_cons_of_neg (by simpa using hHigh)]
          exact ih hRest

/-- The built-in table is sorted by memory and by priority. -/
theorem increasing_minPrioTable : Increasing minPrioTable := by decide

/-- The levels in use are sorted when those of the configuration are. -/
theorem increasing_killLevels (hIncreasing : Increasing levelMap.toList) :
    Increasing (killLevels levelMap) := by
  rw [killLevels]
  split_ifs
  · exact increasing_minPrioTable
  · exact hIncreasing

/-- With less memory no priority is spared that would be killed with more, and no less is to be
freed, but a reading of 0 sets no amount to be freed. -/
theorem killDecision_antitone (hIncreasing : Increasing levelMap.toList) {c1 c2 : Nat} (hLe : c1 ≤ c2) :
    ((killDecision levelMap c1).minPrio ≤ (killDecision levelMap c2).minPrio ∨
        reclaimPriorityMax < (killDecision levelMap c1).minPrio ∧
          reclaimPriorityMax < (killDecision levelMap c2).minPrio) ∧
      (0 < c1 → (killDecision levelMap c2).targetKillKb ≤ (killDecision levelMap c1).targetKillKb) ∧
      (killDecision levelMap 0).targetKillKb = 0 := by
  refine ⟨?_, ?_, rfl⟩
  · have hPrio := find?_prio_le (increasing_killLevels hIncreasing) hLe (reclaimPriorityUnknown + 1)
    rw [← queryKillMemoryPriorityPair_minPrio, ← queryKillMemoryPriorityPair_minPrio] at hPrio
    exact hPrio.imp_right fun hBoth => ⟨hBoth.1, hBoth.2⟩
  · intro hPositive
    have hTarget : (queryKillMemoryPriorityPair levelMap c1).targetBufKB =
      (queryKillMemoryPriorityPair levelMap c2).targetBufKB := rfl
    simp only [killDecision, hTarget]
    split_ifs <;> omega

/-- Two configured levels. -/
def twoLevels : ExtTreeMap Nat Int := (ExtTreeMap.insert ∅ 102400 0).insert 204800 400

/-- The theorem at a configuration of two levels and two buffers. -/
theorem killDecision_antitone_twoLevels :
    ((killDecision twoLevels 100).minPrio ≤ (killDecision twoLevels 150000).minPrio ∨
        reclaimPriorityMax < (killDecision twoLevels 100).minPrio ∧
          reclaimPriorityMax < (killDecision twoLevels 150000).minPrio) ∧
      (0 < 100 → (killDecision twoLevels 150000).targetKillKb ≤ (killDecision twoLevels 100).targetKillKb) ∧
      (killDecision twoLevels 0).targetKillKb = 0 :=
  killDecision_antitone (by decide) (by decide)

/-- One level, with a priority above the one for no match. -/
def highLevel : ExtTreeMap Nat Int := ExtTreeMap.insert ∅ 102400 2000

/-- The reading 0 sets no amount, and a configured priority may be above the one for no match. -/
theorem not_antitone_at_zero :
    ¬ (killDecision ∅ 0).AtLeastAsAggressive (killDecision ∅ 1) ∧
      ∃ levelMap : ExtTreeMap Nat Int, Increasing levelMap.toList ∧ levelMap.isEmpty = false ∧
        ¬ (killDecision levelMap 1).AtLeastAsAggressive (killDecision levelMap 102400) := by
  refine ⟨fun h => ?_, highLevel, by decide, by decide, fun h => ?_⟩
  · exact absurd h.targetKillKb (by decide)
  · exact absurd h.minPrio (by decide)

/-! ### The level -/

/-- Enough memory is read after an attempt that freed some. -/
def Recovers (event : PressureEvent) (targetBuf : Nat) (attempt : Attempt) : Prop :=
  0 < attempt.freedBuf ∧
    let availBuf := event.getCurrentBuffer (attempt.round + 1)
    0 ≤ availBuf ∧ availBuf < maxBufferKB ∧ targetBuf ≤ toUnsigned availBuf

/-- The event ends because memory has recovered. -/
def Recovered (event : PressureEvent) (levelMap : ExtTreeMap Nat Int) (killer : KillerState) : Prop :=
  let memPrio := queryKillMemoryPriorityPair levelMap (toUnsigned (event.getCurrentBuffer 0))
  ∃ attempt ∈ (attemptedByPsi event levelMap killer).1, Recovers event memPrio.targetBufKB attempt

/-- The level that is left says in which band the buffer was, and 0 for none or once memory has
recovered. -/
structure LevelFaithful (event : PressureEvent) (levelMap : ExtTreeMap Nat Int) (killer : KillerState) :
    Prop where
  clear : ¬ Pressed (toUnsigned (event.getCurrentBuffer 0)) (killLevels levelMap) →
    (psiHandlerInner event levelMap killer).killLevel = 0
  band : ¬ Recovered event levelMap killer → ∀ k,
    InBand (toUnsigned (event.getCurrentBuffer 0)) (killLevels levelMap) k →
      (psiHandlerInner event levelMap killer).killLevel = k
  reset : Recovered event levelMap killer → (psiHandlerInner event levelMap killer).killLevel = 0
  reported : 0 < (psiHandlerInner event levelMap killer).killLevel →
    InBand (toUnsigned (event.getCurrentBuffer 0)) (killLevels levelMap)
      (psiHandlerInner event levelMap killer).killLevel

/-- The killing of a bundle does not touch the kill level of the killer. -/
theorem killOneBundleByPrio_killLevel (round : Nat) :
    (killOneBundleByPrio event round minPrio killer).1.killLevel = killer.killLevel := by
  rw [killOneBundleByPrio]
  dsimp only
  rw [killAll_eq]
  split
  · rfl
  · split_ifs
    · rfl
    · rfl
    · rfl
    · rw [killAll_eq]

/-- The rounds leave the level as it is until memory recovers. -/
theorem attemptRounds_killLevel (targetBuf targetKillKb left currKillKb : Nat) :
    ((attemptRounds event minPrio targetBuf targetKillKb left currKillKb killer).2.killLevel = 0 ∧
      ∃ attempt ∈ (attemptRounds event minPrio targetBuf targetKillKb left currKillKb killer).1,
        Recovers event targetBuf attempt) ∨
    ((attemptRounds event minPrio targetBuf targetKillKb left currKillKb killer).2.killLevel =
        killer.killLevel ∧
      ∀ attempt ∈ (attemptRounds event minPrio targetBuf targetKillKb left currKillKb killer).1,
        ¬ Recovers event targetBuf attempt) := by
  induction left generalizing currKillKb killer with
  | zero => exact Or.inr ⟨rfl, fun attempt hAttempt => absurd hAttempt List.not_mem_nil⟩
  | succ left ih =>
      have hLevel := @killOneBundleByPrio_killLevel event killer minPrio
        (maxKillCntPerEvent - (left + 1))
      have hNone := @killOneBundleByPrio_of_none event minPrio killer (maxKillCntPerEvent - (left + 1))
      rw [attemptRounds]
      dsimp only
      generalize killOneBundleByPrio event (maxKillCntPerEvent - (left + 1)) minPrio killer = outcome
        at hLevel hNone ⊢
      obtain ⟨next, freedBuf⟩ := outcome
      dsimp only at hLevel hNone ⊢
      cases hFound : (killer.manager.getOneKillableBundle
          (event.copyBundle (maxKillCntPerEvent - (left + 1))) minPrio).1 with
      | none =>
          rw [if_pos (hNone hFound).2.le]
          exact Or.inr ⟨hLevel, by simp⟩
      | some bundle =>
          dsimp only [Option.toList_some, List.map_cons, List.map_nil]
          split_ifs with hFreed hFailed hReached hMore
          · refine Or.inr ⟨hLevel, fun attempt hAttempt hRecovers => ?_⟩
            rw [List.mem_singleton.mp hAttempt] at hRecovers
            exact absurd hRecovers.1 (not_lt.mpr hFreed)
          · refine Or.inr ⟨hLevel, fun attempt hAttempt hRecovers => ?_⟩
            rw [List.mem_singleton.mp hAttempt] at hRecovers
            obtain ⟨-, hValid, hRead, -⟩ := hRecovers
            dsimp only at hValid hRead
            omega
          · rw [not_or, not_lt, not_le] at hFailed
            exact Or.inl ⟨rfl, _, List.mem_singleton_self _, not_le.mp hFreed, hFailed.1, hFailed.2,
              hReached⟩
          · have hFirst : ¬ Recovers event targetBuf
                ⟨maxKillCntPerEvent - (left + 1), bundle, freedBuf⟩ :=
              fun hRecovers => hReached hRecovers.2.2.2
            rcases @ih next ((currKillKb + toUnsigned freedBuf) % 2 ^ 32) with
              ⟨hReset, attempt, hAttempt, hRecovers⟩ | ⟨hKept, hNever⟩
            · exact Or.inl ⟨hReset, attempt, List.mem_cons_of_mem _ hAttempt, hRecovers⟩
            · refine Or.inr ⟨hKept.trans hLevel, ?_⟩
              intro attempt hAttempt
              rcases List.mem_cons.mp hAttempt with rfl | hLater
              · exact hFirst
              · exact hNever attempt hLater
          · refine Or.inr ⟨hLevel, fun attempt hAttempt hRecovers => ?_⟩
            rw [List.mem_singleton.mp hAttempt] at hRecovers
            exact hReached hRecovers.2.2.2

/-- The level an event leaves: the one that was found, unless memory recovers. -/
theorem psiHandlerInner_killLevel (hRead : toUnsigned (event.getCurrentBuffer 0) ≠ maxBufferKB) :
    Recovered event levelMap killer ∧ (psiHandlerInner event levelMap killer).killLevel = 0 ∨
      ¬ Recovered event levelMap killer ∧ (psiHandlerInner event levelMap killer).killLevel =
        (queryKillMemoryPriorityPair levelMap (toUnsigned (event.getCurrentBuffer 0))).killLevel := by
  rw [← attemptedByPsi_snd, Recovered, attemptedByPsi]
  dsimp only
  rw [if_neg hRead]
  split_ifs
  · exact Or.inr ⟨by simp, rfl⟩
  all_goals
    rcases @attemptRounds_killLevel event _ _ _ _ _ _ with ⟨hReset, hSome⟩ | ⟨hKept, hNone⟩
    · exact Or.inl ⟨hSome, hReset⟩
    · refine Or.inr ⟨?_, hKept⟩
      rintro ⟨attempt, hAttempt, hRecovers⟩
      exact hNone attempt hAttempt hRecovers

/-- Without a threshold above the buffer nothing is attempted. -/
theorem not_recovered_of_not_pressed
    (hNone : ¬ Pressed (toUnsigned (event.getCurrentBuffer 0)) (killLevels levelMap)) :
    ¬ Recovered event levelMap killer := by
  have hFind : (killLevels levelMap).find?
      (fun level => toUnsigned (event.getCurrentBuffer 0) < level.1) = none := by
    apply List.find?_eq_none.mpr
    intro level hLevel hAbove
    exact hNone ⟨level, hLevel, of_decide_eq_true hAbove⟩
  have hPrio := queryKillMemoryPriorityPair_minPrio levelMap (toUnsigned (event.getCurrentBuffer 0))
  rw [hFind, Option.map_none, Option.getD_none] at hPrio
  have hGate : reclaimPriorityUnknown + 1 < reclaimPriorityMin ∨
      reclaimPriorityUnknown + 1 > reclaimPriorityMax := by decide
  rw [Recovered, attemptedByPsi]
  dsimp only
  rw [hPrio]
  simp only [hGate, ↓reduceIte]
  split_ifs <;> simp

/-- There is always a level, since the built-in table replaces an empty map. -/
theorem killLevels_ne_nil (levelMap : ExtTreeMap Nat Int) : killLevels levelMap ≠ [] := by
  rw [killLevels]
  split_ifs with hEmpty
  · decide
  · intro hNil
    rw [← ExtTreeMap.isEmpty_toList, hNil] at hEmpty
    exact hEmpty rfl

/-- The level is faithful in just the events that read a buffer below some threshold. Above all of
them it is left at the last one. -/
theorem levelFaithful_iff (event : PressureEvent) (levelMap : ExtTreeMap Nat Int) (killer : KillerState)
    (hRead : toUnsigned (event.getCurrentBuffer 0) < maxBufferKB) :
    LevelFaithful event levelMap killer ↔
      Pressed (toUnsigned (event.getCurrentBuffer 0)) (killLevels levelMap) := by
  have hLevel := @psiHandlerInner_killLevel levelMap event killer hRead.ne
  rw [queryKillMemoryPriorityPair_killLevel] at hLevel
  constructor
  · intro hFaithful
    by_contra hNone
    have hIndex : (killLevels levelMap).findIdx?
        (fun level => toUnsigned (event.getCurrentBuffer 0) < level.1) = none := by
      apply List.findIdx?_eq_none_iff.mpr
      intro level hMem
      exact decide_eq_false fun hAbove => hNone ⟨level, hMem, hAbove⟩
    rw [hIndex, Option.map_none, Option.getD_none, hFaithful.clear hNone] at hLevel
    rcases hLevel with ⟨hRecovered, -⟩ | ⟨-, hLength⟩
    · exact not_recovered_of_not_pressed hNone hRecovered
    · exact killLevels_ne_nil levelMap (List.length_eq_zero_iff.mp hLength.symm)
  · intro hPressed
    obtain ⟨k, hBand⟩ := pressed_iff.mp hPressed
    obtain ⟨index, hIndex, rfl⟩ := hBand
    rw [hIndex, Option.map_some, Option.getD_some] at hLevel
    exact
      { clear := fun hNone => absurd hPressed hNone
        band := by
          rintro hNot k ⟨other, hOther, rfl⟩
          rw [hIndex] at hOther
          rcases hLevel with ⟨hRecovered, -⟩ | ⟨-, hKept⟩
          · exact absurd hRecovered hNot
          · rw [hKept, Option.some.inj hOther]
        reset := by
          intro hRecovered
          rcases hLevel with ⟨-, hReset⟩ | ⟨hNot, -⟩
          · exact hReset
          · exact absurd hRecovered hNot
        reported := by
          intro hPositive
          rcases hLevel with ⟨-, hReset⟩ | ⟨-, hKept⟩
          · omega
          · exact ⟨index, hIndex, hKept⟩ }

end MemMgr.LowMemoryKiller

namespace MemMgr.Scenario

open LowMemoryKiller

/-- The theorem at a buffer of 300000 kB and the built-in levels. -/
theorem levelFaithful_lowBuffer :
    LevelFaithful (lowBuffer fun _ _ => true) ∅ ⟨twoBackground.manager, 0, []⟩ ↔
      Pressed 300000 minPrioTable :=
  levelFaithful_iff (lowBuffer fun _ _ => true) ∅ ⟨twoBackground.manager, 0, []⟩ (by decide)

/-- More memory than any level of the table asks for. -/
def highBuffer : PressureEvent := ⟨fun _ => 600000, fun _ => 10, fun _ _ => 100, fun _ _ => true⟩

/-- The level stays at the one of the last band. -/
theorem not_levelFaithful_highBuffer : ∃ event levelMap killer,
    toUnsigned (event.getCurrentBuffer 0) < maxBufferKB ∧ ¬ LevelFaithful event levelMap killer := by
  refine ⟨highBuffer, ∅, ⟨twoBackground.manager, 0, []⟩, by decide, fun hFaithful => ?_⟩
  have hLevel := hFaithful.clear (by decide)
  exact absurd hLevel (by decide)

end MemMgr.Scenario
