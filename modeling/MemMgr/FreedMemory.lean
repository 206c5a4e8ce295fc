import MemMgr.ProcStat
import MemMgr.KillRounds

/-! The memory a round counts as freed. It is the size of every process that was read and does not
block, whether the signal reached it or not. -/
namespace MemMgr

namespace KillAnswer

variable (answer : KillAnswer)

/-- What is counted for the process. -/
def freed : Int := (killOneProcessByPid answer).1

/-- The process was sent the signal. -/
def Killed : Prop := (killOneProcessByPid answer).2 = true

/-- The resident size that was read. -/
def size : Int := (answer.procInfo.map ProcInfo.size).getD 0

/-- The process was read and does not block, but may not be sent the signal. -/
def Refused : Prop :=
  answer.killed = false ∧ ∃ procInfo, answer.procInfo = some procInfo ∧ procInfo.status ≠ "D"

instance : Decidable answer.Killed := inferInstanceAs (Decidable (_ = true))

variable {answer}

/-- The three ways of a kill. -/
theorem freed_cases (answer : KillAnswer) :
    answer.Killed ∧ ¬ answer.Refused ∧ answer.freed = answer.size ∨
    ¬ answer.Killed ∧ answer.Refused ∧ answer.freed = answer.size ∨
    ¬ answer.Killed ∧ ¬ answer.Refused ∧ answer.freed = 0 := by
  obtain ⟨procInfo, killed⟩ := answer
  cases procInfo with
  | none =>
      refine Or.inr (Or.inr ⟨Bool.false_ne_true, ?_, rfl⟩)
      rintro ⟨-, procInfo, hInfo, -⟩
      cases hInfo
  | some procInfo =>
      by_cases hBlocked : procInfo.status = "D"
      · refine Or.inr (Or.inr ⟨?_, ?_, ?_⟩)
        · simp [Killed, killOneProcessByPid, hBlocked]
        · rintro ⟨-, other, hInfo, hRuns⟩
          cases hInfo
          exact hRuns hBlocked
        · simp [freed, killOneProcessByPid, hBlocked]
      · cases killed with
        | true =>
            refine Or.inl ⟨?_, fun hRefused => Bool.noConfusion hRefused.1, ?_⟩
            · simp [Killed, killOneProcessByPid, hBlocked]
            · simp [freed, killOneProcessByPid, hBlocked, size]
        | false =>
            refine Or.inr (Or.inl ⟨?_, ⟨rfl, procInfo, rfl, hBlocked⟩, ?_⟩)
            · simp [Killed, killOneProcessByPid, hBlocked]
            · simp [freed, killOneProcessByPid, hBlocked, size]

/-- The sizes of the processes that were really killed. -/
def killedSize (answers : List KillAnswer) : Int :=
  ((answers.filter fun answer => answer.Killed).map size).sum

def freedSize (answers : List KillAnswer) : Int := (answers.map freed).sum

/-- The memory of the killed processes, process by process. -/
theorem killedSize_cons (answer : KillAnswer) (answers : List KillAnswer) :
    killedSize (answer :: answers) =
      (if answer.Killed then answer.size else 0) + killedSize answers := by
  rw [killedSize, List.filter_cons]
  split_ifs with hKilled hIs
  · rw [List.map_cons, List.sum_cons]
    rfl
  · exact absurd (of_decide_eq_true hKilled) hIs
  · exact absurd (decide_eq_true (by assumption)) hKilled
  · rw [zero_add]
    rfl

/-- The memory that the killer counts, process by process. -/
theorem freedSize_cons (answer : KillAnswer) (answers : List KillAnswer) :
    freedSize (answer :: answers) = answer.freed + freedSize answers := by
  rw [freedSize, List.map_cons, List.sum_cons]
  rfl

/-- The killer never counts less than the processes that died held. -/
theorem killedSize_le_freedSize {answers : List KillAnswer} (hSize : ∀ answer ∈ answers, 0 ≤ answer.size) :
    killedSize answers ≤ freedSize answers := by
  induction answers with
  | nil => exact le_rfl
  | cons answer answers ih =>
      have hRest := ih fun other hOther => hSize other (List.mem_cons_of_mem _ hOther)
      have hFirst := hSize answer List.mem_cons_self
      rw [killedSize_cons, freedSize_cons]
      rcases freed_cases answer with ⟨hKilled, -, hFreed⟩ | ⟨hNot, -, hFreed⟩ | ⟨hNot, -, hFreed⟩
      · rw [if_pos hKilled]
        omega
      · rw [if_neg hNot]
        omega
      · rw [if_neg hNot]
        omega

/-- The two sums differ by what refused the signal. -/
theorem freedSize_eq_iff {answers : List KillAnswer} (hSize : ∀ answer ∈ answers, 0 ≤ answer.size) :
    freedSize answers = killedSize answers ↔
      ∀ answer ∈ answers, answer.Refused → answer.size = 0 := by
  induction answers with
  | nil => simp [freedSize, killedSize]
  | cons answer answers ih =>
      have hRestSize : ∀ other ∈ answers, 0 ≤ other.size :=
        fun other hOther => hSize other (List.mem_cons_of_mem _ hOther)
      have hRest := killedSize_le_freedSize hRestSize
      have hFirst := hSize answer List.mem_cons_self
      rw [List.forall_mem_cons, ← ih hRestSize, killedSize_cons, freedSize_cons]
      rcases freed_cases answer with ⟨hKilled, hRefused, hFreed⟩ | ⟨hNot, hRefused, hFreed⟩ |
        ⟨hNot, hRefused, hFreed⟩
      · rw [if_pos hKilled]
        simp only [hRefused, false_imp_iff, true_and]
        omega
      · rw [if_neg hNot]
        simp only [hRefused, true_imp_iff]
        omega
      · rw [if_neg hNot]
        simp only [hRefused, false_imp_iff, true_and]
        omega

end KillAnswer

/-- What is found of a process when it is to be killed: its two files, if they can be read, and
whether the signal can be sent. -/
structure FoundProc where
  stat : Option String
  statm : Option String
  killed : Bool

def FoundProc.answer (found : FoundProc) (pid : Int) : KillAnswer :=
  ⟨getPidProcInfo pid found.stat found.statm, found.killed⟩

/-- A pressure event with what is found at each kill, by the number of kills before it. -/
structure ProcEvent where
  getCurrentBuffer : Nat → Int
  getSystemCurTime : Nat → Int
  found : Nat → Int → FoundProc
  copyBundle : Nat → Nat → Bool

def ProcEvent.pressure (event : ProcEvent) : PressureEvent where
  getCurrentBuffer := event.getCurrentBuffer
  getSystemCurTime := event.getSystemCurTime
  killOneProcessByPid count pid := ((event.found count pid).answer pid).freed
  copyBundle := event.copyBundle

/-- No size is negative. -/
theorem getPidProcInfo_size {pid : Int} {stat statm : Option String} {procInfo : ProcInfo}
    (hInfo : getPidProcInfo pid stat statm = some procInfo) : 0 ≤ procInfo.size := by
  unfold getPidProcInfo at hInfo
  cases stat with
  | none => cases hInfo
  | some stat =>
      dsimp only at hInfo
      split_ifs at hInfo
      cases statm with
      | none => cases hInfo
      | some statm =>
          dsimp only at hInfo
          split at hInfo
          · cases hInfo
          · split_ifs at hInfo with hRange
            cases hInfo
            rw [not_or, not_lt] at hRange
            exact Int.mul_nonneg hRange.1 (by decide)

/-- The size read from `/proc` is never negative. -/
theorem FoundProc.answer_size (found : FoundProc) (pid : Int) : 0 ≤ (found.answer pid).size := by
  rw [KillAnswer.size, answer]
  cases hInfo : getPidProcInfo pid found.stat found.statm with
  | none => exact le_rfl
  | some procInfo => exact getPidProcInfo_size hInfo

namespace LowMemoryKiller

/-- The processes of the bundle that a round chooses and does not leave out. -/
def chosenPids (event : PressureEvent) (round : Nat) (minPrio : Int) (killer : KillerState) : List Int :=
  match (killer.manager.getOneKillableBundle (event.copyBundle round) minPrio).1 with
  | none => []
  | some bundle =>
      if bundle.priority < minPrio then []
      else if event.getSystemCurTime round - bundle.createTime < notToKillDuring then []
      else if bundle.state = .stateWaitingForKill then []
      else bundle.procs.keys

/-- What is found of them, in turn. -/
def chosenAnswers (event : ProcEvent) (round : Nat) (minPrio : Int) (killer : KillerState) :
    List KillAnswer :=
  let quick := (killer.manager.getOneKillableBundle (event.copyBundle round) minPrio).2
  ((chosenPids event.pressure round minPrio killer).zipIdx (killer.killed.length + quick.length)).map
    fun entry => (event.found entry.2 entry.1).answer entry.1

/-- A round frees what it counts as freed. -/
def FreesExactly (event : ProcEvent) (round : Nat) (minPrio : Int) (killer : KillerState) : Prop :=
  (killOneBundleByPrio event.pressure round minPrio killer).2 =
    KillAnswer.killedSize (chosenAnswers event round minPrio killer)

/-- What the killer counts is the sum of what each call of the killing of one process returns. -/
theorem killAll_freed (event : PressureEvent) (pids : List Int) (killer : KillerState) :
    (killAll event pids killer).2 = ((pids.zipIdx killer.killed.length).map fun entry =>
      event.killOneProcessByPid entry.2 entry.1).sum := by
  induction pids generalizing killer with
  | nil => rfl
  | cons pid pids ih =>
      have hRest := ih { killer with killed := pid :: killer.killed }
      rw [killAll, List.zipIdx_cons, List.map_cons, List.sum_cons]
      exact congrArg (event.killOneProcessByPid killer.killed.length pid + ·) hRest

/-- What a round counts as freed. -/
theorem killOneBundleByPrio_freed (event : ProcEvent) (round : Nat) (minPrio : Int)
    (killer : KillerState) : (killOneBundleByPrio event.pressure round minPrio killer).2 =
      KillAnswer.freedSize (chosenAnswers event round minPrio killer) := by
  rw [killOneBundleByPrio, chosenAnswers, chosenPids, KillAnswer.freedSize]
  have hCopies : event.pressure.copyBundle = event.copyBundle := rfl
  rw [hCopies]
  rcases killer.manager.getOneKillableBundle (event.copyBundle round) minPrio with ⟨found, quick⟩
  dsimp only
  rw [killAll_eq]
  cases found with
  | none => rfl
  | some bundle =>
      dsimp only
      split_ifs
      · rfl
      · rfl
      · rfl
      · dsimp only
        rw [killAll_freed, List.length_append, List.length_reverse, Nat.add_comm, List.map_map]
        rfl

/-- What an attempt counts is the result of a round. -/
theorem attemptRounds_freedBuf (event : PressureEvent) (minPrio : Int)
    (targetBuf targetKillKb left currKillKb : Nat) (killer : KillerState) :
    ∀ attempt ∈ (attemptRounds event minPrio targetBuf targetKillKb left currKillKb killer).1,
      ∃ start, (start.manager.getOneKillableBundle (event.copyBundle attempt.round) minPrio).1 =
          some attempt.bundle ∧
        attempt.freedBuf = (killOneBundleByPrio event attempt.round minPrio start).2 := by
  induction left generalizing currKillKb killer with
  | zero => exact fun attempt hAttempt => absurd hAttempt List.not_mem_nil
  | succ left ih =>
      intro attempt hAttempt
      have hOwn : attempt ∈ (killer.manager.getOneKillableBundle
          (event.copyBundle (maxKillCntPerEvent - (left + 1))) minPrio).1.toList.map (fun bundle =>
            (⟨maxKillCntPerEvent - (left + 1), bundle,
              (killOneBundleByPrio event (maxKillCntPerEvent - (left + 1)) minPrio killer).2⟩ : Attempt)) →
          ∃ start, (start.manager.getOneKillableBundle (event.copyBundle attempt.round) minPrio).1 =
              some attempt.bundle ∧
            attempt.freedBuf = (killOneBundleByPrio event attempt.round minPrio start).2 := by
        intro hMem
        obtain ⟨bundle, hBundle, rfl⟩ := List.mem_map.mp hMem
        exact ⟨killer, Option.mem_toList.mp hBundle, rfl⟩
      rw [attemptRounds] at hAttempt
      dsimp only at hAttempt
      split_ifs at hAttempt
      · exact hOwn hAttempt
      · exact hOwn hAttempt
      · exact hOwn hAttempt
      · rcases List.mem_append.mp hAttempt with hFirst | hLater
        · exact hOwn hFirst
        · exact ih _ _ attempt hLater
      · exact hOwn hAttempt

/-- A round frees what it counts just when no process that is read, does not block and holds memory
refuses the signal, and what an event adds up is what such rounds count. -/
theorem freesExactly_iff (event : ProcEvent) (round : Nat) (minPrio : Int) (killer : KillerState)
    (levelMap : Std.ExtTreeMap Nat Int) :
    (FreesExactly event round minPrio killer ↔
      ∀ answer ∈ chosenAnswers event round minPrio killer, answer.Refused → answer.size = 0) ∧
    ∀ attempt ∈ (attemptedByPsi event.pressure levelMap killer).1, ∃ minPrio start,
      (start.manager.getOneKillableBundle (event.copyBundle attempt.round) minPrio).1 =
          some attempt.bundle ∧
        attempt.freedBuf = (killOneBundleByPrio event.pressure attempt.round minPrio start).2 := by
  constructor
  · rw [FreesExactly, killOneBundleByPrio_freed]
    apply KillAnswer.freedSize_eq_iff
    intro answer hAnswer
    obtain ⟨⟨pid, count⟩, -, rfl⟩ := List.mem_map.mp hAnswer
    exact (event.found count pid).answer_size pid
  · intro attempt hAttempt
    rw [attemptedByPsi] at hAttempt
    dsimp only at hAttempt
    split_ifs at hAttempt
    · cases hAttempt
    · cases hAttempt
    all_goals exact ⟨_, attemptRounds_freedBuf event.pressure _ _ _ _ _ _ attempt hAttempt⟩

end LowMemoryKiller

namespace Scenario

/-- Every process is read, and none may be sent the signal. -/
def refusedEvent : ProcEvent where
  getCurrentBuffer _ := 300000
  getSystemCurTime _ := 10
  found _ pid := ⟨some (statContent pid "a" "S" " 0"), some "25 25", false⟩
  copyBundle _ _ := true

/-- The greater one of two bundles is chosen, and its process refuses the signal. -/
theorem not_freesExactly_refused : ∃ event round minPrio killer,
    ¬ LowMemoryKiller.FreesExactly event round minPrio killer := by
  refine ⟨refusedEvent, 0, 200, ⟨twoBackground.manager, 0, []⟩, ?_⟩
  rw [LowMemoryKiller.FreesExactly]
  decide +kernel

end Scenario
end MemMgr
