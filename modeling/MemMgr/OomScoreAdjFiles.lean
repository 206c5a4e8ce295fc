import Mathlib.Logic.Function.Basic
import MemMgr.ReclaimPriorityConstants
import MemMgr.StringParsing

/-! The files of the kernel that hold the priorities of processes, as one component writes them and
another reads them. -/
namespace MemMgr

/-- What `/proc/<pid>/oom_score_adj` shows, where it can be opened. -/
abbrev OomScoreAdjFiles := Int → Option (List Char)

namespace KernelInterface

/-- `EchoToPath`. The kernel shows the text with an ending of its own. -/
def echoToPath (ending : List Char) (files : OomScoreAdjFiles) (pid : Int) (content : List Char) :
    Bool × OomScoreAdjFiles :=
  match files pid with
  | none => (false, files)
  | some _ => (true, Function.update files pid (some (content ++ ending)))

/-- `ReadFromFile` into an empty string, which stays empty where it fails. -/
def readFromFile (files : OomScoreAdjFiles) (pid : Int) : Bool × List Char :=
  match files pid with
  | none => (false, [])
  | some content => (true, content)

end KernelInterface

/-- `OomScoreAdjUtils::WriteOomScoreAdjToKernel` for one process. -/
def writeOomScoreAdjToKernel (ending : List Char) (files : OomScoreAdjFiles) (pid priority : Int) :
    Bool × OomScoreAdjFiles :=
  (true, (KernelInterface.echoToPath ending files pid (toString priority).toList).2)

/-- `MemMgrService::GetReclaimPriorityByPid`, with the priority it is given to fill in. -/
def getReclaimPriorityByPid (files : OomScoreAdjFiles) (pid priority : Int) : Int × Int :=
  let (read, contentStr) := KernelInterface.readFromFile files pid
  if read ∨ contentStr.length = 0 then (-1, priority)
  else
    match stoi contentStr with
    | none => (-1, priority)
    | some value => (0, value)

/-- The number in the file of a process, if the file can be read and holds one. -/
def numberIn (files : OomScoreAdjFiles) (pid : Int) : Option Int := (files pid).bind stoi

/-- A priority that was written is read again, and the reader fails on just the files without a
number. -/
structure OomScoreAdjAgrees (ending : List Char) (files : OomScoreAdjFiles) (pid priority : Int) :
    Prop where
  readsBack : files pid ≠ none → ∀ out, getReclaimPriorityByPid
    (writeOomScoreAdjToKernel ending files pid priority).2 pid out = (0, priority)
  errors : ∀ out, (getReclaimPriorityByPid files pid out).1 ≠ 0 ↔ numberIn files pid = none

variable {ending : List Char} {files : OomScoreAdjFiles} {pid priority : Int}

/-- The reader takes a file that was read for one that was not, and gives up on every other. -/
theorem getReclaimPriorityByPid_eq (files : OomScoreAdjFiles) (pid out : Int) :
    getReclaimPriorityByPid files pid out = (-1, out) := by
  rw [getReclaimPriorityByPid, KernelInterface.readFromFile]
  cases files pid with
  | none => rfl
  | some content => rfl

/-- Writer and reader agree on just the processes whose file cannot be opened at all. -/
theorem oomScoreAdjAgrees_iff (ending : List Char) (files : OomScoreAdjFiles) (pid priority : Int) :
    OomScoreAdjAgrees ending files pid priority ↔ files pid = none := by
  constructor
  · intro hAgrees
    by_contra hOpen
    have hBack := hAgrees.readsBack hOpen 0
    rw [getReclaimPriorityByPid_eq] at hBack
    simp at hBack
  · intro hNone
    refine ⟨fun hOpen => absurd hNone hOpen, fun out => ?_⟩
    rw [getReclaimPriorityByPid_eq, numberIn, hNone]
    simp

/-- A priority of 300 that was written is not read again. -/
theorem not_oomScoreAdjAgrees : ¬ OomScoreAdjAgrees ['\n'] (fun _ => some ['0', '\n']) 42 300 := by
  intro hAgrees
  have hBack := hAgrees.readsBack (by simp) 0
  exact absurd hBack (by decide)

end MemMgr
