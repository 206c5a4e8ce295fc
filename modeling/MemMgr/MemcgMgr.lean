import MemMgr.Library.TaskQueue
import MemMgr.Memcg

/-! The memory groups of the users. Notifications are posted to the handler of the strategy manager,
which makes a group at the first process of a user, gives it ratios when the priority of the
account changes, and removes it with the account. -/
namespace MemMgr

open Std (ExtTreeMap)

def validUserIdMin : Int := 100
def reclaimScoreMin : Int := 0
def reclaimScoreMax : Int := 1000

def rootMemcgMem2ZramRatio : Nat := 40
def rootMemcgZram2UfsRatio : Nat := 0
def rootMemcgRefaultThreshold : Nat := 0
def appScore : Int := 300

/-- What an `int` becomes as an `unsigned int`. -/
def unsignedOfInt (value : Int) : Nat := (value % 2 ^ 32).toNat

inductive AppAction where
  | createProcessAndApp
  | createProcessOnly
  | appDied
  | appForeground
  | appBackground
  | others
  deriving DecidableEq

/-- Bundle and score are only logged. -/
structure ReclaimParam where
  pid : Int
  accountId : Int
  action : AppAction
  deriving DecidableEq

/-- The directory is `memcgPathOfUser userId`. -/
structure UserMemcg where
  userId : Int
  memcg : Memcg
  deriving DecidableEq

/-- What memory and the kernel answer during one task. -/
structure GroupAnswers where
  makeUserMemcg : Bool
  /-- For the ratios inside of a new group. -/
  makeReclaimRatios : Bool
  /-- For the ratios that a score is looked up for. -/
  makeRatios : Bool
  createDir : Bool
  removeDir : Bool
  writeProcs : Bool
  kernel : MemcgKernel

/-- What is asked of the kernel. -/
inductive GroupRequest where
  | createDir (userId : Int)
  | removeDir (userId : Int)
  | addProc (userId : Int) (pid : Nat)
  | write (userId : Int) (file : MemcgFile) (content : String)
  | writeRoot (file : MemcgFile) (content : String)
  deriving DecidableEq

namespace Memcg

def create (makeReclaimRatios : Bool) : Memcg where
  score := 0
  reclaimRatios :=
    if makeReclaimRatios then some ⟨memcgMem2ZramRatio, memcgZram2UfsRatio, memcgRefaultThreshold⟩
    else none

def setScore (score : Int) (memcg : Memcg) : Memcg := { memcg with score }

/-- `SetReclaimRatios`, which bounds the ratios once more. -/
def setReclaimRatios (ratios : ReclaimRatios) (memcg : Memcg) : Bool × Memcg :=
  match memcg.reclaimRatios with
  | none => (false, memcg)
  | some _ =>
      (true, { memcg with
        reclaimRatios := some (.ofValues ratios.mem2zramRatio ratios.zram2ufsRatio ratios.refaultThreshold) })

end Memcg

structure MemcgMgr where
  rootMemcg : Option Memcg
  userMemcgsMap : ExtTreeMap Int UserMemcg

namespace MemcgMgr

variable (m : MemcgMgr) (answers : GroupAnswers)

def create (makeRootMemcg makeReclaimRatios : Bool) : MemcgMgr :=
  ⟨if makeRootMemcg then some (.create makeReclaimRatios) else none, ∅⟩

def setRootMemcgPara (kernel : MemcgKernel) : MemcgMgr × Bool × List GroupRequest :=
  match m.rootMemcg with
  | none => (m, false, [])
  | some rootMemcg =>
      match (rootMemcg.setScore appScore).setReclaimRatios
          ⟨rootMemcgMem2ZramRatio, rootMemcgZram2UfsRatio, rootMemcgRefaultThreshold⟩ with
      | (false, _) => (m, false, [])
      | (true, rootMemcg) =>
          let outcome := rootMemcg.setScoreAndReclaimRatiosToKernel kernel
          ({ m with rootMemcg := some outcome.memcg }, outcome.ret,
            outcome.writes.map fun (file, content) => .writeRoot file content)

def getUserMemcg (userId : Int) : Option UserMemcg := m.userMemcgsMap[userId]?

/-- Nobody asks whether the directory could be made. -/
def addUserMemcg (userId : Int) : MemcgMgr × Option UserMemcg × List GroupRequest :=
  if answers.makeUserMemcg = false then (m, none, [])
  else
    let memcg : UserMemcg := ⟨userId, .create answers.makeReclaimRatios⟩
    ({ m with userMemcgsMap := m.userMemcgsMap.insertIfNew userId memcg }, some memcg,
      [.createDir memcg.userId])

/-- The group is forgotten whether or not its directory could be removed. -/
def removeUserMemcg (userId : Int) : MemcgMgr × Bool × List GroupRequest :=
  match m.getUserMemcg userId with
  | none => (m, false, [])
  | some memcg =>
      let m := { m with userMemcgsMap := m.userMemcgsMap.erase userId }
      (m, m.getUserMemcg userId = none, [.removeDir memcg.userId])

def updateMemcgScoreAndReclaimRatios (userId score : Int) (ratios : ReclaimRatios) :
    MemcgMgr × Bool × List GroupRequest :=
  match m.getUserMemcg userId with
  | none => (m, false, [])
  | some memcg =>
      match (memcg.memcg.setScore score).setReclaimRatios ratios with
      | (false, base) =>
          ({ m with userMemcgsMap := m.userMemcgsMap.insert userId { memcg with memcg := base } },
            false, [])
      | (true, base) =>
          let outcome := base.setScoreAndReclaimRatiosToKernel answers.kernel
          ({ m with
              userMemcgsMap := m.userMemcgsMap.insert userId { memcg with memcg := outcome.memcg } },
            outcome.ret, outcome.writes.map fun (file, content) => .write memcg.userId file content)

def addProcToMemcg (pid : Nat) (userId : Int) : MemcgMgr × Bool × List GroupRequest :=
  match m.getUserMemcg userId with
  | some memcg => (m, answers.writeProcs, [.addProc memcg.userId pid])
  | none =>
      match m.addUserMemcg answers userId with
      | (m, none, told) => (m, false, told)
      | (m, some memcg, told) => (m, answers.writeProcs, told ++ [.addProc memcg.userId pid])

end MemcgMgr

inductive StrategyTask where
  | handleAppStateChanged (reclaimPara : Option ReclaimParam)
  | handleAccountDied (accountId : Int)
  | handleAccountPriorityChanged (accountId priority : Int)
  deriving DecidableEq

/-- The configuration is read when a task runs, and does not change after the start. -/
structure ReclaimStrategyManager where
  initialized : Bool
  memcgMgr : MemcgMgr
  handler : List StrategyTask

namespace ReclaimStrategyManager

inductive Op where
  | notifyAppStateChanged (reclaimPara : Option ReclaimParam)
  | notifyAccountDied (accountId : Int)
  | notifyAccountPriorityChanged (accountId priority : Int)
  | runTask (answers : GroupAnswers)

def getValidScore (priority : Int) : Int :=
  if priority < reclaimScoreMin then reclaimScoreMin
  else if priority > reclaimScoreMax then reclaimScoreMax
  else priority

section Tasks

variable (reclaimConfigSet : ReclaimConfigSet) (answers : GroupAnswers) (m : MemcgMgr)

def handleProcessCreate (reclaimPara : ReclaimParam) : MemcgMgr × Bool × List GroupRequest :=
  m.addProcToMemcg answers (unsignedOfInt reclaimPara.pid) reclaimPara.accountId

/-- Only the creation of a process does anything, and what it returns is dropped. -/
def handleAppStateChanged (reclaimPara : Option ReclaimParam) : MemcgMgr × Bool × List GroupRequest :=
  match reclaimPara with
  | none => (m, false, [])
  | some reclaimPara =>
      if reclaimPara.accountId < validUserIdMin then (m, false, [])
      else
        match reclaimPara.action with
        | .createProcessAndApp | .createProcessOnly =>
            let (m, _, told) := handleProcessCreate answers m reclaimPara
            (m, false, told)
        | .appDied | .appForeground | .appBackground | .others => (m, false, [])

def handleAccountDied (accountId : Int) : MemcgMgr × Bool × List GroupRequest :=
  m.removeUserMemcg accountId

def handleAccountPriorityChanged (accountId priority : Int) : MemcgMgr × Bool × List GroupRequest :=
  if m.getUserMemcg accountId = none then (m, false, [])
  else
    let priority := getValidScore priority
    if answers.makeRatios = false then (m, false, [])
    else
      match ReclaimConfig.getReclaimRatiosByScore reclaimConfigSet priority
          ⟨memcgMem2ZramRatio, memcgZram2UfsRatio, memcgRefaultThreshold⟩ with
      | (false, _) => (m, false, [])
      | (true, ratios) => m.updateMemcgScoreAndReclaimRatios answers accountId priority ratios

/-- What the handler makes of a task. -/
def perform (input : StrategyTask × GroupAnswers) : MemcgMgr × Bool × List GroupRequest :=
  match input.1 with
  | .handleAppStateChanged reclaimPara => handleAppStateChanged input.2 m reclaimPara
  | .handleAccountDied accountId => handleAccountDied m accountId
  | .handleAccountPriorityChanged accountId priority =>
      handleAccountPriorityChanged reclaimConfigSet input.2 m accountId priority

def performStep (input : StrategyTask × GroupAnswers) : MemcgMgr × List GroupRequest :=
  let (m, _, told) := perform reclaimConfigSet m input
  (m, told)

end Tasks

section Calls

variable (m : ReclaimStrategyManager)

def post (task : StrategyTask) : ReclaimStrategyManager := { m with handler := m.handler ++ [task] }

def notifyAppStateChanged (reclaimPara : Option ReclaimParam) : ReclaimStrategyManager :=
  if !m.initialized then m else m.post (.handleAppStateChanged reclaimPara)

def notifyAccountDied (accountId : Int) : ReclaimStrategyManager :=
  if !m.initialized then m
  else if accountId < validUserIdMin then m
  else m.post (.handleAccountDied accountId)

def notifyAccountPriorityChanged (accountId priority : Int) : ReclaimStrategyManager :=
  if !m.initialized then m
  else if accountId < validUserIdMin then m
  else m.post (.handleAccountPriorityChanged accountId priority)

def runTask (reclaimConfigSet : ReclaimConfigSet) (answers : GroupAnswers) :
    ReclaimStrategyManager × List GroupRequest :=
  match m.handler with
  | [] => (m, [])
  | task :: handler =>
      let (memcgMgr, told) := performStep reclaimConfigSet m.memcgMgr (task, answers)
      ({ m with memcgMgr, handler }, told)

def step (reclaimConfigSet : ReclaimConfigSet) : Op → ReclaimStrategyManager × List GroupRequest
  | .notifyAppStateChanged reclaimPara => (m.notifyAppStateChanged reclaimPara, [])
  | .notifyAccountDied accountId => (m.notifyAccountDied accountId, [])
  | .notifyAccountPriorityChanged accountId priority =>
      (m.notifyAccountPriorityChanged accountId priority, [])
  | .runTask answers => m.runTask reclaimConfigSet answers

end Calls

/-- The processes that run before the service: their pids if `/proc` can be opened, the user of each
if its status can be read, and what is answered for it. -/
structure EarlierProcesses where
  allProcPids : Option (List Nat)
  uidByPid : Nat → Option Nat
  answers : Nat → GroupAnswers

/-- One process of `InitProcessBeforeMemmgr`. -/
def initProcess (processes : EarlierProcesses) (m : MemcgMgr) (pid : Nat) :
    MemcgMgr × List GroupRequest :=
  match processes.uidByPid pid with
  | none => (m, [])
  | some uid =>
      let userId := getOsAccountIdByUid uid
      if userId < validUserIdMin then (m, [])
      else
        let (m, _, told) := m.addProcToMemcg (processes.answers pid) (unsignedOfInt pid) userId
        (m, told)

def initProcessBeforeMemmgr (processes : EarlierProcesses) (m : MemcgMgr) :
    MemcgMgr × List GroupRequest :=
  match processes.allProcPids with
  | none => (m, [])
  | some pids =>
      (Transducer.finalState (initProcess processes) m pids,
        Transducer.outputs (initProcess processes) m pids)

/-- `Init`, with whether there is a handler. Without the parameters of the root group nothing is
ever handled. -/
def init (makeHandler : Bool) (kernel : MemcgKernel) (processes : EarlierProcesses) (m : MemcgMgr) :
    ReclaimStrategyManager × List GroupRequest :=
  if makeHandler = false then (⟨false, m, []⟩, [])
  else
    match m.setRootMemcgPara kernel with
    | (m, false, told) => (⟨false, m, []⟩, told)
    | (m, true, told) =>
        let (m, added) := initProcessBeforeMemmgr processes m
        (⟨true, m, []⟩, told ++ added)

abbrev run (reclaimConfigSet : ReclaimConfigSet) (m : ReclaimStrategyManager) (ops : List Op) :
    ReclaimStrategyManager :=
  Transducer.finalState (fun m op => m.step reclaimConfigSet op) m ops

abbrev requests (reclaimConfigSet : ReclaimConfigSet) (m : ReclaimStrategyManager) (ops : List Op) :
    List GroupRequest :=
  Transducer.outputs (fun m op => m.step reclaimConfigSet op) m ops

end ReclaimStrategyManager
end MemMgr
