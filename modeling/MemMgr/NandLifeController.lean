import Mathlib.Logic.Function.Basic
import Mathlib.Algebra.Group.Nat.Defs

/-! The controller of writes to flash. It counts what is swapped out, today and since the
device was first used, and switches the swap device off at a quota. Its totals outlive
the process in persistent parameters. -/
namespace MemMgr

/-- `unsigned long long` arithmetic. -/
def wrapULL (value : Nat) : Nat := value % 2 ^ 64

def ullongMax : Nat := 2 ^ 64 - 1

def timerPeroidMin : Nat := 15
def retryTimes : Nat := 3
def paramValueZero : String := "0"
def paramValueOne : String := "1"
def paramValueUnkown : String := "-1"
def permanentlyClosed : String := paramValueOne
def notPermanentlyClosed : String := paramValueZero

inductive NandLifeParam where
  | permanentlyClosedStatus
  | minsToday
  | swapOutKBToday
  | minsFromBirth
  | swapOutKBFromBirth
  deriving DecidableEq

/-- What is written to the enable file of the swap device. -/
inductive EswapSwitch where
  | enableEswap
  | disableEswap
  deriving DecidableEq

structure NandLifeConfig where
  dailySwapOutQuotaMb : Nat
  totalSwapOutQuotaMb : Nat

/-- How one operation meets the kernel and the parameter service: attempt by attempt, a
counter reading or none, and whether a write succeeds. `erange` tells whether `errno` is
`ERANGE` already when a parameter is converted. -/
structure NandLifeAnswers where
  makeHandler : Bool
  readSwapOutKBSinceKernelBoot : Nat → Option Nat
  setParameter : NandLifeParam → Nat → Bool
  echoToPath : Nat → Bool
  erange : NandLifeParam → Bool

/-- The fields of the controller, and what it acts on: the tasks it has posted, the
parameters, and the writes to the enable file, latest first. -/
structure NandLifeController where
  handler : Bool
  config : NandLifeConfig
  dailySwapOutQuotaKB : Nat
  totalSwapOutQuotaKB : Nat
  lastSwapOutKB : Nat
  nowSwapOutKB : Nat
  minsToday : Nat
  swapOutKBToday : Nat
  minsSinceBirth : Nat
  swapOutKBSinceBirth : Nat
  timers : Nat
  params : NandLifeParam → Option String
  enableWrites : List EswapSwitch

/-- Every write to the enable file and to a parameter succeeds. -/
def NandLifeAnswers.WritesSucceed (answers : NandLifeAnswers) : Prop :=
  (List.range retryTimes).any answers.echoToPath = true ∧
    ∀ param, (List.range retryTimes).any (answers.setParameter param) = true

def isSpace (character : Char) : Bool := character.toNat ∈ [9, 10, 11, 12, 13, 32]

/-- The decimal number a text starts with, and whether it is out of range. A sign is
accepted, and a negative number wraps around. -/
def strtoull (text : String) : Nat × Bool :=
  let unsigned (negative : Bool) (rest : List Char) : Nat × Bool :=
    let value := (rest.takeWhile Char.isDigit).foldl
      (fun value digit => 10 * value + (digit.toNat - 48)) 0
    if value > ullongMax then (ullongMax, true)
    else if negative then (wrapULL (2 ^ 64 - value), false)
    else (value, false)
  match text.toList.dropWhile isSpace with
  | '-' :: rest => unsigned true rest
  | '+' :: rest => unsigned false rest
  | rest => unsigned false rest

namespace NandLifeController

variable (answers : NandLifeAnswers) (controller : NandLifeController)

/-- A new process: what the system does not keep starts anew. The source leaves the
quotas unset until they are configured, and reads them only after that. -/
def restarted : NandLifeController :=
  { controller with
    handler := false
    config := ⟨0, 0⟩
    dailySwapOutQuotaKB := 0
    totalSwapOutQuotaKB := 0
    lastSwapOutKB := 0
    nowSwapOutKB := 0
    minsToday := 0
    swapOutKBToday := 0
    minsSinceBirth := 0
    swapOutKBSinceBirth := 0
    timers := 0 }

def echoToEnablePath (content : EswapSwitch) : NandLifeController :=
  if (List.range retryTimes).any answers.echoToPath then
    { controller with enableWrites := content :: controller.enableWrites }
  else controller

def openSwapOutTemporarily : NandLifeController := controller.echoToEnablePath answers .enableEswap

def closeSwapOutTemporarily : NandLifeController := controller.echoToEnablePath answers .disableEswap

def setParameterRetry (param : NandLifeParam) (value : String) : NandLifeController × Bool :=
  if (List.range retryTimes).any (answers.setParameter param) then
    ({ controller with params := Function.update controller.params param (some value) }, true)
  else (controller, false)

def openSwapOutPermanently : NandLifeController :=
  (controller.setParameterRetry answers .permanentlyClosedStatus notPermanentlyClosed).1

def closeSwapOutPermanently : NandLifeController :=
  ((controller.closeSwapOutTemporarily answers).setParameterRetry answers .permanentlyClosedStatus
    permanentlyClosed).1

def getParameter (param : NandLifeParam) : String := (controller.params param).getD paramValueUnkown

def isSwapOutClosedPermently : Bool :=
  controller.getParameter .permanentlyClosedStatus = permanentlyClosed

/-- The number a parameter holds, and whether it is taken for valid. -/
def readUnsignedLongLongParam (param : NandLifeParam) : Nat × Bool :=
  let (value, outOfRange) := strtoull (controller.getParameter param)
  (value, !(answers.erange param || outOfRange || value = ullongMax))

/-- An invalid parameter ends the loading, after it was stored. -/
def loadNandLifeParam : NandLifeController × Bool :=
  let (value, valid) := controller.readUnsignedLongLongParam answers .minsToday
  let controller := { controller with minsToday := value }
  if !valid then (controller, false)
  else
    let (value, valid) := controller.readUnsignedLongLongParam answers .swapOutKBToday
    let controller := { controller with swapOutKBToday := value }
    if !valid then (controller, false)
    else
      let (value, valid) := controller.readUnsignedLongLongParam answers .minsFromBirth
      let controller := { controller with minsSinceBirth := value }
      if !valid then (controller, false)
      else
        let (value, valid) := controller.readUnsignedLongLongParam answers .swapOutKBFromBirth
        ({ controller with swapOutKBSinceBirth := value }, valid)

def updateNandLifeParam : NandLifeController × Bool :=
  let (controller, set) :=
    controller.setParameterRetry answers .minsToday (toString controller.minsToday)
  if !set then (controller, false)
  else
    let (controller, set) :=
      controller.setParameterRetry answers .swapOutKBToday (toString controller.swapOutKBToday)
    if !set then (controller, false)
    else
      let (controller, set) :=
        controller.setParameterRetry answers .minsFromBirth (toString controller.minsSinceBirth)
      if !set then (controller, false)
      else
        controller.setParameterRetry answers .swapOutKBFromBirth
          (toString controller.swapOutKBSinceBirth)

/-- The configured quotas are unsigned, so every configuration is valid. -/
def getAndValidateNandLifeConfig (config : NandLifeConfig) : NandLifeController × Bool :=
  ({ controller with config := config },
    0 ≤ config.dailySwapOutQuotaMb && 0 ≤ config.totalSwapOutQuotaMb)

def getEventHandler : NandLifeController × Bool :=
  if controller.handler then (controller, true)
  else ({ controller with handler := answers.makeHandler }, answers.makeHandler)

def getSwapOutKBSinceKernelBoot : Option Nat :=
  (List.range retryTimes).findSome? answers.readSwapOutKBSinceKernelBoot

def setTimer : NandLifeController := { controller with timers := controller.timers + 1 }

def checkReachedDailyLimit : NandLifeController × Bool :=
  if controller.swapOutKBToday ≥ controller.dailySwapOutQuotaKB then
    (controller.closeSwapOutTemporarily answers, true)
  else (controller, false)

def checkReachedTotalLimit : NandLifeController × Bool :=
  if controller.swapOutKBSinceBirth ≥ controller.totalSwapOutQuotaKB then
    (controller.closeSwapOutPermanently answers, true)
  else (controller, false)

/-- The end of `Init`, with the first reading of the counter. -/
def startCheckLoop (swapOutKBSinceKernelBoot : Nat) : NandLifeController × Bool :=
  let controller := { controller with
    lastSwapOutKB := swapOutKBSinceKernelBoot
    nowSwapOutKB := swapOutKBSinceKernelBoot }.setTimer
  let (controller, reachedTotal) := controller.checkReachedTotalLimit answers
  if reachedTotal then (controller, false)
  else
    let (controller, reachedDaily) := controller.checkReachedDailyLimit answers
    if reachedDaily then (controller, false)
    else (controller.openSwapOutTemporarily answers, true)

def init (config : NandLifeConfig) : NandLifeController × Bool :=
  let (controller, made) := controller.getEventHandler answers
  if !made then (controller.closeSwapOutTemporarily answers, false)
  else
    let (controller, validated) := controller.getAndValidateNandLifeConfig config
    if !validated then (controller.closeSwapOutTemporarily answers, false)
    else if config.dailySwapOutQuotaMb = 0 ∧ config.totalSwapOutQuotaMb = 0 then
      ((controller.openSwapOutPermanently answers).openSwapOutTemporarily answers, true)
    else
      let controller := { controller with
        dailySwapOutQuotaKB := wrapULL (config.dailySwapOutQuotaMb * 1024)
        totalSwapOutQuotaKB := wrapULL (config.totalSwapOutQuotaMb * 1024) }
      let (controller, loaded) := controller.loadNandLifeParam answers
      if !loaded then (controller.closeSwapOutTemporarily answers, false)
      else if controller.isSwapOutClosedPermently then
        (controller.closeSwapOutTemporarily answers, false)
      else
        match getSwapOutKBSinceKernelBoot answers with
        | none => (controller.closeSwapOutTemporarily answers, false)
        | some swapOutKBSinceKernelBoot => controller.startCheckLoop answers swapOutKBSinceKernelBoot

/-- The increase since the last reading enters both totals. -/
def countIncrease : NandLifeController :=
  let increasedSwapOutKB := controller.nowSwapOutKB - controller.lastSwapOutKB
  { controller with
    lastSwapOutKB := controller.nowSwapOutKB
    swapOutKBToday := wrapULL (controller.swapOutKBToday + increasedSwapOutKB)
    swapOutKBSinceBirth := wrapULL (controller.swapOutKBSinceBirth + increasedSwapOutKB) }

/-- After a day the count of the day starts anew. -/
def enterNewDay : NandLifeController :=
  if controller.minsToday ≥ 24 * 60 then
    let controller := { controller with minsToday := 0, swapOutKBToday := 0 }
    if controller.swapOutKBSinceBirth < controller.totalSwapOutQuotaKB then
      controller.openSwapOutTemporarily answers
    else controller
  else controller

/-- A tick whose reading is accepted. -/
def countSwapOut : NandLifeController :=
  let (controller, _) := controller.countIncrease.checkReachedDailyLimit answers
  let (controller, updated) := (controller.enterNewDay answers).updateNandLifeParam answers
  let controller := if updated then controller else controller.closeSwapOutTemporarily answers
  let (controller, _) := controller.checkReachedTotalLimit answers
  controller.setTimer

/-- The task of the timer. -/
def checkSwapOut : NandLifeController :=
  let controller := { controller with timers := controller.timers - 1 }
  if controller.isSwapOutClosedPermently then (controller.closeSwapOutTemporarily answers).setTimer
  else
    let controller := { controller with
      minsToday := wrapULL (controller.minsToday + timerPeroidMin)
      minsSinceBirth := wrapULL (controller.minsSinceBirth + timerPeroidMin) }
    match getSwapOutKBSinceKernelBoot answers with
    | none => (controller.closeSwapOutTemporarily answers).setTimer
    | some nowSwapOutKB =>
        let controller := { controller with nowSwapOutKB := nowSwapOutKB }
        if controller.nowSwapOutKB < controller.lastSwapOutKB then
          (controller.closeSwapOutTemporarily answers).setTimer
        else controller.countSwapOut answers

end NandLifeController

inductive NandLifeOp where
  | restart (answers : NandLifeAnswers)
  | tick (answers : NandLifeAnswers)

namespace NandLifeController

/-- The service starts, or a posted task runs. -/
inductive Step (config : NandLifeConfig) : NandLifeController → NandLifeOp → NandLifeController → Prop where
  | restart (controller : NandLifeController) (answers : NandLifeAnswers) :
      Step config controller (.restart answers) (controller.restarted.init answers config).1
  | tick (controller : NandLifeController) (answers : NandLifeAnswers) (hTimer : controller.timers ≠ 0) :
      Step config controller (.tick answers) (controller.checkSwapOut answers)

end NandLifeController
end MemMgr
