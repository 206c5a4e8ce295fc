import MemMgr.ConfigSections
import MemMgr.DumpParams
import MemMgr.PurgeByPsi

/-! The commands of a dump. The values of a key are counted and turned into numbers, and what a
forced reclaim is to do is kept in a structure whose fields are assigned one by one. -/
namespace MemMgr

open DumpParams

/-- What a command can go wrong with: a number that cannot be read where nothing catches the
exception, an element that a vector does not have, and a field that was never assigned. -/
inductive DumpFault where
  | exception
  | absentElement
  | unassignedField
  deriving DecidableEq

/-- A reclaim that is asked for, without the fields that are not assigned yet. -/
structure DumpReclaimInfo where
  reclaimType : Option PurgeableMemoryType
  ifReclaimTypeAll : Option Bool
  memcgUserId : Option Int
  reclaimHeapSizeKB : Option Int
  ashmId : Option Nat
  ashmTime : Option Nat
  subscriberPid : Option Int
  deriving DecidableEq

/-- The structure as it is declared. -/
def DumpReclaimInfo.declared : DumpReclaimInfo := ⟨none, none, none, none, none, none, none⟩

/-- What a dump prints, and what it has others do. -/
inductive DumpAction where
  | showHelpInfo
  | printSizeError
  | printOntrimError
  | printReclaimSuccess
  | printReclaimError
  | printParamsError
  | dumpEvents
  | dumpReclaimPriority
  | dumpConfig
  | dumpSubscribers
  | triggerMemoryLevelByDump (level : SystemMemoryLevel)
  | purgeHeapAll
  | purgeHeapMemcg (memcgPath : String) (sizeKB : Int)
  | purgeAshmAll
  | purgeAshmByIdWithTime (idWithTime : String)
  | reclaimSubscriberAll
  | reclaimSubscriberProc (pid : Int)
  | changeAppState (pid uid state : Int)
  deriving DecidableEq

/-- What a dump finds. -/
structure DumpAnswers where
  /-- The path of the memory group of a user, if there is one. -/
  userMemcgPath : Int → Option String
  /-- Whether a write that purges succeeds. -/
  echoToPath : DumpAction → Bool

/-- An element of a vector, without a look at its size. -/
def elementAt (values : List String) (i : Nat) : Except DumpFault String :=
  match values[i]? with
  | none => .error .absentElement
  | some value => .ok value

/-- The value of a field. -/
def fieldValue {β : Type} (field : Option β) : Except DumpFault β :=
  match field with
  | none => .error .unassignedField
  | some value => .ok value

namespace PurgeableMemManager

variable (answers : DumpAnswers)

def echo (action : DumpAction) : Bool × List DumpAction := (answers.echoToPath action, [action])

def purgeHeap (userId size : Int) : Bool × List DumpAction :=
  if userId = 0 then echo answers (.purgeHeapMemcg memcgBasePath size)
  else
    match answers.userMemcgPath userId with
    | none => (false, [])
    | some memcgPath => echo answers (.purgeHeapMemcg memcgPath size)

def purgeAshm (ashmId time : Nat) : Bool × List DumpAction :=
  echo answers (.purgeAshmByIdWithTime (toString ashmId ++ " " ++ toString time))

def forceReclaimByDump (dumpInfo : DumpReclaimInfo) : Except DumpFault (Bool × List DumpAction) := do
  match ← fieldValue dumpInfo.reclaimType with
  | .unknown => return (false, [])
  | .purgeableHeap =>
      if ← fieldValue dumpInfo.ifReclaimTypeAll then return echo answers .purgeHeapAll
      else
        return purgeHeap answers (← fieldValue dumpInfo.memcgUserId)
          (← fieldValue dumpInfo.reclaimHeapSizeKB)
  | .purgeableAshmem =>
      if ← fieldValue dumpInfo.ifReclaimTypeAll then return echo answers .purgeAshmAll
      else return purgeAshm answers (← fieldValue dumpInfo.ashmId) (← fieldValue dumpInfo.ashmTime)
  | .purgeableSubscriber =>
      if ← fieldValue dumpInfo.ifReclaimTypeAll then return (true, [.reclaimSubscriberAll])
      else return (true, [.reclaimSubscriberProc (← fieldValue dumpInfo.subscriberPid)])
  | .purgeableAll =>
      let (ret, heap) := echo answers .purgeHeapAll
      let (ret, ashmem) := if ret then echo answers .purgeAshmAll else (false, [])
      return (ret, heap ++ ashmem ++ [.reclaimSubscriberAll])

end PurgeableMemManager

namespace DumpCommandDispatcher

def ontrimLevelParamSize : Nat := 1
def reclaimTypeParamSize : Nat := 1
def reclaimHeapIdParamSize : Nat := 2
def reclaimAshmIdParamSize : Nat := 2
def reclaimSubscriberIdParamSize : Nat := 1
def appStateParamSize : Nat := 3
def firstIndex : Nat := 0
def secondIndex : Nat := 1
def thirdIndex : Nat := 2

/-- The levels by their constants. -/
def systemMemoryLevelOf : Int → Option SystemMemoryLevel
  | 1 => some .memoryLevelPurgeable
  | 2 => some .memoryLevelModerate
  | 3 => some .memoryLevelLow
  | 4 => some .memoryLevelCritical
  | _ => none

/-- The types by their constants. -/
def purgeableMemoryTypeOf : Int → Option PurgeableMemoryType
  | 1 => some .purgeableHeap
  | 2 => some .purgeableAshmem
  | 3 => some .purgeableSubscriber
  | 4 => some .purgeableAll
  | _ => none

/-- `std::stoi` where nothing catches what it throws. -/
def stoiUncaught (text : String) : Except DumpFault Int :=
  match stoi text.toList with
  | none => .error .exception
  | some value => .ok value

variable (answers : DumpAnswers) (keyValuesMapping : KeyValuesMapping)

def hasCommand (command : String) : Bool := keyValuesMapping.contains command

/-- The values of a key, none for a key that is not there. -/
def valuesOf (command : String) : List String := (keyValuesMapping[command]?).getD []

def dispatchTriggerMemLevel : Except DumpFault (List DumpAction) := do
  let values := valuesOf keyValuesMapping "-t"
  if values.length ≠ ontrimLevelParamSize then return [.printSizeError]
  else
    let text ← elementAt values firstIndex
    match stoi text.toList with
    | none => return [.printOntrimError]
    | some level =>
        match systemMemoryLevelOf level with
        | none => return [.printOntrimError]
        | some level => return [.triggerMemoryLevelByDump level]

/-- What is printed, and the reclaim with its type. -/
def parseForceReclaimType (dumpInfo : DumpReclaimInfo) :
    Except DumpFault (List DumpAction × DumpReclaimInfo) := do
  let dumpInfo := { dumpInfo with reclaimType := some .unknown, ifReclaimTypeAll := some true }
  let values := valuesOf keyValuesMapping "-f"
  if values.length ≠ reclaimTypeParamSize then return ([.printSizeError], dumpInfo)
  else
    let text ← elementAt values firstIndex
    match stoi text.toList with
    | none => return ([], dumpInfo)
    | some type =>
        match purgeableMemoryTypeOf type with
        | none => return ([], dumpInfo)
        | some type => return ([], { dumpInfo with reclaimType := some type })

/-- The success, what is printed, and the reclaim with the fields of its type. -/
def parseForceReclaimId (dumpInfo : DumpReclaimInfo) :
    Except DumpFault (Bool × List DumpAction × DumpReclaimInfo) := do
  let dumpInfo := { dumpInfo with ifReclaimTypeAll := some false }
  let values := valuesOf keyValuesMapping "-id"
  match ← fieldValue dumpInfo.reclaimType with
  | .purgeableHeap =>
      if values.length ≠ reclaimHeapIdParamSize then return (false, [.printSizeError], dumpInfo)
      else
        let userId ← elementAt values firstIndex
        match stoi userId.toList with
        | none => return (false, [], dumpInfo)
        | some userId =>
            let dumpInfo := { dumpInfo with memcgUserId := some userId }
            let size ← elementAt values secondIndex
            match stoi size.toList with
            | none => return (false, [], dumpInfo)
            | some size => return (true, [], { dumpInfo with reclaimHeapSizeKB := some size })
  | .purgeableAshmem =>
      if values.length ≠ reclaimAshmIdParamSize then return (false, [.printSizeError], dumpInfo)
      else
        let ashmId ← elementAt values firstIndex
        match stoul ashmId.toList with
        | none => return (false, [], dumpInfo)
        | some ashmId =>
            let dumpInfo := { dumpInfo with ashmId := some (wrapUInt ashmId) }
            let time ← elementAt values secondIndex
            match stoul time.toList with
            | none => return (false, [], dumpInfo)
            | some time => return (true, [], { dumpInfo with ashmTime := some (wrapUInt time) })
  | .purgeableSubscriber =>
      if values.length ≠ reclaimSubscriberIdParamSize then
        return (false, [.printSizeError], dumpInfo)
      else
        let pid ← elementAt values firstIndex
        if pid = "0" then return (true, [], { dumpInfo with ifReclaimTypeAll := some true })
        else
          match stoi pid.toList with
          | none => return (false, [], dumpInfo)
          | some pid => return (true, [], { dumpInfo with subscriberPid := some pid })
  | _ => return (false, [], dumpInfo)

/-- The part of `PurgeableMemoryDump` that reads a forced reclaim. -/
def parseForceReclaim : Except DumpFault (List DumpAction × DumpReclaimInfo) := do
  let (printed, dumpInfo) ← parseForceReclaimType keyValuesMapping .declared
  if hasCommand keyValuesMapping "-id" then
    let (success, printedId, dumpInfo) ← parseForceReclaimId keyValuesMapping dumpInfo
    if success then return (printed ++ printedId, dumpInfo)
    else return (printed ++ printedId, { dumpInfo with reclaimType := some .unknown })
  else return (printed, dumpInfo)

/-- The part of `PurgeableMemoryDump` that changes the state of an application. -/
def parseAppState : Except DumpFault (List DumpAction) := do
  let appState := valuesOf keyValuesMapping "-d"
  if appState.length < appStateParamSize then return [.printParamsError]
  else
    let pid ← stoiUncaught (← elementAt appState firstIndex)
    let uid ← stoiUncaught (← elementAt appState secondIndex)
    let state ← stoiUncaught (← elementAt appState thirdIndex)
    return [.changeAppState pid uid state]

/-- `PurgeableMemoryDump`; nothing is done for a command that is not known. -/
def purgeableMemoryDump : Except DumpFault (List DumpAction) := do
  if hasCommand keyValuesMapping "-s" then return [.dumpSubscribers]
  else if hasCommand keyValuesMapping "-t" then dispatchTriggerMemLevel keyValuesMapping
  else if hasCommand keyValuesMapping "-f" then
    let (printed, dumpInfo) ← parseForceReclaim keyValuesMapping
    let (ret, reclaimed) ← PurgeableMemManager.forceReclaimByDump answers dumpInfo
    return printed ++ reclaimed ++ [if ret then .printReclaimSuccess else .printReclaimError]
  else if hasCommand keyValuesMapping "-d" then parseAppState keyValuesMapping
  else return []

def dispatchDumpCommand : Except DumpFault (List DumpAction) :=
  if keyValuesMapping.isEmpty || hasCommand keyValuesMapping "-h" then .ok [.showHelpInfo]
  else if hasCommand keyValuesMapping "-a" then .ok [.dumpEvents, .dumpReclaimPriority]
  else if hasCommand keyValuesMapping "-e" then .ok [.dumpEvents]
  else if hasCommand keyValuesMapping "-r" then .ok [.dumpReclaimPriority]
  else if hasCommand keyValuesMapping "-c" then .ok [.dumpConfig]
  else purgeableMemoryDump answers keyValuesMapping

/-- A dump with its arguments, as it is carried out where it is allowed. -/
def dump (params : List String) : Except DumpFault (List DumpAction) :=
  dispatchDumpCommand answers (parseParams params ∅)

/-- The fields that are read of a reclaim are assigned: of one that is not for all, those of its
type. -/
structure Assigned (dumpInfo : DumpReclaimInfo) : Prop where
  reclaimType : dumpInfo.reclaimType ≠ none
  ifReclaimTypeAll : dumpInfo.ifReclaimTypeAll ≠ none
  heap : dumpInfo.reclaimType = some .purgeableHeap → dumpInfo.ifReclaimTypeAll = some false →
    dumpInfo.memcgUserId ≠ none ∧ dumpInfo.reclaimHeapSizeKB ≠ none
  ashmem : dumpInfo.reclaimType = some .purgeableAshmem → dumpInfo.ifReclaimTypeAll = some false →
    dumpInfo.ashmId ≠ none ∧ dumpInfo.ashmTime ≠ none
  subscriber : dumpInfo.reclaimType = some .purgeableSubscriber →
    dumpInfo.ifReclaimTypeAll = some false → dumpInfo.subscriberPid ≠ none

/-- A dump catches what is thrown, and reads no element and no field that is not there. -/
structure DumpsSafely (params : List String) : Prop where
  caught : ∀ answers, dump answers params ≠ .error .exception
  elements : ∀ answers, dump answers params ≠ .error .absentElement
  fields : ∀ answers, dump answers params ≠ .error .unassignedField

/-- The commands that come before the one for the state of an application. -/
def earlierCommands : List String := ["-h", "-a", "-e", "-r", "-c", "-s", "-t", "-f"]

/-- Values that are too few for the state of an application, or start with the numbers it takes. -/
def ReadsAppState (values : List String) : Prop :=
  values.length < appStateParamSize ∨ ∀ value ∈ values.take appStateParamSize, stoi value.toList ≠ none

/-- Another command comes first, or all that `-d` is given can be read. -/
def NumbersGiven (params : List String) : Prop :=
  (∃ command ∈ earlierCommands, command ∈ params) ∨
    ∀ values ∈ givenValues "-d" params, ReadsAppState values

variable {answers : DumpAnswers} {keyValuesMapping : KeyValuesMapping} {dumpInfo : DumpReclaimInfo}
variable {values params : List String} {fault : DumpFault}

/-- A vector that has passed the check of its size has the elements below it. -/
theorem elementAt_of_checked {size : Nat} (i : Nat) (hSize : ¬ values.length ≠ size) (hLt : i < size) :
    ∃ value, elementAt values i = .ok value := by
  rw [elementAt, List.getElem?_eq_getElem (Decidable.not_not.mp hSize ▸ hLt)]
  exact ⟨_, rfl⟩

/-- The command for a memory level never throws. -/
theorem dispatchTriggerMemLevel_ok : ∃ actions, dispatchTriggerMemLevel keyValuesMapping = .ok actions := by
  rw [dispatchTriggerMemLevel]
  split
  · exact ⟨_, rfl⟩
  · rename_i hSize
    obtain ⟨text, hText⟩ := elementAt_of_checked firstIndex hSize (by decide)
    rw [hText]
    simp only [bind, Except.bind]
    split
    · exact ⟨_, rfl⟩
    · split
      · exact ⟨_, rfl⟩
      · exact ⟨_, rfl⟩

/-- The type is assigned whatever is given for it, and a reclaim is for all at first. -/
theorem parseForceReclaimType_ok : ∃ printed type, parseForceReclaimType keyValuesMapping dumpInfo =
    .ok (printed, { dumpInfo with reclaimType := some type, ifReclaimTypeAll := some true }) := by
  rw [parseForceReclaimType]
  split
  · exact ⟨_, _, rfl⟩
  · rename_i hSize
    obtain ⟨text, hText⟩ := elementAt_of_checked firstIndex hSize (by decide)
    rw [hText]
    simp only [bind, Except.bind]
    split
    · exact ⟨_, _, rfl⟩
    · split
      · exact ⟨_, _, rfl⟩
      · exact ⟨_, _, rfl⟩

/-- Where the fields of the type cannot be read, there is no success. -/
theorem parseForceReclaimId_ok {type : PurgeableMemoryType} (hType : dumpInfo.reclaimType = some type) :
    ∃ success printed dumpInfo', parseForceReclaimId keyValuesMapping dumpInfo =
      .ok (success, printed, dumpInfo') ∧ dumpInfo'.ifReclaimTypeAll ≠ none ∧
        (success = true → Assigned dumpInfo') := by
  rw [parseForceReclaimId, hType]
  simp only [fieldValue, bind, Except.bind, pure, Except.pure]
  cases type with
  | unknown => exact ⟨_, _, _, rfl, by simp, by simp⟩
  | purgeableAll => exact ⟨_, _, _, rfl, by simp, by simp⟩
  | purgeableHeap =>
      dsimp only
      split
      · exact ⟨_, _, _, rfl, by simp, by simp⟩
      · rename_i hSize
        obtain ⟨userId, hUserId⟩ := elementAt_of_checked firstIndex hSize (by decide)
        obtain ⟨size, hKB⟩ := elementAt_of_checked secondIndex hSize (by decide)
        rw [hUserId, hKB]
        dsimp only
        split
        · exact ⟨_, _, _, rfl, by simp, by simp⟩
        · split
          · exact ⟨_, _, _, rfl, by simp, by simp⟩
          · exact ⟨_, _, _, rfl, by simp, fun _ => by constructor <;> simp⟩
  | purgeableAshmem =>
      dsimp only
      split
      · exact ⟨_, _, _, rfl, by simp, by simp⟩
      · rename_i hSize
        obtain ⟨ashmId, hAshmId⟩ := elementAt_of_checked firstIndex hSize (by decide)
        obtain ⟨time, hTime⟩ := elementAt_of_checked secondIndex hSize (by decide)
        rw [hAshmId, hTime]
        dsimp only
        split
        · exact ⟨_, _, _, rfl, by simp, by simp⟩
        · split
          · exact ⟨_, _, _, rfl, by simp, by simp⟩
          · exact ⟨_, _, _, rfl, by simp, fun _ => by constructor <;> simp⟩
  | purgeableSubscriber =>
      dsimp only
      split
      · exact ⟨_, _, _, rfl, by simp, by simp⟩
      · rename_i hSize
        obtain ⟨pid, hPid⟩ := elementAt_of_checked firstIndex hSize (by decide)
        rw [hPid]
        dsimp only
        split
        · exact ⟨_, _, _, rfl, by simp, fun _ => by constructor <;> simp⟩
        · split
          · exact ⟨_, _, _, rfl, by simp, by simp⟩
          · exact ⟨_, _, _, rfl, by simp, fun _ => by constructor <;> simp⟩

/-- What is parsed of a command line has the fields that its reclaim reads. -/
theorem parseForceReclaim_ok : ∃ printed dumpInfo, parseForceReclaim keyValuesMapping =
    .ok (printed, dumpInfo) ∧ Assigned dumpInfo := by
  obtain ⟨printed, type, hParsed⟩ :=
    @parseForceReclaimType_ok keyValuesMapping DumpReclaimInfo.declared
  rw [parseForceReclaim, hParsed]
  simp only [bind, Except.bind, pure, Except.pure]
  split
  · obtain ⟨success, printedId, dumpInfo', hId, hAll, hSuccess⟩ := @parseForceReclaimId_ok
      keyValuesMapping { DumpReclaimInfo.declared with
        reclaimType := some type, ifReclaimTypeAll := some true } type rfl
    rw [hId]
    cases success with
    | false => exact ⟨_, _, rfl, by simp, hAll, by simp, by simp, by simp⟩
    | true => exact ⟨_, _, rfl, hSuccess rfl⟩
  · exact ⟨_, _, rfl, by constructor <;> simp⟩

/-- With all its fields set, a reclaim that is asked for never throws. -/
theorem forceReclaimByDump_ok (hAssigned : Assigned dumpInfo) :
    ∃ result, PurgeableMemManager.forceReclaimByDump answers dumpInfo = .ok result := by
  obtain ⟨type, hType⟩ := Option.ne_none_iff_exists'.mp hAssigned.reclaimType
  obtain ⟨all, hAll⟩ := Option.ne_none_iff_exists'.mp hAssigned.ifReclaimTypeAll
  rw [PurgeableMemManager.forceReclaimByDump, hType, hAll]
  simp only [fieldValue, bind, Except.bind, pure, Except.pure]
  cases type with
  | unknown => exact ⟨_, rfl⟩
  | purgeableAll => exact ⟨_, rfl⟩
  | purgeableHeap =>
      cases all with
      | true => exact ⟨_, rfl⟩
      | false =>
          obtain ⟨hUserId, hSize⟩ := hAssigned.heap hType hAll
          obtain ⟨userId, hUserId⟩ := Option.ne_none_iff_exists'.mp hUserId
          obtain ⟨size, hSize⟩ := Option.ne_none_iff_exists'.mp hSize
          rw [hUserId, hSize]
          exact ⟨_, rfl⟩
  | purgeableAshmem =>
      cases all with
      | true => exact ⟨_, rfl⟩
      | false =>
          obtain ⟨hId, hTime⟩ := hAssigned.ashmem hType hAll
          obtain ⟨ashmId, hId⟩ := Option.ne_none_iff_exists'.mp hId
          obtain ⟨time, hTime⟩ := Option.ne_none_iff_exists'.mp hTime
          rw [hId, hTime]
          exact ⟨_, rfl⟩
  | purgeableSubscriber =>
      cases all with
      | true => exact ⟨_, rfl⟩
      | false =>
          obtain ⟨pid, hPid⟩ := Option.ne_none_iff_exists'.mp (hAssigned.subscriber hType hAll)
          rw [hPid]
          exact ⟨_, rfl⟩

/-- Only a number that cannot be read stops the change of a state. -/
theorem parseAppState_eq_error_iff : parseAppState keyValuesMapping = .error fault ↔
    fault = .exception ∧ ¬ ReadsAppState (valuesOf keyValuesMapping "-d") := by
  rw [parseAppState, ReadsAppState]
  rcases valuesOf keyValuesMapping "-d" with _ | ⟨pid, _ | ⟨uid, _ | ⟨state, rest⟩⟩⟩
  · simp [appStateParamSize, pure, Except.pure]
  · simp [appStateParamSize, pure, Except.pure]
  · simp [appStateParamSize, pure, Except.pure]
  · have hEnough : ¬ (pid :: uid :: state :: rest).length < appStateParamSize := by
      simp [appStateParamSize]
    have hTake : (pid :: uid :: state :: rest).take appStateParamSize = [pid, uid, state] := rfl
    have hPid : elementAt (pid :: uid :: state :: rest) firstIndex = .ok pid := rfl
    have hUid : elementAt (pid :: uid :: state :: rest) secondIndex = .ok uid := rfl
    have hState : elementAt (pid :: uid :: state :: rest) thirdIndex = .ok state := rfl
    rw [or_iff_right hEnough, hTake, if_neg hEnough, hPid, hUid, hState]
    simp only [stoiUncaught, bind, Except.bind, pure, Except.pure, List.forall_mem_cons, List.not_mem_nil,
      false_imp_iff, implies_true, and_true]
    cases stoi pid.toList with
    | none => simp [eq_comm]
    | some _ =>
        cases stoi uid.toList with
        | none => simp [eq_comm]
        | some _ =>
            cases stoi state.toList with
            | none => simp [eq_comm]
            | some _ => simp

/-- The dump of purgeable memory throws only at a -d whose numbers cannot be read, and only if none
of the commands before it is given. -/
theorem purgeableMemoryDump_eq_error_iff : purgeableMemoryDump answers keyValuesMapping = .error fault ↔
    (hasCommand keyValuesMapping "-s" = false ∧ hasCommand keyValuesMapping "-t" = false ∧
      hasCommand keyValuesMapping "-f" = false) ∧ hasCommand keyValuesMapping "-d" = true ∧
        fault = .exception ∧ ¬ ReadsAppState (valuesOf keyValuesMapping "-d") := by
  rw [purgeableMemoryDump]
  cases hasCommand keyValuesMapping "-s" with
  | true => simp [pure, Except.pure]
  | false =>
      cases hasCommand keyValuesMapping "-t" with
      | true =>
          obtain ⟨actions, hLevel⟩ := @dispatchTriggerMemLevel_ok keyValuesMapping
          simp [hLevel]
      | false =>
          cases hasCommand keyValuesMapping "-f" with
          | true =>
              obtain ⟨printed, dumpInfo, hParsed, hAssigned⟩ := @parseForceReclaim_ok keyValuesMapping
              obtain ⟨result, hReclaim⟩ := @forceReclaimByDump_ok answers dumpInfo hAssigned
              simp [hParsed, hReclaim, bind, Except.bind, pure, Except.pure]
          | false =>
              cases hasCommand keyValuesMapping "-d" with
              | true => simp [parseAppState_eq_error_iff]
              | false => simp [pure, Except.pure]

/-- Without parameters there is no command. -/
theorem hasCommand_of_isEmpty (hEmpty : keyValuesMapping.isEmpty = true) (command : String) :
    hasCommand keyValuesMapping command = false := by
  rw [Std.ExtTreeMap.isEmpty_iff.mp hEmpty]
  exact Std.ExtTreeMap.contains_empty

/-- Every command but the last one gets by, whatever it is given. -/
theorem dispatchDumpCommand_eq_error_iff : dispatchDumpCommand answers keyValuesMapping = .error fault ↔
    (∀ command ∈ earlierCommands, hasCommand keyValuesMapping command = false) ∧
      hasCommand keyValuesMapping "-d" = true ∧ fault = .exception ∧
        ¬ ReadsAppState (valuesOf keyValuesMapping "-d") := by
  simp only [earlierCommands, List.forall_mem_cons, List.not_mem_nil, false_imp_iff, implies_true, and_true]
  rw [dispatchDumpCommand]
  cases hEmpty : keyValuesMapping.isEmpty with
  | true => simp [hasCommand_of_isEmpty hEmpty]
  | false =>
      cases hasCommand keyValuesMapping "-h" with
      | true => simp
      | false =>
          cases hasCommand keyValuesMapping "-a" with
          | true => simp
          | false =>
              cases hasCommand keyValuesMapping "-e" with
              | true => simp
              | false =>
                  cases hasCommand keyValuesMapping "-r" with
                  | true => simp
                  | false =>
                      cases hasCommand keyValuesMapping "-c" with
                      | true => simp
                      | false => simpa using purgeableMemoryDump_eq_error_iff

/-- The values of a command are those that were given behind it. -/
theorem valuesOf_parseParams {command : String} (hGiven : givenValues command params = some values) :
    valuesOf (parseParams params ∅) command = values := by
  rw [valuesOf, getElem?_parseParams, hGiven]
  rfl

/-- A command is there if and only if it is among the arguments. -/
theorem hasCommand_parseParams {command : String} (hKey : isKey command = true) :
    hasCommand (parseParams params ∅) command = true ↔ command ∈ params := by
  rw [hasCommand, ← Std.ExtTreeMap.mem_iff_contains, ← not_iff_not, ← Std.ExtTreeMap.getElem?_eq_none_iff,
    getElem?_parseParams, givenValues_eq_none_iff hKey]

/-- None of the commands that go first is found when none of them was given. -/
theorem not_earlierCommands : (∀ command ∈ earlierCommands,
    hasCommand (parseParams params ∅) command = false) ↔
      ¬ ∃ command ∈ earlierCommands, command ∈ params := by
  have hKeys : ∀ command ∈ earlierCommands, isKey command = true := by decide
  constructor
  · rintro hNone ⟨command, hMem, hGiven⟩
    have hNot := hNone command hMem
    rw [(hasCommand_parseParams (hKeys command hMem)).mpr hGiven] at hNot
    cases hNot
  · intro hNone command hMem
    rw [← Bool.not_eq_true, hasCommand_parseParams (hKeys command hMem)]
    exact fun hGiven => hNone ⟨command, hMem, hGiven⟩

/-- A dump goes wrong only by an exception, and in just the dumps where `-d` is given what cannot be
read. -/
theorem dump_eq_error_iff : dump answers params = .error fault ↔
    fault = .exception ∧ ¬ NumbersGiven params := by
  have hKey : isKey "-d" = true := by decide
  rw [dump, dispatchDumpCommand_eq_error_iff, not_earlierCommands, NumbersGiven, not_or,
    hasCommand_parseParams hKey]
  cases hGiven : givenValues "-d" params with
  | none =>
      have hNot := (givenValues_eq_none_iff hKey).mp hGiven
      simp [hNot]
  | some values =>
      have hMem : "-d" ∈ params := by
        by_contra hNot
        rw [(givenValues_eq_none_iff hKey).mpr hNot] at hGiven
        cases hGiven
      rw [valuesOf_parseParams hGiven, and_iff_right hMem]
      simp only [Option.mem_some_iff, forall_eq']
      exact and_left_comm

/-- A dump is safe with just the arguments that give it numbers where it takes some. -/
theorem dumpsSafely_iff (params : List String) : DumpsSafely params ↔ NumbersGiven params := by
  constructor
  · intro hSafe
    by_contra hNot
    exact hSafe.caught ⟨fun _ => none, fun _ => true⟩ (dump_eq_error_iff.mpr ⟨rfl, hNot⟩)
  · intro hNumbers
    exact
      { caught := fun _ hThrown => (dump_eq_error_iff.mp hThrown).2 hNumbers
        elements := fun _ hAbsent => absurd (dump_eq_error_iff.mp hAbsent).1 (by decide)
        fields := fun _ hField => absurd (dump_eq_error_iff.mp hField).1 (by decide) }

/-- The first of three values is no number. -/
theorem not_dumpsSafely : ¬ DumpsSafely ["-d", "pid", "1", "2"] := by
  intro hSafe
  exact absurd (hSafe.caught ⟨fun _ => none, fun _ => true⟩) (by decide)

end DumpCommandDispatcher
end MemMgr
