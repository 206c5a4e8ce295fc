import MemMgr.MemMgrCalls

/-! What a call comes to. From whatever end it is looked at, it is at most one call of the service:
a message acts as a call that its sender may make, and a call that reports success has been made. -/
namespace MemMgr

/-- A vector that memory can hold. -/
abbrev WindowInfos := { infos : List (Option WindowInfoParcel) // infos.length < 2 ^ 32 }

inductive MemMgrCall (ω : Type) where
  | getBundlePriorityList (bundlePrioList : BundleInfos)
  | notifyDistDevStatus (pid uid : Int32) (name : ParcelString) (connected : Bool)
  | getKillLevelOfLmkd
  | registerActiveApps (pid uid : Int32)
  | deregisterActiveApps (pid uid : Int32)
  | subscribeAppState (subscriber : Option ω)
  | unsubscribeAppState (subscriber : Option ω)
  | getAvailableMemory
  | getTotalMemory
  | onWindowVisibilityChanged (infos : WindowInfos)
  | getReclaimPriorityByPid (pid : Int32)
  | notifyProcessStateChangedSync (processStateInfo : MemMgrProcessStateInfo)
  | notifyProcessStateChangedAsync (processStateInfo : MemMgrProcessStateInfo)
  | notifyProcessStatus (pid type status saId : Int32)
  | setCritical (pid : Int32) (critical : Bool) (saId : Int32)

/-- What becomes of a message and of its answer. -/
inductive Transport where
  | delivered
  | requestLost (error : { error : Int32 // error ≠ 0 })
  | replyLost (error : { error : Int32 // error ≠ 0 })

namespace MemMgrCall

variable {β σ ω : Type}

/-- Whether the caller is told at all what has become of the call. -/
def reports : MemMgrCall ω → Bool
  | .notifyProcessStatus _ _ _ _ => false
  | .setCritical _ _ _ => false
  | _ => true

/-- Whether a success is that of the service. The list of bundles may be torn on its way back,
where there is no room for it. -/
def Sure (replyRoom : List β → Bool) : MemMgrCall ω → Prop
  | .getBundlePriorityList _ => ∀ content, replyRoom content = true
  | .notifyProcessStatus _ _ _ _ => False
  | .setCritical _ _ _ => False
  | _ => True

/-- Who may make a call, and with how much. -/
def Allowed (caller : Caller) : MemMgrCall ω → Prop
  | .getBundlePriorityList bundlePrioList => bundlePrioList.1.length ≤ 1000
  | .onWindowVisibilityChanged infos => infos.1.length ≤ MemMgrStub.maxParcelSize
  | .getReclaimPriorityByPid _ => caller.uid = MemMgrStub.cameraServiceUid
  | .notifyProcessStateChangedSync _ => caller.uid = MemMgrStub.foundationUid
  | .notifyProcessStateChangedAsync _ => caller.uid = MemMgrStub.foundationUid
  | .notifyProcessStatus _ _ _ _ => caller.nativeOrShell = true
  | .setCritical pid _ _ => caller.nativeOrShell = true ∧ caller.pid = pid
  | _ => True

instance (caller : Caller) (call : MemMgrCall ω) : Decidable (call.Allowed caller) :=
  match call with
  | .getBundlePriorityList bundlePrioList => inferInstanceAs (Decidable (bundlePrioList.1.length ≤ _))
  | .onWindowVisibilityChanged infos => inferInstanceAs (Decidable (infos.1.length ≤ _))
  | .getReclaimPriorityByPid _ => inferInstanceAs (Decidable (caller.uid = _))
  | .notifyProcessStateChangedSync _ => inferInstanceAs (Decidable (caller.uid = _))
  | .notifyProcessStateChangedAsync _ => inferInstanceAs (Decidable (caller.uid = _))
  | .notifyProcessStatus _ _ _ _ => inferInstanceAs (Decidable (caller.nativeOrShell = true))
  | .setCritical pid _ _ => inferInstanceAs (Decidable (caller.nativeOrShell = true ∧ caller.pid = pid))
  | .notifyDistDevStatus _ _ _ _ | .getKillLevelOfLmkd | .registerActiveApps _ _
  | .deregisterActiveApps _ _ | .subscribeAppState _ | .unsubscribeAppState _ | .getAvailableMemory
  | .getTotalMemory => inferInstanceAs (Decidable True)

/-- A value is taken over only with the result 0. -/
def valueResult (called : (Int32 × Int32) × σ) : CallResult × σ :=
  ((called.1.1, if called.1.1 = 0 then some (.number called.1.2) else none), called.2)

def bundlesResult (called : (Int32 × BundleInfos) × σ) : CallResult × σ :=
  ((called.1.1, if called.1.1 = 0 then some (.bundles called.1.2) else none), called.2)

/-- A call made at the service itself. -/
def direct (codes : IpcCodes) (service : IMemMgr σ ω) (call : MemMgrCall ω) (s : σ) : CallResult × σ :=
  let result (called : Int32 × σ) : CallResult × σ := ((called.1, none), called.2)
  match call with
  | .getBundlePriorityList bundlePrioList => bundlesResult (service.getBundlePriorityList bundlePrioList s)
  | .notifyDistDevStatus pid uid name connected =>
      result (service.notifyDistDevStatus pid uid name connected s)
  | .getKillLevelOfLmkd => ((0, some (.number (service.getKillLevel s))), s)
  | .registerActiveApps pid uid => result (service.registerActiveApps pid uid s)
  | .deregisterActiveApps pid uid => result (service.deregisterActiveApps pid uid s)
  | .subscribeAppState none => ((codes.errNullObject, none), s)
  | .subscribeAppState (some subscriber) => result (service.subscribeAppState subscriber s)
  | .unsubscribeAppState none => ((codes.errNullObject, none), s)
  | .unsubscribeAppState (some subscriber) => result (service.unsubscribeAppState subscriber s)
  | .getAvailableMemory => valueResult (service.getAvailableMemory 0 s)
  | .getTotalMemory => valueResult (service.getTotalMemory 0 s)
  | .onWindowVisibilityChanged infos => result (service.onWindowVisibilityChanged infos.1 s)
  | .getReclaimPriorityByPid pid =>
      valueResult (service.getReclaimPriorityByPid pid MemMgrStub.priorityAtFirst s)
  | .notifyProcessStateChangedSync processStateInfo =>
      result (service.notifyProcessStateChangedSync processStateInfo s)
  | .notifyProcessStateChangedAsync processStateInfo =>
      result (service.notifyProcessStateChangedAsync processStateInfo s)
  | .notifyProcessStatus pid type status saId =>
      result (service.notifyProcessStatus pid type status saId s)
  | .setCritical pid critical saId => result (service.setCritical pid critical saId s)

/-- What a call is answered with that may not be made. -/
def refusal (codes : IpcCodes) : MemMgrCall ω → CallResult
  | .getBundlePriorityList _ => (-1, none)
  | .notifyProcessStatus _ _ _ _ => (0, none)
  | .setCritical _ _ _ => (0, none)
  | _ => (codes.ipcStubErr, none)

/-- A list that is too long is not read out of the reply. -/
def readable : CallResult → CallResult
  | (code, some (.bundles list)) =>
      if list.1.length ≤ 1000 then (code, some (.bundles list)) else (-1, none)
  | (code, some (.number value)) => (code, some (.number value))
  | (code, none) => (code, none)

/-- What the caller is told of the result of the service. -/
def told (call : MemMgrCall ω) (result : CallResult) : CallResult :=
  if call.reports then readable result else (0, none)

section

variable (format : ParcelFormat β ω) (codes : IpcCodes) (room : List β → Bool)

/-- A call through the proxy. -/
def viaProxy (remote : Option (Remote β σ)) : MemMgrCall ω → σ → CallResult × σ
  | .getBundlePriorityList bundlePrioList =>
      MemMgrProxy.getBundlePriorityListInfos format codes room remote bundlePrioList
  | .notifyDistDevStatus pid uid name connected =>
      MemMgrProxy.notifyDistDevStatus format codes room remote pid uid name connected
  | .getKillLevelOfLmkd => MemMgrProxy.getKillLevelOfLmkd format codes room remote
  | .registerActiveApps pid uid => MemMgrProxy.registerActiveApps format codes room remote pid uid
  | .deregisterActiveApps pid uid => MemMgrProxy.deregisterActiveApps format codes room remote pid uid
  | .subscribeAppState subscriber => MemMgrProxy.subscribeAppState format codes room remote subscriber
  | .unsubscribeAppState subscriber => MemMgrProxy.unsubscribeAppState format codes room remote subscriber
  | .getAvailableMemory => MemMgrProxy.getAvailableMemory format codes room remote
  | .getTotalMemory => MemMgrProxy.getTotalMemory format codes room remote
  | .onWindowVisibilityChanged infos =>
      MemMgrProxy.onWindowVisibilityChanged format codes room remote infos.1
  | .getReclaimPriorityByPid pid => MemMgrProxy.getReclaimPriorityByPid format codes room remote pid
  | .notifyProcessStateChangedSync processStateInfo =>
      MemMgrProxy.notifyProcessStateChangedSync format codes room remote processStateInfo
  | .notifyProcessStateChangedAsync processStateInfo =>
      MemMgrProxy.notifyProcessStateChangedAsync format codes room remote processStateInfo
  | .notifyProcessStatus pid type status saId =>
      MemMgrProxy.notifyProcessStatus format codes room remote pid type status saId
  | .setCritical pid critical saId => MemMgrProxy.setCritical format codes room remote pid critical saId

/-- The stub behind a transport. -/
def remoteOf (replyRoom : List β → Bool) (service : IMemMgr σ ω) (caller : Caller) (transport : Transport) :
    Remote β σ := fun code data s =>
  let answered := MemMgrStub.onRemoteRequest format codes replyRoom service caller code data s
  match transport with
  | .delivered => answered
  | .requestLost error => ((error.1, []), s)
  | .replyLost error => ((error.1, []), answered.2)

/-- The message of a call, if there is one. -/
def message : MemMgrCall ω → Option (MemMgrInterfaceCode × List (List β))
  | .getBundlePriorityList bundlePrioList =>
      some (.getBundlePriorityList,
        [format.writeParcelable (BundleInfos.marshalling format) (some bundlePrioList)])
  | .notifyDistDevStatus pid uid name connected =>
      some (.notifyDistDevStatus,
        [format.int32.encode pid, format.int32.encode uid, format.string.encode name,
          format.bool.encode connected])
  | .getKillLevelOfLmkd => some (.getKillLevelOfLmkd, [])
  | .registerActiveApps pid uid =>
      some (.registerActiveApps, [format.int32.encode pid, format.int32.encode uid])
  | .deregisterActiveApps pid uid =>
      some (.deregisterActiveApps, [format.int32.encode pid, format.int32.encode uid])
  | .subscribeAppState subscriber =>
      subscriber.map fun subscriber => (.subscribeAppState, [format.remoteObject.encode subscriber])
  | .unsubscribeAppState subscriber =>
      subscriber.map fun subscriber => (.unsubscribeAppState, [format.remoteObject.encode subscriber])
  | .getAvailableMemory => some (.getAvailableMemory, [])
  | .getTotalMemory => some (.getTotalMemory, [])
  | .onWindowVisibilityChanged infos =>
      some (.onWindowVisibilityChanged, format.uint32.encode (UInt32.ofNat infos.1.length) ::
        infos.1.map (format.writeParcelable (WindowInfoParcel.marshalling format)))
  | .getReclaimPriorityByPid pid => some (.getPriorityByPid, [format.int32.encode pid])
  | .notifyProcessStateChangedSync processStateInfo =>
      some (.notifyProcessStateChangedSync,
        [format.writeParcelable (MemMgrProcessStateInfo.marshalling format) (some processStateInfo)])
  | .notifyProcessStateChangedAsync processStateInfo =>
      some (.notifyProcessStateChangedAsync,
        [format.writeParcelable (MemMgrProcessStateInfo.marshalling format) (some processStateInfo)])
  | .notifyProcessStatus pid type status saId =>
      some (.notifyProcessStatus,
        [format.int32.encode pid, format.int32.encode type, format.int32.encode status,
          format.int32.encode saId])
  | .setCritical pid critical saId =>
      some (.setCritical, [format.int32.encode pid, format.bool.encode critical, format.int32.encode saId])

/-- The error of a message that cannot be written. -/
def notWritten : MemMgrCall ω → Int32
  | .getBundlePriorityList _ => codes.errFlattenObject
  | _ => codes.errInvalidData

/-- How the reply to a call is read. -/
def readOf : MemMgrCall ω → List β → CallResult
  | .getBundlePriorityList _ => MemMgrProxy.readBundles format
  | .getKillLevelOfLmkd | .getAvailableMemory | .getTotalMemory | .getReclaimPriorityByPid _ =>
      MemMgrProxy.readValue format codes
  | _ => MemMgrProxy.readResult format codes

/-- What the proxy makes of an answer. -/
def received (read : List β → CallResult) (answered : Int32 × List β) : CallResult :=
  if answered.1 ≠ 0 then (answered.1, none) else read answered.2

end

variable {format : ParcelFormat β ω} {codes : IpcCodes} {room replyRoom : List β → Bool}
variable {service : IMemMgr σ ω} {caller : Caller} {call : MemMgrCall ω}

/-- Every call through the proxy is the message of the call, sent or not, and its reply
read or not. -/
theorem viaProxy_eq (remote : Option (Remote β σ)) (call : MemMgrCall ω) (s : σ) :
    call.viaProxy format codes room remote s =
      match call.message format with
      | none => ((codes.errNullObject, none), s)
      | some (code, arguments) =>
          if call.reports then
            MemMgrProxy.send format codes room remote (call.notWritten codes) code arguments
              (call.readOf format codes) s
          else MemMgrProxy.notify format codes room remote code arguments s := by
  cases call with
  | subscribeAppState subscriber => cases subscriber <;> rfl
  | unsubscribeAppState subscriber => cases subscriber <;> rfl
  | _ => rfl

/-- A result that fits into the reply is received as it was answered. -/
theorem received_answer_result (ret : Int32) :
    received (MemMgrProxy.readResult format codes) (MemMgrStub.answer format codes replyRoom ret ret) =
      if replyRoom (format.int32.encode ret) then (ret, none) else (codes.ipcStubErr, none) := by
  rw [MemMgrStub.answer, Codec.append, List.nil_append]
  split_ifs
  · rw [Codec.append, received, MemMgrProxy.readResult, Codec.decode_encode_nil]
    split_ifs <;> rfl
  · rw [received, if_pos codes.ipcStubErr_ne]

/-- A value that fits into the reply is received with the result 0 only. -/
theorem received_answer_value (ret value : Int32) :
    received (MemMgrProxy.readValue format codes) (MemMgrStub.answer format codes replyRoom ret value) =
      if replyRoom (format.int32.encode value) then (ret, if ret = 0 then some (.number value) else none)
      else (codes.ipcStubErr, none) := by
  rw [MemMgrStub.answer, Codec.append, List.nil_append]
  split_ifs with _ hRet
  · rw [Codec.append, received, MemMgrProxy.readValue, Codec.decode_encode_nil, hRet]
    rfl
  · rw [Codec.append, received, if_pos hRet]
  · rw [received, if_pos codes.ipcStubErr_ne]

/-- Codes are told apart by their numbers. -/
theorem ofUInt32_toUInt32 (code : MemMgrInterfaceCode) :
    MemMgrInterfaceCode.ofUInt32 code.toUInt32 = some code := by
  cases code <;> rfl

/-- A refusal that is reported is no success. -/
theorem refusal_ne_zero (hReports : call.reports = true) : (call.refusal codes).1 ≠ 0 := by
  cases call with
  | getBundlePriorityList bundlePrioList => exact Int32.neg_ne_zero.mpr (by decide)
  | notifyProcessStatus pid type status saId => cases hReports
  | setCritical pid critical saId => cases hReports
  | _ => exact codes.ipcStubErr_ne

/-- A caller who is told of a success is told what the service answered. -/
theorem told_of_success {result : CallResult} (hReports : call.reports = true)
    (hSuccess : (call.told result).1 = 0) : call.told result = result := by
  rw [told, if_pos hReports] at hSuccess ⊢
  obtain ⟨code, value⟩ := result
  rcases value with - | (number | list)
  · rfl
  · rfl
  · rw [readable] at hSuccess ⊢
    split_ifs at hSuccess with hFits
    · exact if_pos hFits
    · exact absurd hSuccess (by decide)

theorem told_number (hReports : call.reports = true) (code value : Int32) :
    call.told (code, if code = 0 then some (.number value) else none) =
      (code, if code = 0 then some (.number value) else none) := by
  rw [told, if_pos hReports]
  split_ifs <;> rfl

theorem told_code (hReports : call.reports = true) (code : Int32) :
    call.told (code, none) = (code, none) := by
  rw [told, if_pos hReports]
  rfl

/-- The answer to the message of a call: that of the service, if it may be made and can be written. -/
structure Answered (replyRoom : List β → Bool) (format : ParcelFormat β ω) (codes : IpcCodes)
    (service : IMemMgr σ ω) (caller : Caller) (call : MemMgrCall ω) (s : σ)
    (answered : (Int32 × List β) × σ) : Prop where
  state : answered.2 = if call.Allowed caller then (call.direct codes service s).2 else s
  refused : call.reports = true → ¬ call.Allowed caller →
    received (call.readOf format codes) answered.1 = call.refusal codes
  result : call.reports = true → call.Allowed caller →
    received (call.readOf format codes) answered.1 = call.told (call.direct codes service s).1 ∨
      (∃ content, replyRoom content = false) ∧
        (call.Sure replyRoom → (received (call.readOf format codes) answered.1).1 ≠ 0)

/-- A call that may be made is made. -/
theorem Answered.made {s : σ} {answered : (Int32 × List β) × σ} (hAllowed : call.Allowed caller)
    (h : Answered replyRoom format codes service caller call s answered) :
    answered.2 = (call.direct codes service s).2 :=
  h.state.trans (if_pos hAllowed)

/-- A call that may not be made leaves the service as it was. -/
theorem Answered.kept {s : σ} {answered : (Int32 × List β) × σ} (hNot : ¬ call.Allowed caller)
    (h : Answered replyRoom format codes service caller call s answered) : answered.2 = s :=
  h.state.trans (if_neg hNot)

/-- A handler that refuses has left the service as it was. -/
theorem answered_refused {s : σ} (hNot : ¬ call.Allowed caller)
    (hRefusal : call.reports = true → call.refusal codes = (codes.ipcStubErr, none)) :
    Answered replyRoom format codes service caller call s (MemMgrStub.refuse codes s) := by
  refine ⟨(if_neg hNot).symm, fun hReports _ => ?_, fun _ hAllowed => absurd hAllowed hNot⟩
  rw [MemMgrStub.refuse, received, if_pos codes.ipcStubErr_ne, hRefusal hReports]

/-- A handler that first looks who is calling. -/
theorem answered_guarded {guard : Bool} {s : σ} {handled : (Int32 × List β) × σ}
    (hGuard : call.Allowed caller → guard = true)
    (hRefusal : call.reports = true → call.refusal codes = (codes.ipcStubErr, none))
    (hHandled : guard = true → Answered replyRoom format codes service caller call s handled) :
    Answered replyRoom format codes service caller call s
      (if !guard then MemMgrStub.refuse codes s else handled) := by
  cases guard with
  | true => exact hHandled rfl
  | false => exact answered_refused (fun hAllowed => Bool.false_ne_true (hGuard hAllowed)) hRefusal

/-- A handler that replies with the result of the service answers its call. -/
theorem answered_result {s : σ} {done : Int32 × σ} (hAllowed : call.Allowed caller)
    (hRead : call.readOf format codes = MemMgrProxy.readResult format codes)
    (hDirect : call.direct codes service s = ((done.1, none), done.2)) :
    Answered replyRoom format codes service caller call s
      (MemMgrStub.answer format codes replyRoom done.1 done.1, done.2) := by
  refine ⟨?_, fun _ hNot => absurd hAllowed hNot, fun hReports _ => ?_⟩
  · rw [if_pos hAllowed, hDirect]
  · rw [hRead, received_answer_result, hDirect, told_code hReports]
    split_ifs with hRoom
    · exact Or.inl rfl
    · exact Or.inr ⟨⟨_, by simpa using hRoom⟩, fun _ => codes.ipcStubErr_ne⟩

/-- A handler that replies with a value of the service answers its call. -/
theorem answered_value {s : σ} {done : (Int32 × Int32) × σ} (hAllowed : call.Allowed caller)
    (hRead : call.readOf format codes = MemMgrProxy.readValue format codes)
    (hDirect : call.direct codes service s = valueResult done) :
    Answered replyRoom format codes service caller call s
      (MemMgrStub.answer format codes replyRoom done.1.1 done.1.2, done.2) := by
  refine ⟨?_, fun _ hNot => absurd hAllowed hNot, fun hReports _ => ?_⟩
  · rw [if_pos hAllowed, hDirect]
    rfl
  · rw [hRead, received_answer_value, hDirect, valueResult, told_number hReports]
    cases hRoom : replyRoom (format.int32.encode done.1.2) with
    | true => exact Or.inl rfl
    | false => exact Or.inr ⟨⟨_, hRoom⟩, fun _ => codes.ipcStubErr_ne⟩

/-- A list of bundles that is written as an object is read back if it is not too long. -/
theorem readParcelable_bundles (list : BundleInfos) :
    (format.readParcelable (BundleInfos.unmarshalling format)
        (format.writeParcelable (BundleInfos.marshalling format) (some list))).1 =
      if list.1.length ≤ 1000 then some list else none := by
  have hBack := BundleInfos.unmarshalling_marshalling format list []
  rw [← List.append_nil (format.writeParcelable (BundleInfos.marshalling format) (some list))]
  by_cases hFits : list.1.length ≤ 1000
  · rw [if_pos hFits] at hBack ⊢
    rw [format.readParcelable_some hBack]
  · rw [if_neg hFits] at hBack ⊢
    exact format.readParcelable_failed hBack

/-- The list that is read out is the one that was written, unless it was torn or is too long. -/
theorem received_replyBundles (ret : Int32) (list : BundleInfos) (bundlePrioList : BundleInfos)
    (hRoom : ∀ content, replyRoom content = true) :
    received (MemMgrProxy.readBundles format) (ret, MemMgrStub.replyBundles format replyRoom list) =
      (getBundlePriorityList bundlePrioList : MemMgrCall ω).told
        (ret, if ret = 0 then some (.bundles list) else none) := by
  rw [received, MemMgrStub.replyBundles]
  dsimp only
  rw [if_pos (hRoom _)]
  change _ = readable (ret, if ret = 0 then some (.bundles list) else none)
  by_cases hRet : ret = 0
  · rw [if_neg (not_not.mpr hRet), if_pos hRet, MemMgrProxy.readBundles, readParcelable_bundles, hRet]
    rw [readable]
    split_ifs <;> rfl
  · rw [if_pos hRet, if_neg hRet]
    rfl

/-- The handler of the list answers its call, except that the reply may be torn. -/
theorem answered_bundles (bundlePrioList : BundleInfos) (s : σ) :
    Answered replyRoom format codes service caller (.getBundlePriorityList bundlePrioList) s
      (MemMgrStub.handleGetBunldePriorityListInfos format replyRoom service
        (format.writeParcelable (BundleInfos.marshalling format) (some bundlePrioList)) s) := by
  rw [MemMgrStub.handleGetBunldePriorityListInfos, readParcelable_bundles]
  by_cases hFits : bundlePrioList.1.length ≤ 1000
  · rw [if_pos hFits]
    refine ⟨(if_pos hFits).symm, fun _ hNot => absurd hFits hNot, fun _ _ => ?_⟩
    by_cases hRoom : ∀ content, replyRoom content = true
    · exact Or.inl (received_replyBundles _ _ bundlePrioList hRoom)
    · refine Or.inr ⟨?_, fun hSure => absurd hSure hRoom⟩
      obtain ⟨content, hFull⟩ := not_forall.mp hRoom
      exact ⟨content, by simpa using hFull⟩
  · rw [if_neg hFits]
    refine ⟨(if_neg hFits).symm, fun _ _ => ?_, fun _ hAllowed => absurd hAllowed hFits⟩
    rfl

/-- The windows of a message that is not too long are those that were put into it. -/
theorem readInfos_message {infos : List (Option WindowInfoParcel)} (hLength : infos.length < 2 ^ 32) :
    MemMgrStub.readInfos format ((format.uint32.encode (UInt32.ofNat infos.length) ::
        infos.map (format.writeParcelable (WindowInfoParcel.marshalling format))).flatten) =
      if infos.length ≤ MemMgrStub.maxParcelSize then some (infos, []) else none := by
  have hLen : (UInt32.ofNat infos.length).toNat = infos.length := UInt32.toNat_ofNat_of_lt' hLength
  have hRead : ∀ value rest, MemMgrStub.readInfo format
      (format.writeParcelable (WindowInfoParcel.marshalling format) value ++ rest) = some (value, rest) := by
    intro value rest
    have hFour := format.sizeof_int32_le (WindowInfoParcel.marshalling format) value
    rw [MemMgrStub.readInfo, if_neg (by rw [List.length_append]; omega)]
    exact congrArg some (format.readParcelable_write (WindowInfoParcel.codec format) value rest)
  have hBytes : infos.length ≤
      (infos.flatMap (format.writeParcelable (WindowInfoParcel.marshalling format))).length := by
    clear hLength hLen
    induction infos with
    | nil => simp
    | cons info infos ih =>
        have hFour := format.sizeof_int32_le (WindowInfoParcel.marshalling format) info
        rw [List.flatMap_cons, List.length_append, List.length_cons]
        omega
  rw [MemMgrStub.readInfos, List.flatten_cons, ← List.flatMap_def, Codec.decode_encode,
    Option.getD_some]
  dsimp only
  rw [hLen]
  by_cases hMax : infos.length ≤ MemMgrStub.maxParcelSize
  · have hAll := Codec.readMany_flatMap hRead infos []
    rw [List.append_nil] at hAll
    rw [if_neg (Nat.not_lt.mpr hMax), if_neg (Nat.not_lt.mpr hBytes), if_pos hMax, hAll]
  · rw [if_pos (Nat.not_le.mp hMax), if_neg hMax]

/-- The state of a process is taken out of its message as it was put into it. -/
theorem readProcessStateInfo_message (processStateInfo : MemMgrProcessStateInfo) :
    MemMgrStub.readProcessStateInfo format
        [format.writeParcelable (MemMgrProcessStateInfo.marshalling format) (some processStateInfo)].flatten =
      some (processStateInfo, []) := by
  have hRead : format.readParcelable (MemMgrProcessStateInfo.unmarshalling format)
      (format.writeParcelable (MemMgrProcessStateInfo.marshalling format) (some processStateInfo) ++ []) =
        (some processStateInfo, []) :=
    format.readParcelable_write (MemMgrProcessStateInfo.codec format) (some processStateInfo) []
  rw [MemMgrStub.readProcessStateInfo, List.flatten_cons, List.flatten_nil, hRead]

/-- A call that does not report is answered by what it has done. -/
theorem answered_silent {s after : σ} (hSilent : call.reports = false)
    (hAfter : after = if call.Allowed caller then (call.direct codes service s).2 else s) :
    Answered replyRoom format codes service caller call s ((0, []), after) := by
  refine ⟨hAfter, fun hReports => ?_, fun hReports => ?_⟩
  · rw [hSilent] at hReports
    cases hReports
  · rw [hSilent] at hReports
    cases hReports

/-- The stub takes out of the message of a call what was put into it. -/
theorem answered_message {code : MemMgrInterfaceCode} {arguments : List (List β)}
    (hMessage : call.message format = some (code, arguments)) (s : σ) :
    Answered replyRoom format codes service caller call s
      (MemMgrStub.onRemoteRequestInner format codes replyRoom service caller code.toUInt32
        arguments.flatten s) := by
  rw [MemMgrStub.onRemoteRequestInner, ofUInt32_toUInt32]
  cases call with
  | getBundlePriorityList bundlePrioList =>
      obtain ⟨rfl, rfl⟩ := Prod.mk.inj (Option.some.inj hMessage)
      rw [List.flatten_cons, List.flatten_nil, List.append_nil]
      exact answered_bundles bundlePrioList s
  | notifyDistDevStatus pid uid name connected =>
      obtain ⟨rfl, rfl⟩ := Prod.mk.inj (Option.some.inj hMessage)
      simp only [MemMgrStub.handleNotifyDistDevStatus, List.flatten_cons, List.flatten_nil, List.append_nil,
        Codec.decode_encode, Codec.decode_encode_nil, bind, Option.bind, pure, MemMgrStub.handleResult]
      exact answered_result trivial rfl rfl
  | getKillLevelOfLmkd =>
      obtain ⟨rfl, rfl⟩ := Prod.mk.inj (Option.some.inj hMessage)
      exact @answered_value β σ ω format codes replyRoom service caller .getKillLevelOfLmkd s
        ((0, service.getKillLevel s), s) trivial rfl rfl
  | registerActiveApps pid uid =>
      obtain ⟨rfl, rfl⟩ := Prod.mk.inj (Option.some.inj hMessage)
      simp only [MemMgrStub.handleRegisterActiveApps, MemMgrStub.readPidAndUid, List.flatten_cons,
        List.flatten_nil, List.append_nil,
        Codec.decode_encode, Codec.decode_encode_nil, bind, Option.bind, pure, MemMgrStub.handleResult]
      exact answered_result trivial rfl rfl
  | deregisterActiveApps pid uid =>
      obtain ⟨rfl, rfl⟩ := Prod.mk.inj (Option.some.inj hMessage)
      simp only [MemMgrStub.handleDeregisterActiveApps, MemMgrStub.readPidAndUid, List.flatten_cons,
        List.flatten_nil, List.append_nil,
        Codec.decode_encode, Codec.decode_encode_nil, bind, Option.bind, pure, MemMgrStub.handleResult]
      exact answered_result trivial rfl rfl
  | subscribeAppState subscriber =>
      cases subscriber with
      | none => cases hMessage
      | some subscriber =>
          obtain ⟨rfl, rfl⟩ := Prod.mk.inj (Option.some.inj hMessage)
          simp only [MemMgrStub.handleSubscribeAppState, List.flatten_cons, List.flatten_nil, List.append_nil,
            Codec.decode_encode_nil, MemMgrStub.handleResult]
          exact answered_result trivial rfl rfl
  | unsubscribeAppState subscriber =>
      cases subscriber with
      | none => cases hMessage
      | some subscriber =>
          obtain ⟨rfl, rfl⟩ := Prod.mk.inj (Option.some.inj hMessage)
          simp only [MemMgrStub.handleUnsubscribeAppState, List.flatten_cons, List.flatten_nil, List.append_nil,
            Codec.decode_encode_nil, MemMgrStub.handleResult]
          exact answered_result trivial rfl rfl
  | getAvailableMemory =>
      obtain ⟨rfl, rfl⟩ := Prod.mk.inj (Option.some.inj hMessage)
      exact answered_value trivial rfl rfl
  | getTotalMemory =>
      obtain ⟨rfl, rfl⟩ := Prod.mk.inj (Option.some.inj hMessage)
      exact answered_value trivial rfl rfl
  | onWindowVisibilityChanged infos =>
      obtain ⟨rfl, rfl⟩ := Prod.mk.inj (Option.some.inj hMessage)
      simp only [MemMgrStub.handleOnWindowVisibilityChanged, readInfos_message infos.2]
      split_ifs with hMax
      · exact answered_result hMax rfl rfl
      · exact answered_refused hMax fun _ => rfl
  | getReclaimPriorityByPid pid =>
      obtain ⟨rfl, rfl⟩ := Prod.mk.inj (Option.some.inj hMessage)
      have hPid := format.uint32_int32 pid []
      rw [List.append_nil] at hPid
      dsimp only
      rw [MemMgrStub.handleGetReclaimPriorityByPid]
      apply answered_guarded decide_eq_true fun _ => rfl
      intro hCamera
      rw [List.flatten_cons, List.flatten_nil, List.append_nil, hPid]
      exact answered_value (of_decide_eq_true hCamera) rfl rfl
  | notifyProcessStateChangedSync processStateInfo =>
      obtain ⟨rfl, rfl⟩ := Prod.mk.inj (Option.some.inj hMessage)
      dsimp only
      rw [MemMgrStub.handleNotifyProcessStateChangedSync, readProcessStateInfo_message]
      apply answered_guarded decide_eq_true fun _ => rfl
      intro hFoundation
      exact answered_result (of_decide_eq_true hFoundation) rfl rfl
  | notifyProcessStateChangedAsync processStateInfo =>
      obtain ⟨rfl, rfl⟩ := Prod.mk.inj (Option.some.inj hMessage)
      dsimp only
      rw [MemMgrStub.handleNotifyProcessStateChangedAsync, readProcessStateInfo_message]
      apply answered_guarded decide_eq_true fun _ => rfl
      intro hFoundation
      exact answered_result (of_decide_eq_true hFoundation) rfl rfl
  | notifyProcessStatus pid type status saId =>
      obtain ⟨rfl, rfl⟩ := Prod.mk.inj (Option.some.inj hMessage)
      dsimp only
      rw [MemMgrStub.handleNotifyProcessStatus]
      refine answered_guarded id (fun hReports => by cases hReports) fun hToken => ?_
      simp only [MemMgrStub.readProcessStatus, List.flatten_cons, List.flatten_nil, List.append_nil,
        Codec.decode_encode, Codec.decode_encode_nil, bind, Option.bind, pure]
      exact answered_silent rfl (if_pos hToken).symm
  | setCritical pid critical saId =>
      obtain ⟨rfl, rfl⟩ := Prod.mk.inj (Option.some.inj hMessage)
      dsimp only
      rw [MemMgrStub.handleSetCritical]
      refine answered_guarded And.left (fun hReports => by cases hReports) fun hToken => ?_
      simp only [MemMgrStub.readCritical, List.flatten_cons, List.flatten_nil, List.append_nil,
        Codec.decode_encode, Codec.decode_encode_nil, bind, Option.bind, pure]
      by_cases hPid : caller.pid = pid
      · rw [if_neg (not_not.mpr hPid)]
        exact answered_silent rfl (if_pos ⟨hToken, hPid⟩).symm
      · rw [if_pos hPid]
        exact answered_silent rfl (if_neg fun hBoth => hPid hBoth.2).symm

/-- A message that the proxy has written starts with the token that the stub asks for. -/
theorem onRemoteRequest_written (code : UInt32) (data : List β) (s : σ) :
    MemMgrStub.onRemoteRequest format codes replyRoom service caller code
        (format.interfaceToken.encode descriptor ++ data) s =
      MemMgrStub.onRemoteRequestInner format codes replyRoom service caller code data s := by
  rw [MemMgrStub.onRemoteRequest, Codec.decode_encode, Option.getD_some]
  exact if_neg (not_not.mpr rfl)

/-- What is sent is the token and the arguments, and what cannot be written is not sent. -/
theorem request_cases {notWritten : Int32} (hError : notWritten ≠ 0) (arguments : List (List β)) :
    (∃ error, error ≠ 0 ∧ MemMgrProxy.request format codes room notWritten arguments = .error error ∧
        ¬ ∀ content, room content = true) ∨
      MemMgrProxy.request format codes room notWritten arguments =
        .ok (format.interfaceToken.encode descriptor ++ arguments.flatten) := by
  rw [MemMgrProxy.request]
  cases hToken : Codec.append room [] [format.interfaceToken.encode descriptor] with
  | none =>
      refine Or.inl ⟨_, codes.errFlattenObject_ne, rfl, fun hRoom => ?_⟩
      rw [Codec.append_of_room hRoom] at hToken
      cases hToken
  | some data =>
      dsimp only
      cases hData : Codec.append room data arguments with
      | none =>
          refine Or.inl ⟨_, hError, rfl, fun hRoom => ?_⟩
          rw [Codec.append_of_room hRoom] at hData
          cases hData
      | some written =>
          right
          rw [Codec.eq_of_append hData, Codec.eq_of_append hToken]
          simp

/-- What comes back from the stub, and the state it leaves. -/
theorem send_remoteOf (transport : Transport) (code : UInt32) (data : List β) (s : σ) :
    let answered := MemMgrStub.onRemoteRequestInner format codes replyRoom service caller code data s
    remoteOf format codes replyRoom service caller transport code
        (format.interfaceToken.encode descriptor ++ data) s =
      match transport with
      | .delivered => answered
      | .requestLost error => ((error.1, []), s)
      | .replyLost error => ((error.1, []), answered.2) := by
  simp only [remoteOf, onRemoteRequest_written]

/-- Either nothing was done, and the caller was not told that it was, or the call was made as it may
be made, and success is the success of the service. -/
def MadeAtMostOnce (replyRoom : List β → Bool) (codes : IpcCodes) (service : IMemMgr σ ω) (caller : Caller)
    (call : MemMgrCall ω) (s : σ) (done : CallResult × σ) : Prop :=
  (done.2 = s ∧ (call.reports = true → done.1.1 ≠ 0)) ∨
    (call.Allowed caller ∧ done.2 = (call.direct codes service s).2 ∧
      (call.Sure replyRoom → done.1.1 = 0 → done.1 = (call.direct codes service s).1))

/-- Only a call that reports can be sure of its success. -/
theorem reports_of_sure (hSure : call.Sure replyRoom) : call.reports = true := by
  cases call with
  | notifyProcessStatus pid type status saId => exact hSure.elim
  | setCritical pid critical saId => exact hSure.elim
  | _ => rfl

theorem notWritten_ne_zero (call : MemMgrCall ω) : call.notWritten codes ≠ 0 := by
  cases call with
  | getBundlePriorityList bundlePrioList => exact codes.errFlattenObject_ne
  | _ => exact codes.errInvalidData_ne

/-- A call that fails before it is sent has not been made. -/
theorem madeAtMostOnce_of_refused {s : σ} {error : Int32} (hError : error ≠ 0) :
    MadeAtMostOnce replyRoom codes service caller call s ((error, none), s) :=
  Or.inl ⟨rfl, fun _ => hError⟩

/-- A call whose reply is read has been made once or not at all, however it travelled. -/
theorem send_transport {code : MemMgrInterfaceCode} {arguments : List (List β)}
    (hMessage : call.message format = some (code, arguments)) (hReports : call.reports = true)
    (transport : Transport) (s : σ) :
    MadeAtMostOnce replyRoom codes service caller call s
      (MemMgrProxy.send format codes room
        (some (remoteOf format codes replyRoom service caller transport)) (call.notWritten codes) code arguments
        (call.readOf format codes) s) := by
  have hAnswered := @answered_message β σ ω format codes replyRoom service caller call code arguments hMessage s
  rw [MemMgrProxy.send]
  rcases @request_cases β ω format codes room _ (notWritten_ne_zero call) arguments with
    ⟨error, hError, hNot, -⟩ | hSent
  · rw [hNot]
    exact madeAtMostOnce_of_refused hError
  · rw [hSent]
    dsimp only
    rw [send_remoteOf]
    cases transport with
    | requestLost error =>
        dsimp only
        rw [if_pos error.2]
        exact madeAtMostOnce_of_refused error.2
    | replyLost error =>
        dsimp only
        rw [if_pos error.2]
        by_cases hAllowed : call.Allowed caller
        · exact Or.inr ⟨hAllowed, hAnswered.made hAllowed, fun _ hZero => absurd hZero error.2⟩
        · exact Or.inl ⟨hAnswered.kept hAllowed, fun _ => error.2⟩
    | delivered =>
        by_cases hAllowed : call.Allowed caller
        · refine Or.inr ⟨hAllowed, hAnswered.made hAllowed, fun hSure hZero => ?_⟩
          rcases hAnswered.result hReports hAllowed with hTold | ⟨-, hFailed⟩
          · exact hTold.trans (told_of_success hReports ((congrArg Prod.fst hTold).symm.trans hZero))
          · exact absurd hZero (hFailed hSure)
        · refine Or.inl ⟨hAnswered.kept hAllowed, fun _ hZero => ?_⟩
          exact refusal_ne_zero hReports
            ((congrArg Prod.fst (hAnswered.refused hReports hAllowed)).symm.trans hZero)

/-- A call that reports nothing need only be made once at most. -/
theorem madeAtMostOnce_of_silent {s after : σ} {result : CallResult} (hSilent : call.reports = false)
    (hAfter : after = s ∨ after = if call.Allowed caller then (call.direct codes service s).2 else s) :
    MadeAtMostOnce replyRoom codes service caller call s (result, after) := by
  have hNever : ∀ {p : Prop}, call.reports = true → p := fun hReports => by
    rw [hSilent] at hReports
    cases hReports
  rcases hAfter with hSame | hMade
  · exact Or.inl ⟨hSame, hNever⟩
  · by_cases hAllowed : call.Allowed caller
    · rw [if_pos hAllowed] at hMade
      exact Or.inr ⟨hAllowed, hMade, fun hSure => hNever (reports_of_sure hSure)⟩
    · rw [if_neg hAllowed] at hMade
      exact Or.inl ⟨hMade, hNever⟩

/-- A call whose reply is not read has been made once or not at all, however it travelled. -/
theorem notify_remoteOf {code : MemMgrInterfaceCode} {arguments : List (List β)}
    (hMessage : call.message format = some (code, arguments)) (hSilent : call.reports = false)
    (transport : Transport) (s : σ) :
    MadeAtMostOnce replyRoom codes service caller call s
      (MemMgrProxy.notify format codes room
        (some (remoteOf format codes replyRoom service caller transport)) code arguments s) := by
  have hAnswered := @answered_message β σ ω format codes replyRoom service caller call code arguments hMessage s
  rw [MemMgrProxy.notify]
  rcases @request_cases β ω format codes room _ codes.errInvalidData_ne arguments with
    ⟨error, hError, hNot, -⟩ | hSent
  · rw [hNot]
    exact madeAtMostOnce_of_refused hError
  · rw [hSent]
    dsimp only
    rw [send_remoteOf]
    apply madeAtMostOnce_of_silent hSilent
    cases transport with
    | requestLost error => exact Or.inl rfl
    | replyLost error => exact Or.inr hAnswered.state
    | delivered => exact Or.inr hAnswered.state

/-- A call through the proxy has been made once or not at all. -/
theorem madeAtMostOnce_viaProxy (transport : Option Transport) (s : σ) :
    MadeAtMostOnce replyRoom codes service caller call s
      (call.viaProxy format codes room (transport.map (remoteOf format codes replyRoom service caller)) s) := by
  rw [viaProxy_eq]
  cases hMessage : call.message format with
  | none => exact madeAtMostOnce_of_refused codes.errNullObject_ne
  | some sent =>
      obtain ⟨code, arguments⟩ := sent
      dsimp only
      cases transport with
      | none =>
          rw [Option.map_none, MemMgrProxy.send, MemMgrProxy.notify, ite_self]
          exact madeAtMostOnce_of_refused codes.errNullObject_ne
      | some transport =>
          rw [Option.map_some]
          split_ifs with hReports
          · exact send_transport hMessage hReports transport s
          · exact notify_remoteOf hMessage (by simpa using hReports) transport s

/-- With room for everything, every message can be written. -/
theorem request_of_room {notWritten : Int32} (hError : notWritten ≠ 0) (arguments : List (List β)) :
    MemMgrProxy.request format codes (fun _ => true) notWritten arguments =
      .ok (format.interfaceToken.encode descriptor ++ arguments.flatten) := by
  rcases @request_cases β ω format codes (fun _ => true) _ hError arguments with ⟨-, -, -, hNot⟩ | hSent
  · exact absurd (fun _ => rfl) hNot
  · exact hSent

theorem told_of_silent (hSilent : ¬ call.reports = true) (result : CallResult) :
    call.told result = (0, none) :=
  if_neg hSilent

theorem refusal_of_silent (hSilent : ¬ call.reports = true) : call.refusal codes = (0, none) := by
  cases call with
  | notifyProcessStatus pid type status saId => rfl
  | setCritical pid critical saId => rfl
  | _ => exact absurd rfl hSilent

/-- A subscriber that is null is not sent. -/
theorem direct_of_no_message (hMessage : call.message format = none) (s : σ) :
    call.Allowed caller ∧ call.reports = true ∧
      call.direct codes service s = ((codes.errNullObject, none), s) := by
  cases call with
  | subscribeAppState subscriber | unsubscribeAppState subscriber =>
      cases subscriber with
      | none => exact ⟨trivial, rfl, rfl⟩
      | some subscriber => cases hMessage
  | _ => cases hMessage

/-- With nothing lost and room for everything, a call through the proxy is the direct call. -/
theorem viaProxy_delivered (s : σ) :
    call.viaProxy format codes (fun _ => true)
        (some (remoteOf format codes (fun _ => true) service caller .delivered)) s =
      if call.Allowed caller then
        (call.told (call.direct codes service s).1, (call.direct codes service s).2)
      else (call.refusal codes, s) := by
  rw [viaProxy_eq]
  cases hMessage : call.message format with
  | none =>
      obtain ⟨hAllowed, hReports, hNull⟩ :=
        @direct_of_no_message β σ ω format codes service caller call hMessage s
      rw [if_pos hAllowed, hNull, told_code hReports]
  | some sent =>
      obtain ⟨code, arguments⟩ := sent
      have hAnswered := @answered_message β σ ω format codes (fun _ => true) service caller call code arguments
        hMessage s
      dsimp only
      by_cases hReports : call.reports = true
      · rw [if_pos hReports, MemMgrProxy.send, request_of_room (notWritten_ne_zero call)]
        dsimp only
        rw [send_remoteOf]
        dsimp only
        by_cases hAllowed : call.Allowed caller
        · rw [if_pos hAllowed]
          rcases hAnswered.result hReports hAllowed with hTold | ⟨⟨content, hFull⟩, -⟩
          · exact Prod.ext hTold (hAnswered.made hAllowed)
          · cases hFull
        · rw [if_neg hAllowed]
          exact Prod.ext (hAnswered.refused hReports hAllowed) (hAnswered.kept hAllowed)
      · rw [if_neg hReports, MemMgrProxy.notify, request_of_room codes.errInvalidData_ne]
        dsimp only
        rw [send_remoteOf, told_of_silent hReports, refusal_of_silent hReports]
        split_ifs with hAllowed
        · exact Prod.ext rfl (hAnswered.made hAllowed)
        · exact Prod.ext rfl (hAnswered.kept hAllowed)

/-- A call is made at most once, by those who may make it, and its success is real. When nothing is
lost, a call through the proxy is the call of the service, of which the caller is told what it is
told of such a call. -/
theorem viaProxy_direct (format : ParcelFormat β ω) (codes : IpcCodes) (service : IMemMgr σ ω)
    (caller : Caller) (call : MemMgrCall ω) (s : σ) :
    (∀ (room replyRoom : List β → Bool) (transport : Option Transport),
      MadeAtMostOnce replyRoom codes service caller call s
        (call.viaProxy format codes room
          (transport.map (remoteOf format codes replyRoom service caller)) s)) ∧
      call.viaProxy format codes (fun _ => true)
          (some (remoteOf format codes (fun _ => true) service caller .delivered)) s =
        if call.Allowed caller then
          (call.told (call.direct codes service s).1, (call.direct codes service s).2)
        else (call.refusal codes, s) :=
  ⟨fun _ _ transport => madeAtMostOnce_viaProxy transport s, viaProxy_delivered s⟩

/-- A list that is torn behind its mark is read as an empty one. -/
example :
    let list : BundleInfos := ⟨[⟨20000001, ⟨"a", by decide⟩, 400, 100⟩], by decide⟩
    MemMgrProxy.readBundles ByteParcel.format
        (MemMgrStub.replyBundles ByteParcel.format (fun content => content.length ≤ 4) list) =
      (0, some (.bundles ⟨[], by decide⟩)) := by
  decide

/-- What a handler did was nothing, or a call that may be made. -/
def ActsAsCall (codes : IpcCodes) (service : IMemMgr σ ω) (caller : Caller) (s after : σ) : Prop :=
  after = s ∨ ∃ call : MemMgrCall ω, call.Allowed caller ∧ after = (call.direct codes service s).2

/-- A handler acts as the call that its arguments make up, or not at all. -/
theorem actsAsCall_handleResult {α : Type} {arguments : Option (α × List β)} {run : α → σ → Int32 × σ} {s : σ}
    (hCall : ∀ value rest, arguments = some (value, rest) →
      ∃ call : MemMgrCall ω, call.Allowed caller ∧ (run value s).2 = (call.direct codes service s).2) :
    ActsAsCall codes service caller s
      (MemMgrStub.handleResult format codes replyRoom arguments run s).2 := by
  cases arguments with
  | none => exact Or.inl rfl
  | some arguments => exact Or.inr (hCall arguments.1 arguments.2 rfl)

/-- A handler that refuses a caller does nothing for it. -/
theorem actsAsCall_guarded {guard : Bool} {s : σ} {handled : (Int32 × List β) × σ}
    (h : guard = true → ActsAsCall codes service caller s handled.2) :
    ActsAsCall codes service caller s (if !guard then MemMgrStub.refuse codes s else handled).2 := by
  cases guard with
  | true => exact h rfl
  | false => exact Or.inl rfl

/-- No more windows are read than a message may have. -/
theorem length_of_readInfos {data rest : List β} {infos : List (Option WindowInfoParcel)}
    (h : MemMgrStub.readInfos format data = some (infos, rest)) :
    infos.length ≤ MemMgrStub.maxParcelSize := by
  rw [MemMgrStub.readInfos] at h
  dsimp only at h
  split_ifs at h with hMax hFew
  rw [Codec.length_of_readMany h]
  exact Nat.not_lt.mp hMax

/-- Each handler acts as a call that the sender may make, or not at all. -/
theorem actsAsCall_onRemoteRequestInner (code : UInt32) (data : List β) (s : σ) :
    ActsAsCall codes service caller s
      (MemMgrStub.onRemoteRequestInner format codes replyRoom service caller code data s).2 := by
  rw [MemMgrStub.onRemoteRequestInner]
  cases MemMgrInterfaceCode.ofUInt32 code with
  | none => exact Or.inl rfl
  | some code =>
      cases code with
      | getBundlePriorityList =>
          dsimp only
          rw [MemMgrStub.handleGetBunldePriorityListInfos]
          cases hRead : (format.readParcelable (BundleInfos.unmarshalling format) data).1 with
          | none => exact Or.inl rfl
          | some list =>
              obtain ⟨content, rest, hContent⟩ := format.unmarshalling_of_readParcelable hRead
              exact Or.inr ⟨.getBundlePriorityList list,
                BundleInfos.length_of_unmarshalling format hContent, rfl⟩
      | notifyDistDevStatus =>
          exact actsAsCall_handleResult fun (pid, uid, name, connected) rest _ =>
            ⟨.notifyDistDevStatus pid uid name connected, trivial, rfl⟩
      | getKillLevelOfLmkd => exact Or.inl rfl
      | registerActiveApps =>
          exact actsAsCall_handleResult fun (pid, uid) rest _ => ⟨.registerActiveApps pid uid, trivial, rfl⟩
      | deregisterActiveApps =>
          exact actsAsCall_handleResult fun (pid, uid) rest _ => ⟨.deregisterActiveApps pid uid, trivial, rfl⟩
      | subscribeAppState =>
          exact actsAsCall_handleResult fun subscriber rest _ =>
            ⟨.subscribeAppState (some subscriber), trivial, rfl⟩
      | unsubscribeAppState =>
          exact actsAsCall_handleResult fun subscriber rest _ =>
            ⟨.unsubscribeAppState (some subscriber), trivial, rfl⟩
      | getAvailableMemory => exact Or.inr ⟨.getAvailableMemory, trivial, rfl⟩
      | getTotalMemory => exact Or.inr ⟨.getTotalMemory, trivial, rfl⟩
      | onWindowVisibilityChanged =>
          refine actsAsCall_handleResult fun infos rest hRead => ?_
          have hMax := length_of_readInfos hRead
          exact ⟨.onWindowVisibilityChanged ⟨infos, lt_of_le_of_lt hMax (by decide)⟩, hMax, rfl⟩
      | getPriorityByPid =>
          dsimp only
          rw [MemMgrStub.handleGetReclaimPriorityByPid]
          apply actsAsCall_guarded
          intro hCamera
          exact Or.inr ⟨.getReclaimPriorityByPid _, of_decide_eq_true hCamera, rfl⟩
      | notifyProcessStateChangedSync =>
          dsimp only
          rw [MemMgrStub.handleNotifyProcessStateChangedSync]
          apply actsAsCall_guarded
          intro hFoundation
          exact actsAsCall_handleResult fun processStateInfo rest _ =>
            ⟨.notifyProcessStateChangedSync processStateInfo, of_decide_eq_true hFoundation, rfl⟩
      | notifyProcessStateChangedAsync =>
          dsimp only
          rw [MemMgrStub.handleNotifyProcessStateChangedAsync]
          apply actsAsCall_guarded
          intro hFoundation
          exact actsAsCall_handleResult fun processStateInfo rest _ =>
            ⟨.notifyProcessStateChangedAsync processStateInfo, of_decide_eq_true hFoundation, rfl⟩
      | notifyProcessStatus =>
          dsimp only
          rw [MemMgrStub.handleNotifyProcessStatus]
          apply actsAsCall_guarded
          intro hToken
          cases MemMgrStub.readProcessStatus format data with
          | none => exact Or.inl rfl
          | some arguments => exact Or.inr ⟨.notifyProcessStatus _ _ _ _, hToken, rfl⟩
      | setCritical =>
          dsimp only
          rw [MemMgrStub.handleSetCritical]
          apply actsAsCall_guarded
          intro hToken
          cases MemMgrStub.readCritical format data with
          | none => exact Or.inl rfl
          | some arguments =>
              obtain ⟨pid, critical, saId⟩ := arguments
              dsimp only
              split_ifs with hPid
              · exact Or.inl rfl
              · exact Or.inr ⟨.setCritical pid critical saId, ⟨hToken, not_not.mp hPid⟩, rfl⟩

/-- Whatever bytes a process sends, the service is left as it was, or as after one call that this
process may make, and nothing happens without the token. -/
theorem actsAsCall_onRemoteRequest (format : ParcelFormat β ω) (codes : IpcCodes)
    (replyRoom : List β → Bool) (service : IMemMgr σ ω) (caller : Caller) (code : UInt32) (data : List β)
    (s : σ) :
    let after := (MemMgrStub.onRemoteRequest format codes replyRoom service caller code data s).2
    after = s ∨ (∃ rest, format.interfaceToken.decode data = some (descriptor, rest)) ∧
      ∃ call : MemMgrCall ω, call.Allowed caller ∧ after = (call.direct codes service s).2 := by
  dsimp only
  rw [MemMgrStub.onRemoteRequest]
  cases hToken : format.interfaceToken.decode data with
  | none =>
      left
      rw [Option.getD_none]
      dsimp only
      rw [if_pos (by decide)]
  | some found =>
      obtain ⟨remoteDescriptor, rest⟩ := found
      rw [Option.getD_some]
      dsimp only
      split_ifs with hOther
      · exact Or.inl rfl
      · obtain rfl := not_not.mp hOther
        rcases @actsAsCall_onRemoteRequestInner β σ ω format codes replyRoom service caller code rest s with
          hSame | hCall
        · exact Or.inl hSame
        · exact Or.inr ⟨⟨rest, rfl⟩, hCall⟩

end MemMgrCall

/-! The windows, from the manager of the windows to the handler of their observer. -/

/-- The batches of windows that wait for their observer, in the order of its handler. -/
abbrev WindowTasks := List (List (Option MemMgrWindowInfo))

/-- A batch as the observer gets it. -/
def WindowInfos.batch (infos : WindowInfos) : List (Option MemMgrWindowInfo) :=
  infos.1.map (Option.map WindowInfoParcel.toMemMgrWindowInfo)

/-- Only the manager of the windows is heard. -/
def MemMgrService.onWindowVisibilityChanged (windowManagerUid callingUid : Int32)
    (infos : List (Option WindowInfoParcel)) (tasks : WindowTasks) : Int32 × WindowTasks :=
  if callingUid ≠ windowManagerUid then (-1, tasks)
  else (0, tasks ++ [infos.map (Option.map WindowInfoParcel.toMemMgrWindowInfo)])

/-- A call with windows, and what becomes of it. -/
structure WindowMessage (β : Type) where
  caller : Caller
  infos : WindowInfos
  room : List β → Bool
  replyRoom : List β → Bool
  transport : Transport

namespace WindowMessage

variable {β ω : Type} (format : ParcelFormat β ω) (codes : IpcCodes)
variable (services : Caller → IMemMgr WindowTasks ω) (windowManagerUid : Int32)

def deliver (tasks : WindowTasks) (message : WindowMessage β) : WindowTasks :=
  let remote := MemMgrCall.remoteOf format codes message.replyRoom (services message.caller) message.caller
    message.transport
  let call := MemMgrCall.onWindowVisibilityChanged message.infos
  (call.viaProxy format codes message.room (some remote) tasks).2

/-- The batch that the manager of the windows has sent. -/
def sentBatch (message : WindowMessage β) : Option (List (Option MemMgrWindowInfo)) :=
  if message.caller.uid = windowManagerUid then some message.infos.batch else none

/-- There is room for everything, nothing is lost, and there are not too many windows. -/
structure Reliable (message : WindowMessage β) : Prop where
  room : message.room = fun _ => true
  replyRoom : message.replyRoom = fun _ => true
  delivered : message.transport = .delivered
  few : message.infos.1.length ≤ MemMgrStub.maxParcelSize

variable {format codes services windowManagerUid}
variable (hServices : ∀ caller, (services caller).onWindowVisibilityChanged =
  MemMgrService.onWindowVisibilityChanged windowManagerUid caller.uid)

include hServices

/-- The service passes on the windows of their manager, and no others. -/
theorem direct_windows (message : WindowMessage β) (tasks : WindowTasks) :
    ((MemMgrCall.onWindowVisibilityChanged message.infos).direct codes (services message.caller) tasks).2 =
      tasks ++ (message.sentBatch windowManagerUid).toList := by
  change ((services message.caller).onWindowVisibilityChanged message.infos.1 tasks).2 = _
  rw [hServices, MemMgrService.onWindowVisibilityChanged, sentBatch]
  by_cases hManager : message.caller.uid = windowManagerUid
  · rw [if_neg (not_not.mpr hManager), if_pos hManager]
    rfl
  · rw [if_pos hManager, if_neg hManager]
    exact (List.append_nil tasks).symm

/-- A message with windows arrives once or not at all. -/
theorem deliver_cases (message : WindowMessage β) (tasks : WindowTasks) :
    deliver format codes services tasks message = tasks ∨
      deliver format codes services tasks message =
        tasks ++ (message.sentBatch windowManagerUid).toList := by
  rcases @MemMgrCall.madeAtMostOnce_viaProxy β WindowTasks ω format codes message.room message.replyRoom
    (services message.caller) message.caller (.onWindowVisibilityChanged message.infos)
    (some message.transport) tasks with ⟨hSame, -⟩ | ⟨-, hMade, -⟩
  · exact Or.inl hSame
  · exact Or.inr (hMade.trans (direct_windows hServices message tasks))

/-- A message with windows arrives when nothing is lost and there are not too many. -/
theorem deliver_of_reliable {message : WindowMessage β} (h : message.Reliable) (tasks : WindowTasks) :
    deliver format codes services tasks message =
      tasks ++ (message.sentBatch windowManagerUid).toList := by
  have hMade := @MemMgrCall.viaProxy_delivered β WindowTasks ω format codes (services message.caller)
    message.caller (.onWindowVisibilityChanged message.infos) tasks
  have hAllowed :
      (MemMgrCall.onWindowVisibilityChanged message.infos : MemMgrCall ω).Allowed message.caller := h.few
  rw [deliver, h.room, h.replyRoom, h.delivered, hMade, if_pos hAllowed]
  exact @direct_windows β ω codes services windowManagerUid hServices message tasks

/-- The observer hears of the windows only from their manager, in the order of the calls and of each
call at most once. -/
theorem tasks_sublist (messages : List (WindowMessage β)) :
    (messages.foldl (deliver format codes services) []).Sublist
      (messages.filterMap (sentBatch windowManagerUid)) := by
  induction messages using List.reverseRecOn with
  | nil => exact List.Sublist.refl _
  | append_singleton messages message ih =>
      rw [List.foldl_append, List.foldl_cons, List.foldl_nil, List.filterMap_append]
      rcases deliver_cases hServices message (messages.foldl (deliver format codes services) []) with
        hLost | hMade
      · rw [hLost]
        exact ih.trans (List.sublist_append_left _ _)
      · rw [hMade]
        refine ih.append ?_
        cases hSent : message.sentBatch windowManagerUid <;> simp [hSent]

/-- When nothing is lost, it hears of all of them. -/
theorem tasks_of_reliable {messages : List (WindowMessage β)} (h : ∀ message ∈ messages, message.Reliable) :
    messages.foldl (deliver format codes services) [] =
      messages.filterMap (sentBatch windowManagerUid) := by
  induction messages using List.reverseRecOn with
  | nil => rfl
  | append_singleton messages message ih =>
      have hBefore := ih fun message' hMem => h message' (List.mem_append_left _ hMem)
      rw [List.foldl_append, List.foldl_cons, List.foldl_nil, List.filterMap_append, hBefore,
        deliver_of_reliable hServices (h message (by simp))]
      cases hSent : message.sentBatch windowManagerUid <;> simp [hSent]

/-- The updates that the observer goes by are then those that the manager of the windows has sent. -/
theorem updatesOf_tasks {messages : List (WindowMessage β)} (h : ∀ message ∈ messages, message.Reliable) :
    WindowVisibilityObserver.updatesOf ((messages.foldl (deliver format codes services) []).map
        .updateWindowVisibilityPriorityInner) =
      (messages.filterMap (sentBatch windowManagerUid)).flatMap List.reduceOption := by
  rw [tasks_of_reliable hServices h, WindowVisibilityObserver.updatesOf, List.flatMap_map]

end WindowMessage
end MemMgr
