import MemMgr.Library.Codec
import MemMgr.BundlePriorityList
import MemMgr.WindowVisibilityObserver

/-! What travels between a client and the service. How numbers, texts and remote objects are laid
out in a parcel is not known here; what is written is read back, and that is all that is relied on. -/
namespace MemMgr

/-- A text that fits into a parcel. -/
abbrev ParcelString := { text : String // text.utf8ByteSize < 2 ^ 31 }

/-- `MessageParcel`, with the remote objects `ω` that it can carry. -/
structure ParcelFormat (β ω : Type) where
  interfaceToken : Codec β ParcelString
  int32 : Codec β Int32
  uint32 : Codec β UInt32
  bool : Codec β Bool
  string : Codec β ParcelString
  remoteObject : Codec β ω
  /-- A pointer that may be null, with `Marshalling` of its class. -/
  writeParcelable : {α : Type} → (α → List β) → Option α → List β
  /-- The pointer is null as well where `Unmarshalling` fails. -/
  readParcelable : {α : Type} → (List β → Option (α × List β)) → List β → Option α × List β
  /-- What is left of a write that there is no room for. -/
  torn : List β → List β
  readParcelable_null : ∀ {α : Type} (marshalling : α → List β)
    (unmarshalling : List β → Option (α × List β)) rest,
    readParcelable unmarshalling (writeParcelable marshalling none ++ rest) = (none, rest)
  readParcelable_some : ∀ {α : Type} {marshalling : α → List β}
    {unmarshalling : List β → Option (α × List β)} {value rest read},
    unmarshalling (marshalling value ++ rest) = some read →
      readParcelable unmarshalling (writeParcelable marshalling (some value) ++ rest) =
        (some read.1, read.2)
  readParcelable_failed : ∀ {α : Type} {marshalling : α → List β}
    {unmarshalling : List β → Option (α × List β)} {value rest},
    unmarshalling (marshalling value ++ rest) = none →
      (readParcelable unmarshalling (writeParcelable marshalling (some value) ++ rest)).1 = none
  /-- An object has been made by `Unmarshalling`. -/
  unmarshalling_of_readParcelable : ∀ {α : Type} {unmarshalling : List β → Option (α × List β)}
    {data value}, (readParcelable unmarshalling data).1 = some value →
      ∃ content rest, unmarshalling content = some (value, rest)
  sizeof_int32_le : ∀ {α : Type} (marshalling : α → List β) value,
    4 ≤ (writeParcelable marshalling value).length
  /-- A signed number can be read as an unsigned one. -/
  uint32_int32 : ∀ value rest, uint32.decode (int32.encode value ++ rest) = some (value.toUInt32, rest)

/-- Objects that are read back as they were written come out of a parcel as they were put into it. -/
theorem ParcelFormat.readParcelable_write {β ω α : Type} (format : ParcelFormat β ω) (codec : Codec β α)
    (value : Option α) (rest : List β) :
    format.readParcelable codec.decode (format.writeParcelable codec.encode value ++ rest) = (value, rest) := by
  cases value with
  | none => exact format.readParcelable_null codec.encode codec.decode rest
  | some value => exact format.readParcelable_some (codec.decode_encode value rest)

inductive ProcPriorityUpdateReason where
  | startAbility
  | unknown
  deriving DecidableEq

def ProcPriorityUpdateReason.toUInt32 : ProcPriorityUpdateReason → UInt32
  | .startAbility => 0
  | .unknown => 1

structure MemMgrProcessStateInfo where
  callerPid : Int32
  callerUid : Int32
  pid : Int32
  uid : Int32
  reason : ProcPriorityUpdateReason
  deriving DecidableEq

/-- A window as it is sent, with the text that the observer does not look at. -/
structure WindowInfoParcel where
  windowId : UInt32
  pid : Int32
  uid : Int32
  isVisible : Bool
  lastUsedPosition : ParcelString
  deriving DecidableEq

/-- A bundle of the list as it is sent. -/
structure BundlePriorityParcel where
  uid : Int32
  name : ParcelString
  priority : Int32
  accountId : Int32
  deriving DecidableEq

/-- A list of bundles with the number of its entries as the count. -/
abbrev BundleInfos := { list : List BundlePriorityParcel // list.length < 2 ^ 31 }

def WindowInfoParcel.toMemMgrWindowInfo (info : WindowInfoParcel) : MemMgrWindowInfo :=
  ⟨info.windowId.toNat, info.pid.toInt, info.uid.toInt, info.isVisible⟩

section Classes

variable {β ω : Type} (format : ParcelFormat β ω)

namespace WindowInfoParcel

def marshalling (info : WindowInfoParcel) : List β :=
  format.uint32.encode info.windowId ++ (format.int32.encode info.pid ++ (format.int32.encode info.uid ++
    (format.bool.encode info.isVisible ++ format.string.encode info.lastUsedPosition)))

def unmarshalling (parcel : List β) : Option (WindowInfoParcel × List β) := do
  let (windowId, parcel) ← format.uint32.decode parcel
  let (pid, parcel) ← format.int32.decode parcel
  let (uid, parcel) ← format.int32.decode parcel
  let (isVisible, parcel) ← format.bool.decode parcel
  let (lastUsedPosition, parcel) ← format.string.decode parcel
  return (⟨windowId, pid, uid, isVisible, lastUsedPosition⟩, parcel)

def codec : Codec β WindowInfoParcel where
  encode := marshalling format
  decode := unmarshalling format
  decode_encode info rest := by
    simp [marshalling, unmarshalling, List.append_assoc, Codec.decode_encode]

end WindowInfoParcel

namespace MemMgrProcessStateInfo

def marshalling (info : MemMgrProcessStateInfo) : List β :=
  format.int32.encode info.callerPid ++ (format.int32.encode info.callerUid ++
    (format.int32.encode info.pid ++ (format.int32.encode info.uid ++
      format.uint32.encode info.reason.toUInt32)))

/-- Only the start of an ability is a reason that is taken over. -/
def unmarshalling (parcel : List β) : Option (MemMgrProcessStateInfo × List β) := do
  let (callerPid, parcel) ← format.int32.decode parcel
  let (callerUid, parcel) ← format.int32.decode parcel
  let (pid, parcel) ← format.int32.decode parcel
  let (uid, parcel) ← format.int32.decode parcel
  let (reason, parcel) ← format.uint32.decode parcel
  let reason := if reason = ProcPriorityUpdateReason.startAbility.toUInt32 then .startAbility else .unknown
  return (⟨callerPid, callerUid, pid, uid, reason⟩, parcel)

def codec : Codec β MemMgrProcessStateInfo where
  encode := marshalling format
  decode := unmarshalling format
  decode_encode info rest := by
    obtain ⟨callerPid, callerUid, pid, uid, reason⟩ := info
    cases reason <;>
      simp [marshalling, unmarshalling, List.append_assoc, Codec.decode_encode,
        ProcPriorityUpdateReason.toUInt32]

end MemMgrProcessStateInfo

/-- A value of a parcel, in bytes. -/
def ParcelValue.encode : ParcelValue → List β
  | .int32 value => format.int32.encode (Int32.ofInt value)
  | .string value => if h : value.utf8ByteSize < 2 ^ 31 then format.string.encode ⟨value, h⟩ else []

namespace BundlePriorityParcel

/-- The entry that is sent. -/
def toBundlePriority (bundle : BundlePriorityParcel) : BundlePriority :=
  ⟨bundle.uid.toInt, bundle.name.1, bundle.priority.toInt, bundle.accountId.toInt⟩

def marshalling (bundle : BundlePriorityParcel) : List β :=
  format.int32.encode bundle.uid ++ (format.string.encode bundle.name ++
    (format.int32.encode bundle.priority ++ format.int32.encode bundle.accountId))

/-- A number that cannot be read is 0. -/
def readInt32 (parcel : List β) : Int32 × List β := (format.int32.decode parcel).getD (0, parcel)

def unmarshalling (parcel : List β) : Option (BundlePriorityParcel × List β) := do
  let (uid, parcel) := readInt32 format parcel
  let (name, parcel) ← format.string.decode parcel
  let (priority, parcel) := readInt32 format parcel
  let (accountId, parcel) := readInt32 format parcel
  return (⟨uid, name, priority, accountId⟩, parcel)

/-- A bundle that was written is read back, field by field. -/
theorem unmarshalling_marshalling (bundle : BundlePriorityParcel) (rest : List β) :
    unmarshalling format (marshalling format bundle ++ rest) = some (bundle, rest) := by
  simp [marshalling, unmarshalling, readInt32, List.append_assoc, Codec.decode_encode]

end BundlePriorityParcel

namespace BundleInfos

open BundlePriorityParcel (readInt32)

def maxParcelSize : Int32 := 1000

def marshalling (bundles : BundleInfos) : List β :=
  format.int32.encode (Int32.ofNat bundles.1.length) ++
    bundles.1.flatMap (BundlePriorityParcel.marshalling format)

def unmarshalling (parcel : List β) : Option (BundleInfos × List β) :=
  let (count, parcel) := readInt32 format parcel
  if count < 0 ∨ count > maxParcelSize then none
  else
    match h : Codec.readMany (BundlePriorityParcel.unmarshalling format) count.toNatClampNeg parcel with
    | none => none
    | some (list, parcel) =>
        some (⟨list, (Codec.length_of_readMany h).trans_lt count.toNatClampNeg_lt⟩, parcel)

/-- A list comes back as it was written, unless it is too long. -/
theorem unmarshalling_marshalling (bundles : BundleInfos) (rest : List β) :
    unmarshalling format (marshalling format bundles ++ rest) =
      if bundles.1.length ≤ 1000 then some (bundles, rest) else none := by
  have hCount : (Int32.ofNat bundles.1.length).toInt = bundles.1.length := Int32.toInt_ofNat_of_lt bundles.2
  have hLimit : (Int32.ofNat bundles.1.length < 0 ∨ Int32.ofNat bundles.1.length > maxParcelSize) ↔
      ¬ bundles.1.length ≤ 1000 := by
    have hZero : (0 : Int32).toInt = 0 := rfl
    have hMax : maxParcelSize.toInt = 1000 := rfl
    rw [gt_iff_lt, Int32.lt_iff_toInt_lt, Int32.lt_iff_toInt_lt, hCount, hZero, hMax]
    omega
  have hAll := Codec.readMany_flatMap (BundlePriorityParcel.unmarshalling_marshalling format) bundles.1 rest
  rw [← Int32.toNatClampNeg_ofNat_of_lt bundles.2] at hAll
  rw [unmarshalling, marshalling, readInt32, List.append_assoc, Codec.decode_encode, Option.getD_some]
  dsimp only
  by_cases hFits : bundles.1.length ≤ 1000
  · rw [if_neg (hLimit.not.mpr (not_not.mpr hFits)), if_pos hFits]
    split
    · next hNone =>
      rw [hAll] at hNone
      cases hNone
    · next list parcel hSome =>
      obtain ⟨rfl, rfl⟩ := Prod.mk.inj (Option.some.inj (hAll.symm.trans hSome))
      rfl
  · rw [if_pos (hLimit.mpr hFits), if_neg hFits]

/-- No list that is read is too long. -/
theorem length_of_unmarshalling {parcel rest : List β} {bundles : BundleInfos}
    (h : unmarshalling format parcel = some (bundles, rest)) : bundles.1.length ≤ 1000 := by
  rw [unmarshalling] at h
  dsimp only at h
  split_ifs at h with hLimit
  have hMax : ¬ maxParcelSize < (readInt32 format parcel).1 := fun hMore => hLimit (Or.inr hMore)
  rw [Int32.lt_iff_toInt_lt, show maxParcelSize.toInt = 1000 from rfl] at hMax
  split at h
  · cases h
  · next list data hSome =>
    cases h
    have hLength := Codec.length_of_readMany hSome
    rw [← Int32.toNat_toInt] at hLength
    change list.length ≤ 1000
    omega

/-- The list of the parcels that hold values. -/
def toBundlePriorityList (bundles : BundleInfos) : BundlePriorityList :=
  ⟨bundles.1.length, bundles.1.map BundlePriorityParcel.toBundlePriority⟩

/-- The entries of a list are written as the values of their fields, one bundle after the other. -/
theorem writeEntries_values (list : List BundlePriorityParcel) :
    ∃ parcel, BundlePriorityList.writeEntries list.length
        (list.map BundlePriorityParcel.toBundlePriority) = some parcel ∧
      list.flatMap (BundlePriorityParcel.marshalling format) = parcel.flatMap (ParcelValue.encode format) := by
  induction list with
  | nil => exact ⟨[], rfl, rfl⟩
  | cons bundle list ih =>
      obtain ⟨parcel, hWrite, hSame⟩ := ih
      refine ⟨_, by rw [List.length_cons, List.map_cons, BundlePriorityList.writeEntries, hWrite]; rfl, ?_⟩
      have hName : ParcelValue.encode format (.string bundle.name.1) = format.string.encode bundle.name :=
        dif_pos bundle.name.2
      have hNumber : ∀ value : Int32, ParcelValue.encode format (.int32 value.toInt) =
          format.int32.encode value := fun value => by rw [ParcelValue.encode, Int32.ofInt_toInt]
      simp only [List.flatMap_cons, hSame, BundlePriorityParcel.marshalling,
        BundlePriorityParcel.toBundlePriority, hName, hNumber, List.append_assoc]

/-- The bytes of a list are those of its values, and are read as these are read. -/
theorem marshalling_values (bundles : BundleInfos) :
    ∃ parcel, bundles.toBundlePriorityList.marshalling = some parcel ∧
      marshalling format bundles = parcel.flatMap (ParcelValue.encode format) ∧
      (unmarshalling format (marshalling format bundles)).map (fun read => toBundlePriorityList read.1) =
        BundlePriorityList.unmarshalling parcel := by
  obtain ⟨entries, hWrite, hSame⟩ := writeEntries_values format bundles.1
  have hCounted : bundles.toBundlePriorityList.Counted := by
    rw [BundlePriorityList.Counted, toBundlePriorityList, List.length_map]
  have hWritten : bundles.toBundlePriorityList.marshalling = some (.int32 bundles.1.length :: entries) := by
    rw [BundlePriorityList.marshalling, toBundlePriorityList, Int.toNat_natCast, hWrite]
    rfl
  obtain ⟨parcel, hParcel, hRead⟩ := BundlePriorityList.unmarshalling_marshalling hCounted
  obtain rfl := Option.some.inj (hWritten.symm.trans hParcel)
  have hBack := unmarshalling_marshalling format bundles []
  rw [List.append_nil] at hBack
  refine ⟨_, hWritten, ?_, ?_⟩
  · rw [marshalling, hSame, List.flatMap_cons, ParcelValue.encode, Int32.ofInt_eq_ofNat]
  · rw [hBack, hRead, toBundlePriorityList, List.length_map]
    split_ifs <;> rfl

end BundleInfos
end Classes

namespace ByteParcel

/-! Parcels of bytes: numbers of four bytes, the least significant first, and texts behind their
length, ended and filled up with zeros. -/

def numberBytes (number : Nat) : List UInt8 :=
  [number, number / 2 ^ 8, number / 2 ^ 16, number / 2 ^ 24].map UInt8.ofNat

def readNumber : List UInt8 → Option (Nat × List UInt8)
  | b0 :: b1 :: b2 :: b3 :: rest =>
      some (b0.toNat + 2 ^ 8 * b1.toNat + 2 ^ 16 * b2.toNat + 2 ^ 24 * b3.toNat, rest)
  | _ => none

/-- A number of 32 bits is read back. -/
theorem readNumber_numberBytes {number : Nat} (h : number < 2 ^ 32) (rest : List UInt8) :
    readNumber (numberBytes number ++ rest) = some (number, rest) := by
  simp only [numberBytes, List.map_cons, List.map_nil, List.cons_append, List.nil_append, readNumber,
    UInt8.toNat_ofNat', Option.some.injEq, Prod.mk.injEq, and_true]
  omega

def uint32 : Codec UInt8 UInt32 where
  encode value := numberBytes value.toNat
  decode data := (readNumber data).map fun (number, rest) => (UInt32.ofNat number, rest)
  decode_encode value rest := by
    simp [readNumber_numberBytes value.toNat_lt]

def int32 : Codec UInt8 Int32 where
  encode value := uint32.encode value.toUInt32
  decode data := (uint32.decode data).map fun (value, rest) => (value.toInt32, rest)
  decode_encode value rest := by
    simp [uint32.decode_encode]

def bool : Codec UInt8 Bool where
  encode value := numberBytes (if value then 1 else 0)
  decode data := (readNumber data).map fun (number, rest) => (number ≠ 0, rest)
  decode_encode value rest := by
    cases value <;> rw [readNumber_numberBytes (by decide)] <;> rfl

/-- The zeros behind a text of so many bytes. -/
def padding (length : Nat) : Nat := 4 - length % 4

def string : Codec UInt8 ParcelString where
  encode text := numberBytes text.1.utf8ByteSize ++
    (text.1.toByteArray.data.toList ++ List.replicate (padding text.1.utf8ByteSize) 0)
  decode data := do
    let (length, data) ← readNumber data
    let text ← String.fromUTF8? ⟨(data.take length).toArray⟩
    if h : text.utf8ByteSize < 2 ^ 31 then some (⟨text, h⟩, data.drop (length + padding length)) else none
  decode_encode text rest := by
    obtain ⟨text, hShort⟩ := text
    have hLength : text.toByteArray.data.toList.length = text.utf8ByteSize := rfl
    have hText : String.fromUTF8? ⟨text.toByteArray.data.toList.toArray⟩ = some text := by
      rw [Array.toArray_toList]
      exact dif_pos text.isValidUTF8
    dsimp only
    rw [List.append_assoc, readNumber_numberBytes (by omega), List.append_assoc]
    simp only [bind, Option.bind]
    rw [← hLength, List.take_left, hText]
    dsimp only
    rw [dif_pos hShort, ← List.append_assoc, hLength]
    congr 3
    apply List.drop_left'
    rw [List.length_append, List.length_replicate, hLength]

example : string.encode ⟨"abc", by decide⟩ = [3, 0, 0, 0, 97, 98, 99, 0] := by decide

/-- A number tells whether there is a value. -/
def writeParcelable {α : Type} (marshalling : α → List UInt8) : Option α → List UInt8
  | none => int32.encode 0
  | some value => int32.encode 1 ++ marshalling value

def readParcelable {α : Type} (unmarshalling : List UInt8 → Option (α × List UInt8)) (data : List UInt8) :
    Option α × List UInt8 :=
  match int32.decode data with
  | none => (none, data)
  | some (flag, data) =>
      if flag = 0 then (none, data)
      else
        match unmarshalling data with
        | none => (none, data)
        | some (value, data) => (some value, data)

theorem readParcelable_some {α : Type} {marshalling : α → List UInt8}
    {unmarshalling : List UInt8 → Option (α × List UInt8)} {value : α} {rest : List UInt8} :
    readParcelable unmarshalling (writeParcelable marshalling (some value) ++ rest) =
      match unmarshalling (marshalling value ++ rest) with
      | none => (none, marshalling value ++ rest)
      | some (value, data) => (some value, data) := by
  rw [readParcelable, writeParcelable, List.append_assoc, int32.decode_encode]
  dsimp only
  rw [if_neg (by decide)]

def format : ParcelFormat UInt8 UInt32 where
  interfaceToken := string
  int32 := int32
  uint32 := uint32
  bool := bool
  string := string
  remoteObject := uint32
  writeParcelable := writeParcelable
  readParcelable := readParcelable
  -- There is room for the mark of an object, and then no more.
  torn content := content.take 4
  readParcelable_null marshalling unmarshalling rest := by
    rw [readParcelable, writeParcelable, int32.decode_encode]
    rfl
  readParcelable_some hRead := by
    rw [readParcelable_some, hRead]
  readParcelable_failed hRead := by
    rw [readParcelable_some, hRead]
  unmarshalling_of_readParcelable hRead := by
    rw [readParcelable] at hRead
    split at hRead
    · cases hRead
    · split_ifs at hRead
      split at hRead
      · cases hRead
      · next value rest hSome =>
        obtain rfl := Option.some.inj hRead
        exact ⟨_, rest, hSome⟩
  sizeof_int32_le marshalling value := by
    cases value with
    | none => exact Nat.le_refl 4
    | some value =>
        rw [writeParcelable, List.length_append]
        exact Nat.le_add_right 4 _
  uint32_int32 value rest := by
    exact uint32.decode_encode value.toUInt32 rest

end ByteParcel
end MemMgr
