/-! Values that are written one behind the other and read back in that order. A codec reads what it
has written, whatever stands behind it. -/

structure Codec (β α : Type) where
  encode : α → List β
  decode : List β → Option (α × List β)
  decode_encode : ∀ value rest, decode (encode value ++ rest) = some (value, rest)

namespace Codec

variable {β α : Type}

/-- As many reads as there are values to come. -/
def readMany (read : List β → Option (α × List β)) : Nat → List β → Option (List α × List β)
  | 0, content => some ([], content)
  | count + 1, content => do
      let (value, content) ← read content
      let (values, content) ← readMany read count content
      return (value :: values, content)

/-- Pieces are written one after the other, as long as there is room. -/
def append (room : List β → Bool) (content : List β) : List (List β) → Option (List β)
  | [] => some content
  | piece :: pieces => if room (content ++ piece) then append room (content ++ piece) pieces else none

/-- What was written alone is read back, and nothing is left. -/
theorem decode_encode_nil (codec : Codec β α) (value : α) :
    codec.decode (codec.encode value) = some (value, []) := by
  have hRead := codec.decode_encode value []
  rwa [List.append_nil] at hRead

/-- Values that are each read back are read back together. -/
theorem readMany_flatMap {read : List β → Option (α × List β)} {write : α → List β}
    (hRead : ∀ value rest, read (write value ++ rest) = some (value, rest)) (values : List α)
    (rest : List β) :
    readMany read values.length (values.flatMap write ++ rest) = some (values, rest) := by
  induction values with
  | nil => rfl
  | cons value values ih => simp [readMany, List.append_assoc, hRead, ih]

/-- As many values are read as were asked for. -/
theorem length_of_readMany {read : List β → Option (α × List β)} {count : Nat} {content rest : List β}
    {values : List α} (h : readMany read count content = some (values, rest)) : values.length = count := by
  induction count generalizing content values with
  | zero =>
      obtain ⟨rfl, -⟩ := Prod.mk.inj (Option.some.inj h)
      rfl
  | succ count ih =>
      simp only [readMany, bind, Option.bind_eq_some_iff, pure, Option.some.injEq, Prod.mk.injEq] at h
      obtain ⟨⟨value, content'⟩, -, ⟨values', content''⟩, hRest, rfl, rfl⟩ := h
      rw [List.length_cons, ih hRest]

/-- What was written stands as it was put together. -/
theorem eq_of_append {room : List β → Bool} {content written : List β} {pieces : List (List β)}
    (h : append room content pieces = some written) : written = content ++ pieces.flatten := by
  induction pieces generalizing content with
  | nil => simpa [append, eq_comm] using h
  | cons piece pieces ih =>
      rw [append] at h
      split at h
      · rw [ih h, List.flatten_cons, List.append_assoc]
      · cases h

/-- Where there is always room, all the pieces are written one after the other. -/
theorem append_of_room {room : List β → Bool} (hRoom : ∀ content, room content = true) (content : List β)
    (pieces : List (List β)) : append room content pieces = some (content ++ pieces.flatten) := by
  induction pieces generalizing content with
  | nil => simp [append]
  | cons piece pieces ih =>
      rw [append, if_pos (hRoom _), ih, List.flatten_cons, List.append_assoc]

end Codec
