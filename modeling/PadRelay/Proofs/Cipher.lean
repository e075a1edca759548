import PadRelay.Cipher

/-!
# The cipher byte by byte

The loop over pieces is the repeating-key exclusive or: every byte of the data meets the byte of the
key at its own position modulo the size of the key. So the cipher keeps lengths, applying it twice
with one key gives the data back, and two keys may be applied in either order. The loop over a
buffer gives the same bytes.
-/

namespace PadRelay.Cipher

theorem pieces_append (key : Bytes) (count : Nat) (data done : Bytes) :
    pieces key count data done = done.reverse ++ pieces key count data [] := by
  induction count generalizing data done with
  | zero => simp [pieces]
  | succ count induction =>
      have started := induction (data.drop key.length)
        ((xor (data.take key.length) key).reverse ++ [])
      rw [pieces, pieces, induction, started]
      simp

theorem pieces_succ (key : Bytes) (count : Nat) (data : Bytes) :
    pieces key (count + 1) data [] =
      xor (data.take key.length) key ++ pieces key count (data.drop key.length) [] := by
  rw [pieces, pieces_append]
  simp

@[simp]
theorem pieces_nil (key : Bytes) (count : Nat) : pieces key count [] [] = [] := by
  induction count with
  | zero => rfl
  | succ count induction => simp [pieces_succ, xor, induction]

/-- Enough pieces combine every byte with the byte of the key at its position. -/
theorem getElem?_pieces {key : Bytes} (nonempty : key ≠ []) {count : Nat} {data : Bytes}
    (enough : data.length ≤ count * key.length) (position : Nat) :
    (pieces key count data [])[position]? =
      data[position]?.map (· ^^^ key.getD (position % key.length) 0) := by
  have positive : 0 < key.length := List.length_pos_iff.2 nonempty
  induction count generalizing data position with
  | zero =>
      have none_left : data = [] := List.eq_nil_of_length_eq_zero (by omega)
      simp [none_left, pieces]
  | succ count induction =>
      rw [pieces_succ]
      have rest_enough : (data.drop key.length).length ≤ count * key.length := by
        rw [Nat.succ_mul] at enough
        rw [List.length_drop]
        omega
      have rest := induction rest_enough
      have first_length : (xor (data.take key.length) key).length =
          min key.length data.length := by
        simp [xor]
      by_cases inside : position < min key.length data.length
      · have within : position < key.length := by omega
        have in_data : position < data.length := by omega
        rw [List.getElem?_append_left (by omega), Nat.mod_eq_of_lt within]
        rw [xor, List.getElem?_zipWith]
        simp [within, in_data]
      · rw [List.getElem?_append_right (by omega), rest, first_length, List.getElem?_drop]
        by_cases short : data.length ≤ position
        · rw [List.getElem?_eq_none (by omega), List.getElem?_eq_none short]
          rfl
        · have whole : min key.length data.length = key.length := by omega
          have beyond : key.length ≤ position := by omega
          rw [whole, Nat.add_sub_cancel' beyond, ← Nat.mod_eq_sub_mod beyond]

/-- As many pieces as the loop takes are enough. -/
theorem le_pieces_mul_size (key : Key) (length : Nat) :
    length ≤ (length + (key.size - 1)) / key.size * key.size := by
  have rounded := Nat.div_add_mod (length + (key.size - 1)) key.size
  have small := Nat.mod_lt (length + (key.size - 1)) key.size_pos
  rw [Nat.mul_comm] at rounded
  omega

theorem getElem?_transform (key : Key) (data : Bytes) (position : Nat) :
    (transform key data)[position]? =
      data[position]?.map (· ^^^ key.bytes.getD (position % key.size) 0) :=
  getElem?_pieces key.nonempty (le_pieces_mul_size key data.length) position

@[simp]
theorem length_transform (key : Key) (data : Bytes) :
    (transform key data).length = data.length := by
  apply Nat.le_antisymm
  · rw [← List.getElem?_eq_none_iff, getElem?_transform, List.getElem?_eq_none (Nat.le_refl _)]
    rfl
  · have past_end := getElem?_transform key data (transform key data).length
    rw [List.getElem?_eq_none (Nat.le_refl _), eq_comm, Option.map_eq_none_iff] at past_end
    exact List.getElem?_eq_none_iff.1 past_end

@[simp]
theorem transform_transform (key : Key) (data : Bytes) :
    transform key (transform key data) = data := by
  apply List.ext_getElem?
  intro position
  rw [getElem?_transform, getElem?_transform, Option.map_map]
  cases data[position]? with
  | none => rfl
  | some byte =>
      rw [Option.map_some, Function.comp_apply, UInt8.xor_assoc, UInt8.xor_self, UInt8.xor_zero]

/-- Two keys may be applied in either order. -/
theorem transform_comm (key other : Key) (data : Bytes) :
    transform key (transform other data) = transform other (transform key data) := by
  apply List.ext_getElem?
  intro position
  simp only [getElem?_transform, Option.map_map]
  cases data[position]? with
  | none => rfl
  | some byte =>
      simp only [Option.map_some, Function.comp_apply]
      ac_rfl

/-- Changing the byte behind the front of a buffer leaves the front alone. -/
theorem modify_length_append (front rest : Bytes) (change : UInt8 → UInt8) :
    (front ++ rest).modify front.length change = front ++ rest.modifyHead change := by
  induction front with
  | nil => exact (List.modifyHead_eq_modify_zero change rest).symm
  | cons byte front induction =>
      exact (List.modify_succ_cons ..).trans (congrArg (byte :: ·) induction)

theorem combine_of_size_le (key : Bytes) {position : Nat} {buffer : Array UInt8}
    (beyond : buffer.size ≤ position) : combine key position buffer = buffer := by
  induction key generalizing position with
  | nil => rfl
  | cons byte key induction =>
      have unchanged : buffer.modify position (· ^^^ byte) = buffer := by
        rw [← Array.toList_inj, Array.toList_modify]
        exact List.modify_eq_self beyond
      rw [combine, unchanged]
      exact induction (Nat.le_succ_of_le beyond)

theorem combinePieces_of_size_le (key : Bytes) (count : Nat) {position : Nat}
    {buffer : Array UInt8} (beyond : buffer.size ≤ position) :
    combinePieces key count position buffer = buffer := by
  induction count generalizing position with
  | zero => rfl
  | succ count induction =>
      rw [combinePieces, combine_of_size_le key beyond]
      exact induction (Nat.le_add_right_of_le beyond)

/-- One piece is combined, behind what is done and in front of what is left. -/
theorem toList_combine {key front data : Bytes} {buffer : Array UInt8}
    (holds : buffer.toList = front ++ data) :
    (combine key front.length buffer).toList =
      front ++ (xor (data.take key.length) key ++ data.drop key.length) := by
  induction key generalizing front data buffer with
  | nil => simp [combine, holds, xor]
  | cons byte key induction =>
      cases data with
      | nil =>
          have beyond : buffer.size ≤ front.length := by simp [← Array.length_toList, holds]
          rw [combine_of_size_le _ beyond, holds]
          simp [xor]
      | cons first data =>
          have changed : (buffer.modify front.length (· ^^^ byte)).toList =
              front ++ [first ^^^ byte] ++ data := by
            rw [Array.toList_modify, holds, modify_length_append, List.modifyHead_cons,
              List.append_cons]
          have rest := induction changed
          rw [List.length_append, List.length_singleton] at rest
          rw [combine, rest]
          simp [xor]

/-- Enough pieces combine all that is left of a buffer. -/
theorem toList_combinePieces {key : Bytes} {count : Nat} {front data : Bytes}
    {buffer : Array UInt8} (holds : buffer.toList = front ++ data)
    (enough : data.length ≤ count * key.length) :
    (combinePieces key count front.length buffer).toList = front ++ pieces key count data [] := by
  induction count generalizing front data buffer with
  | zero =>
      have none_left : data = [] := List.eq_nil_of_length_eq_zero (by omega)
      simp [combinePieces, pieces, holds, none_left]
  | succ count induction =>
      have combined : (combine key front.length buffer).toList =
          front ++ (xor (data.take key.length) key ++ data.drop key.length) :=
        toList_combine holds
      have rest_enough : (data.drop key.length).length ≤ count * key.length := by
        rw [Nat.succ_mul] at enough
        rw [List.length_drop]
        omega
      rw [combinePieces, pieces_succ]
      by_cases whole : key.length ≤ data.length
      · have front_length : (front ++ xor (data.take key.length) key).length =
            front.length + key.length := by
          simp [xor, whole]
        rw [← List.append_assoc] at combined
        rw [← front_length, induction combined rest_enough, List.append_assoc]
      · -- The last piece is cut short, and nothing is left behind it.
        have none_left : data.drop key.length = [] := List.drop_of_length_le (by omega)
        have beyond : (combine key front.length buffer).size ≤ front.length + key.length := by
          rw [← Array.length_toList, combined, none_left, List.append_nil, List.length_append, xor,
            List.length_zipWith]
          exact Nat.add_le_add_left (Nat.min_le_right _ _) _
        rw [combinePieces_of_size_le key count beyond, combined, none_left, pieces_nil]

theorem toList_transformInPlace (key : Key) (buffer : Array UInt8) :
    (transformInPlace key buffer).toList = transform key buffer.toList := by
  have holds : buffer.toList = [] ++ buffer.toList := rfl
  exact toList_combinePieces holds (le_pieces_mul_size key buffer.size)

/-- The byte of the key that is meant for a position of the data: the key starts over and over. -/
def keyByte (key : Key) (position : Nat) : UInt8 :=
  key.bytes.get ⟨position % key.size, Nat.mod_lt position key.size_pos⟩

/-- Data is combined with a repeating key. -/
structure Cycles (key : Key) (data combined : Bytes) : Prop where
  /-- The length stays. -/
  length : combined.length = data.length
  /-- Every byte meets the byte of the key for its position. -/
  byte : ∀ position (inside : position < data.length),
    combined[position]? = some (data[position] ^^^ keyByte key position)

theorem cycles_transform (key : Key) (data : Bytes) : Cycles key data (transform key data) where
  length := length_transform key data
  byte position inside := by
    have within : position % key.size < key.bytes.length := Nat.mod_lt position key.size_pos
    rw [getElem?_transform, List.getElem?_eq_getElem inside]
    simp [keyByte, within]

/-- **The cipher is the exclusive or with the repeating key**, on its own and in a buffer. So it is
its own inverse, and two keys may be applied in either order. -/
theorem repeats_the_key (key : Key) (data : Bytes) :
    Cycles key data (transform key data) ∧
      Cycles key data (transformInPlace key data.toArray).toList ∧
      transform key (transform key data) = data ∧
      ∀ other : Key,
        transform key (transform other data) = transform other (transform key data) := by
  have in_place : (transformInPlace key data.toArray).toList = transform key data :=
    toList_transformInPlace key data.toArray
  exact ⟨cycles_transform key data, in_place ▸ cycles_transform key data,
    transform_transform key data, fun other => transform_comm key other data⟩

/-- The last piece is shorter than the key. -/
example : (transformInPlace ⟨[0x0f, 0xf0], by decide⟩ #[0x00, 0x00, 0xff, 0xff, 0xaa]).toList =
    [0x0f, 0xf0, 0xf0, 0x0f, 0xa5] := by
  decide

end PadRelay.Cipher
