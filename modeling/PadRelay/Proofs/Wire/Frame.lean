import PadRelay.Proofs.Stream.Framing

/-!
# The frame format

Writing frames and reading them undo each other: what is read from written bytes is the frame that
was written, whatever follows it, and what is read from any bytes is written as the bytes it was
read from. Other bytes are refused for the first thing that is wrong with them.
-/

namespace PadRelay.Frame

/-- The number in the size field of the header at the front of the bytes. -/
def sizeField (bytes : Bytes) : Nat := Bytes.ofBigEndian ((bytes.drop 8).take 4)

theorem Header.fields_of_decode {bytes : Bytes} {header : Header}
    (decoded : Header.decode bytes = .ok header) :
    bytes.take 4 = magic ∧ bytes.getD 4 0 = version ∧ header.reserved = (bytes.drop 5).take 3 ∧
      header.payloadSize = sizeField bytes := by
  rw [Header.decode] at decoded
  split at decoded
  · cases decoded
  · split at decoded
    · cases decoded
    · next own =>
        split at decoded
        · cases decoded
        · next same =>
            dsimp only at decoded
            split at decoded <;> cases decoded
            exact ⟨not_not.mp own, not_not.mp same, rfl, rfl⟩

theorem Header.encode_of_decode {bytes : Bytes} {header : Header}
    (decoded : Header.decode bytes = .ok header) : header.encode = bytes.take headerSize := by
  obtain ⟨own, same, reserved, size⟩ := fields_of_decode decoded
  have long := long_of_decode decoded
  rw [headerSize] at long
  have version_field : (bytes.drop 4).take 1 = [version] := by
    rw [← same, List.take_one, List.head?_drop, List.getD_eq_getElem?_getD,
      List.getElem?_eq_getElem (show 4 < bytes.length by omega)]
    rfl
  have size_field : Bytes.bigEndian 4 (sizeField bytes) = (bytes.drop 8).take 4 := by
    have length : ((bytes.drop 8).take 4).length = 4 := by
      rw [List.length_take, List.length_drop]
      omega
    have written := Bytes.bigEndian_ofBigEndian ((bytes.drop 8).take 4)
    rwa [length] at written
  rw [encode, reserved, size, size_field, ← own, headerSize,
    show 12 = 4 + (1 + (3 + 4)) from rfl, List.take_add, List.take_add, List.take_add,
    version_field]
  simp

/-- A frame that is read has the header at the front of the bytes, and the bytes behind it. -/
theorem header_of_decode {bytes : Bytes} {frame : Frame} (decoded : decode bytes = .ok frame) :
    Header.decode bytes = .ok frame.header ∧
      frame.payload = (bytes.drop headerSize).take frame.payload.length ∧
      frame.payload.length ≤ (bytes.drop headerSize).length := by
  rw [decode] at decoded
  cases read : Header.decode bytes with
  | error error => rw [read] at decoded; cases decoded
  | ok header =>
      rw [read] at decoded
      simp only [bind, Except.bind] at decoded
      split at decoded
      · next enough =>
          cases decoded
          have length := List.length_take_of_le enough
          refine ⟨?_, ?_, ?_⟩
          · simp [Frame.header, length]
          · simp only [length]
          · rw [length]; exact enough
      · cases decoded

/-- How a frame stands at the front of bytes. -/
structure Fronts (bytes : Bytes) (frame : Frame) : Prop where
  /-- The frame is written as the bytes that it was read from. -/
  encode_eq : frame.encode = bytes.take frame.encodedSize
  /-- All of them are there. -/
  encodedSize_le : frame.encodedSize ≤ bytes.length
  /-- The size field holds the length of the payload. -/
  sizeField_eq : sizeField bytes = frame.payload.length
  /-- That is within the limit. -/
  sizeField_le : sizeField bytes ≤ maxPayload

theorem fronts_of_decode {bytes : Bytes} {frame : Frame} (decoded : decode bytes = .ok frame) :
    Fronts bytes frame := by
  obtain ⟨read, payload, enough⟩ := header_of_decode decoded
  have long := Header.long_of_decode read
  obtain ⟨-, -, -, size⟩ := Header.fields_of_decode read
  constructor
  case encode_eq =>
    rw [encode, Header.encode_of_decode read, payload, encodedSize, List.take_add, ← payload]
  case encodedSize_le =>
    rw [List.length_drop] at enough
    rw [encodedSize]
    omega
  case sizeField_eq => exact size.symm
  case sizeField_le => exact size ▸ frame.header.payloadSize_le

/-- What can be wrong with bytes that should begin with a frame, in the order in which it counts.
The flag tells whether it is wrong. -/
def faults (bytes : Bytes) : List (Bool × FormatError) :=
  let present := bytes.length - headerSize
  [(bytes.length < headerSize, .frameTooShort headerSize bytes.length),
    (bytes.take 4 ≠ magic, .invalidMagic),
    (bytes.getD 4 0 ≠ version, .unsupportedVersion (bytes.getD 4 0)),
    (maxPayload < sizeField bytes, .payloadTooLarge (sizeField bytes) maxPayload),
    (present < sizeField bytes, .frameTruncated (sizeField bytes) present)]

/-- The first thing that is wrong. -/
def fault? (bytes : Bytes) : Option FormatError := ((faults bytes).find? Prod.fst).map Prod.snd

/-- The decoder refuses bytes with the first fault that they have, and no others. -/
theorem fault?_eq (bytes : Bytes) :
    fault? bytes = match decode bytes with
      | .error error => some error
      | .ok _ => none := by
  rw [fault?, faults, decode, Header.decode, ← sizeField]
  -- The checks in their order: in each case the ones before it have passed.
  by_cases short : bytes.length < headerSize
  · simp [short, bind, Except.bind]
  by_cases own : bytes.take 4 = magic
  case neg => simp [short, own, bind, Except.bind]
  by_cases same : bytes[4]?.getD 0 = version
  case neg => simp [short, own, same, bind, Except.bind]
  rcases Nat.lt_or_ge maxPayload (sizeField bytes) with large | size_le
  · simp [short, own, same, large, Nat.not_le.mpr large, bind, Except.bind]
  rcases Nat.lt_or_ge (bytes.length - headerSize) (sizeField bytes) with missing | enough
  · simp [short, own, same, size_le, missing, Nat.not_le.mpr missing, bind, Except.bind, throw,
      throwThe, MonadExceptOf.throw]
  · simp [short, own, same, size_le, enough, bind, Except.bind, pure, Except.pure]

theorem decode_eq_error_iff (bytes : Bytes) (error : FormatError) :
    decode bytes = .error error ↔ fault? bytes = some error := by
  rw [fault?_eq]
  cases decode bytes <;> simp

theorem ofPayload_of_le {payload : Bytes} (fits : payload.length ≤ maxPayload) :
    ofPayload payload = .ok ⟨[0, 0, 0], payload, rfl, fits⟩ := dif_pos fits

/-- **Frames are read as they are written.** A payload within the limit makes a frame, and no longer
one does. A frame is read back from its bytes, whatever follows them; a frame that is read stands at
the front of the bytes, reserved bytes included. All other bytes are refused for the first thing
that is wrong with them. -/
theorem reads_as_written :
    (∀ payload : Bytes, payload.length ≤ maxPayload →
      ∃ frame, ofPayload payload = .ok frame ∧ frame.payload = payload ∧
        ∀ rest, decode (frame.encode ++ rest) = .ok frame) ∧
    (∀ payload : Bytes, maxPayload < payload.length →
      ofPayload payload = .error (.payloadTooLarge payload.length maxPayload)) ∧
    (∀ bytes frame, decode bytes = .ok frame → Fronts bytes frame) ∧
    ∀ bytes error, decode bytes = .error error ↔ fault? bytes = some error :=
  ⟨fun _ fits => ⟨_, ofPayload_of_le fits, rfl, decode_encode_append _⟩,
    fun _ large => dif_neg (Nat.not_le.mpr large), fun _ _ => fronts_of_decode,
    decode_eq_error_iff⟩

/-- A payload of two bytes is written and read back, one byte above the limit is too much, and a
frame with reserved bytes of its own is read in front of a byte that does not belong to it. -/
theorem sample_frames_are_read :
    (([104, 105] : Bytes).length ≤ maxPayload ∧
      ∃ frame, ofPayload [104, 105] = .ok frame ∧ frame.payload = [104, 105] ∧
        ∀ rest, decode (frame.encode ++ rest) = .ok frame) ∧
    (maxPayload < (List.replicate (maxPayload + 1) (0 : UInt8)).length ∧
      ofPayload (List.replicate (maxPayload + 1) 0) =
        .error (.payloadTooLarge (List.replicate (maxPayload + 1) (0 : UInt8)).length
          maxPayload)) ∧
    decode [79, 84, 80, 71, 1, 7, 8, 9, 0, 0, 0, 1, 33, 255] =
        .ok ⟨[7, 8, 9], [33], rfl, by decide⟩ ∧
      Fronts [79, 84, 80, 71, 1, 7, 8, 9, 0, 0, 0, 1, 33, 255]
        ⟨[7, 8, 9], [33], rfl, by decide⟩ := by
  have large : maxPayload < (List.replicate (maxPayload + 1) (0 : UInt8)).length := by simp
  have read : decode [79, 84, 80, 71, 1, 7, 8, 9, 0, 0, 0, 1, 33, 255] =
      .ok ⟨[7, 8, 9], [33], rfl, by decide⟩ := by
    cbv
  exact ⟨⟨by decide, reads_as_written.1 _ (by decide)⟩, ⟨large, reads_as_written.2.1 _ large⟩, read,
    reads_as_written.2.2.1 _ _ read⟩

end PadRelay.Frame
