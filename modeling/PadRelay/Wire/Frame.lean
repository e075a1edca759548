import PadRelay.Wire.FormatError

/-!
# Frames

On a socket every payload travels behind a header of twelve bytes: a magic number, a version, three
reserved bytes that are kept as they came, and the payload's length.
-/

namespace PadRelay

namespace Frame

/-- The bytes that every frame starts with. -/
def magic : Bytes := [0x4f, 0x54, 0x50, 0x47]

def version : UInt8 := 1

def headerSize : Nat := 12

/-- Largest payload of a frame. -/
def maxPayload : Nat := 1048576

/-- What a header holds besides the magic number and the version. -/
structure Header where
  reserved : Bytes
  payloadSize : Nat
  reserved_length : reserved.length = 3
  payloadSize_le : payloadSize ≤ maxPayload
deriving DecidableEq

namespace Header

/-- The header of a new frame. -/
def ofSize (size : Nat) (size_le : size ≤ maxPayload) : Header := ⟨[0, 0, 0], size, rfl, size_le⟩

def encode (header : Header) : Bytes :=
  magic ++ version :: header.reserved ++ Bytes.bigEndian 4 header.payloadSize

/-- The header at the front of the bytes. Length, magic number, version and size are checked in this
order. -/
def decode (bytes : Bytes) : Except FormatError Header :=
  if long : bytes.length < headerSize then
    .error (.frameTooShort headerSize bytes.length)
  else if bytes.take 4 ≠ magic then
    .error .invalidMagic
  else if bytes.getD 4 0 ≠ version then
    .error (.unsupportedVersion (bytes.getD 4 0))
  else
    let size := Bytes.ofBigEndian ((bytes.drop 8).take 4)
    if size_le : size ≤ maxPayload then
      .ok ⟨(bytes.drop 5).take 3, size, by
        simp only [List.length_take, List.length_drop, headerSize] at long ⊢
        omega, size_le⟩
    else
      .error (.payloadTooLarge size maxPayload)

@[simp]
theorem length_encode (header : Header) : header.encode.length = headerSize := by
  simp [encode, magic, headerSize, header.reserved_length]

end Header

end Frame

/-- A payload with the reserved bytes of its header. -/
structure Frame where
  reserved : Bytes
  payload : Bytes
  reserved_length : reserved.length = 3
  payload_le : payload.length ≤ Frame.maxPayload
deriving DecidableEq

namespace Frame

def header (frame : Frame) : Header :=
  ⟨frame.reserved, frame.payload.length, frame.reserved_length, frame.payload_le⟩

/-- A new frame around a payload. -/
def ofPayload (payload : Bytes) : Except FormatError Frame :=
  if payload_le : payload.length ≤ maxPayload then
    .ok ⟨[0, 0, 0], payload, rfl, payload_le⟩
  else
    .error (.payloadTooLarge payload.length maxPayload)

def encodedSize (frame : Frame) : Nat := headerSize + frame.payload.length

def encode (frame : Frame) : Bytes := frame.header.encode ++ frame.payload

/-- The frame at the front of the bytes; what follows it is ignored. -/
def decode (bytes : Bytes) : Except FormatError Frame := do
  let header ← Header.decode bytes
  let rest := bytes.drop headerSize
  if enough : header.payloadSize ≤ rest.length then
    return ⟨header.reserved, rest.take header.payloadSize, header.reserved_length, by
      simpa [Nat.min_eq_left enough] using header.payloadSize_le⟩
  else
    throw (.frameTruncated header.payloadSize rest.length)

end Frame

end PadRelay
