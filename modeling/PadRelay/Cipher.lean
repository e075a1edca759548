import PadRelay.Key

/-!
# The cipher

Data is combined with the key by exclusive or, the key starting over for every message. The loop
walks the data in pieces as long as the key; the last piece may be shorter. The data may also be
combined where it is, in a buffer.
-/

namespace PadRelay.Cipher

/-- Exclusive or of two byte strings, as long as the shorter one. -/
def xor (data key : Bytes) : Bytes := List.zipWith (· ^^^ ·) data key

/-- The data in pieces of the given size, each combined with the key; `done` is reversed output. -/
def pieces (key : Bytes) : (count : Nat) → (data done : Bytes) → Bytes
  | 0, _, done => done.reverse
  | count + 1, data, done =>
      pieces key count (data.drop key.length)
        ((xor (data.take key.length) key).reverse ++ done)

/-- The data combined with the key; applied twice it gives the data back. -/
def transform (key : Key) (data : Bytes) : Bytes :=
  pieces key.bytes ((data.length + (key.size - 1)) / key.size) data []

/-- Combine a piece of a buffer with the bytes of the key, from a position on. A piece that the end
of the buffer cuts short takes only the first bytes of the key. -/
def combine : (key : Bytes) → (position : Nat) → (buffer : Array UInt8) → Array UInt8
  | [], _, buffer => buffer
  | byte :: key, position, buffer =>
      combine key (position + 1) (buffer.modify position (· ^^^ byte))

/-- Combine pieces of a buffer with the key, one behind the other, from a position on. -/
def combinePieces (key : Bytes) : (count position : Nat) → (buffer : Array UInt8) → Array UInt8
  | 0, _, buffer => buffer
  | count + 1, position, buffer =>
      combinePieces key count (position + key.length) (combine key position buffer)

def transformInPlace (key : Key) (buffer : Array UInt8) : Array UInt8 :=
  combinePieces key.bytes ((buffer.size + (key.size - 1)) / key.size) 0 buffer

end PadRelay.Cipher
