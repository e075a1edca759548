import PadRelay.Bytes

/-!
# Random bytes

A source of random bytes is one endless stream together with how much of it has been handed out.
Keys and random identities are pieces of that stream, taken in order and never twice.
-/

namespace PadRelay

/-- A stream of random bytes, read from the front. -/
structure Entropy where
  /-- The stream. -/
  byte : Nat → UInt8
  /-- A reading takes a whole multiple of this many bytes and throws the rest away. -/
  unit : Nat := 1
  /-- Bytes taken so far. -/
  drawn : Nat := 0

namespace Entropy

/-- Bytes that a reading of `count` bytes takes from the stream. -/
def taken (source : Entropy) (count : Nat) : Nat :=
  (count + (source.unit - 1)) / source.unit * source.unit

/-- The next `count` bytes, and the source after them. -/
def take (source : Entropy) (count : Nat) : Bytes × Entropy :=
  ((List.range count).map fun offset => source.byte (source.drawn + offset),
    { source with drawn := source.drawn + source.taken count })

/-- The next eight bytes as a number, most significant first. -/
def word (source : Entropy) : UInt64 × Entropy :=
  let (bytes, rest) := source.take 8
  (UInt64.ofNat (Bytes.ofBigEndian bytes), rest)

/-- The stream `start, start + step, start + 2 * step, …` modulo 256. -/
def arithmetic (start step : Nat) : Entropy where
  byte position := UInt8.ofNat (start + position * step)

@[simp]
theorem length_take (source : Entropy) (count : Nat) : (source.take count).1.length = count := by
  simp [take]

end Entropy

end PadRelay
