import PadRelay.Entropy

/-!
# Identities

The number by which a connection, its keys and its requests are known. Identities come from a
counter or from the random source.
-/

namespace PadRelay

abbrev Identity := UInt64

/-- Where the identities of new connections come from. -/
inductive Identities where
  | sequential (next : UInt64)
  | random
deriving DecidableEq

namespace Identities

/-- The counter that starts at one. -/
def first : Identities := .sequential 1

/-- The next identity. The counter wraps around; a random identity takes eight random bytes. -/
def next (identities : Identities) (source : Entropy) : Identity × Identities × Entropy :=
  match identities with
  | .sequential identity => (identity, .sequential (identity + 1), source)
  | .random =>
      let (identity, rest) := source.word
      (identity, .random, rest)

/-- The next few identities. -/
def take (count : Nat) (identities : Identities) (source : Entropy) : List Identity :=
  match count with
  | 0 => []
  | count + 1 =>
      let (identity, identities, source) := identities.next source
      identity :: take count identities source

end Identities

end PadRelay
