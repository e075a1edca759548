import PadRelay.Cbor

/-!
# CBOR heads

Every item starts with a byte that holds a major type and a small number, which may announce a wider
argument. A byte string or a text of known length is read with its head, so that a document becomes
a sequence of heads.
-/

namespace PadRelay.Cbor

/-- The head of an item. -/
inductive Head where
  | uint (value : Nat)
  | nint (value : Nat)
  | bytes (content : Option Bytes)
  | text (content : Option Bytes)
  | array (length : Option Nat)
  | map (length : Option Nat)
  | tag (number : Nat)
  | simple (number : Nat)
  | float
  | stop
deriving DecidableEq

namespace Head

/-- Where the reader stands within a head. -/
inductive Mode where
  /-- Before a head. -/
  | start
  /-- In the argument: the major type, its width, the bytes missing, and the value so far. -/
  | argument (major width missing value : Nat)
  /-- In the content of a byte string or a text: the bytes missing, and those read, reversed. -/
  | content (isText : Bool) (missing : Nat) (done : Bytes)

/-- A byte string or a text of a length. -/
def ofLength (isText : Bool) (length : Nat) : Mode × Option Head :=
  if length = 0 then
    (.start, some (if isText then .text (some []) else .bytes (some [])))
  else
    (.content isText length [], none)

/-- A complete argument of a width in bytes; a width of zero is an argument in the first byte. -/
def ofArgument (major width value : Nat) : Mode × Option Head :=
  match major with
  | 0 => (.start, some (.uint value))
  | 1 => (.start, some (.nint value))
  | 2 => ofLength false value
  | 3 => ofLength true value
  | 4 => (.start, some (.array (some value)))
  | 5 => (.start, some (.map (some value)))
  | 6 => (.start, some (.tag value))
  | _ => (.start, some (if width ≤ 1 then .simple value else .float))

/-- The head of an item of unknown length. -/
def ofUnknownLength? (major : Nat) : Option Head :=
  match major with
  | 2 => some (.bytes none)
  | 3 => some (.text none)
  | 4 => some (.array none)
  | 5 => some (.map none)
  | 7 => some .stop
  | _ => none

def ofFirst? (byte : UInt8) : Option (Mode × Option Head) :=
  let major := byte.toNat / 32
  let info := byte.toNat % 32
  if info < 24 then some (ofArgument major 0 info)
  else if info < 28 then
    let width := 1 <<< (info - 24)
    some (.argument major width width 0, none)
  else if info = 31 then (ofUnknownLength? major).map fun head => (.start, some head)
  else none

def step (byte : UInt8) : Mode → Option (Mode × Option Head)
  | .start => ofFirst? byte
  | .argument major width missing value =>
      let value := value * 256 + byte.toNat
      if missing ≤ 1 then some (ofArgument major width value)
      else some (.argument major width (missing - 1) value, none)
  | .content isText missing done =>
      if missing ≤ 1 then
        let content := (byte :: done).reverse
        some (.start, some (if isText then .text (some content) else .bytes (some content)))
      else some (.content isText (missing - 1) (byte :: done), none)

end Head

end PadRelay.Cbor
