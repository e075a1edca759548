import PadRelay.Cbor.Parser
import PadRelay.Wire.Fields

/-!
# Tagged CBOR documents

A document is a map. It is probed for its tag before its members are read. The probe passes over
tags in front of the map, of a name and of the tag text, and takes the tag text in chunks; reading
the members allows none of this, except for tags in front of the tag text. The probe passes over
the other members as well, if they do not nest too deep.
-/

namespace PadRelay.Cbor

/-- Levels of nesting that a document may have, the outermost included. -/
def maxDepth : Nat := 256

/-- Bytes of the widest integer that is read behind a tag. -/
def maxIntegerWidth : Nat := 16

/-- Largest name that a member may have, in bytes. -/
def maxName : Nat := 4096

/-- A value without the tags in front of it. -/
def untagged : Cbor → Cbor
  | .tag _ value => untagged value
  | value => value

/-- The bytes of a name: a text or a byte string in one piece. -/
def nameBytes? : Cbor → Option Bytes
  | .text content false =>
      if (Bytes.ofText content).length ≤ maxName then some (Bytes.ofText content) else none
  | .bytes content false => if content.length ≤ maxName then some content else none
  | _ => none

/-- The integer that a value writes as a tag for a sign and the digits behind it, in one piece and
not too many. -/
def wideInteger? : Cbor → Option Int
  | .tag 2 (.bytes digits false) =>
      if digits.length ≤ maxIntegerWidth then some (Bytes.ofBigEndian digits) else none
  | .tag 3 (.bytes digits false) =>
      if digits.length ≤ maxIntegerWidth then some (-1 - Bytes.ofBigEndian digits) else none
  | _ => none

/-- Whether a value can be passed over within the given levels of nesting. Arrays, maps and tags are
a level each. A wide integer is none, but it has to be no less than the least of 128 bits. -/
def isPassable (levels : Nat) (item : Cbor) : Bool :=
  match wideInteger? item with
  | some value => -0x80000000000000000000000000000000 ≤ value
  | none =>
      match item, levels with
      | .array _, 0 | .map _, 0 | .tag _ _, 0 => false
      | .array items, levels + 1 => items.all (isPassable levels)
      | .map entries, levels + 1 =>
          entries.all fun entry => isPassable levels entry.1 && isPassable levels entry.2
      | .tag _ value, levels + 1 => isPassable levels value
      | _, _ => true

/-- The tag of a document: its only member of that name, if the others can be passed over. -/
def tag? (document : Cbor) : Option String :=
  match untagged document with
  | .map entries =>
      match entries.mapM fun entry => (nameBytes? (untagged entry.1)).map fun name =>
          (name, entry.2) with
      | none => none
      | some named =>
          let (tags, others) := named.partition fun member => member.1 = Bytes.ofText tagName
          match tags with
          | [member] =>
              match untagged member.2 with
              | .text content _ =>
                  if others.all fun member => isPassable (maxDepth - 1) member.2 then some content
                  else none
              | _ => none
          | _ => none
  | _ => none

/-- The value that a member holds, with at most the given levels of nesting. Tags and integers below
`-2 ^ 63` are refused. -/
def value? (levels : Nat) (item : Cbor) : Option Value :=
  match item, levels with
  | .uint value, _ => some (.nat value)
  | .nint value, _ => if value < 0x8000000000000000 then some .number else none
  | .bytes content _, _ => some (.blob content)
  | .text content _, _ => some (.text content)
  | .bool value, _ => some (.bool value)
  | .null, _ => some .absent
  | .undefined, _ => some .absent
  | .float, _ => some .number
  | .tag _ _, _ => none
  | .array _, 0 => none
  | .array items, levels + 1 => (items.mapM (value? levels)).map .list
  | .map _, 0 => none
  | .map entries, levels + 1 =>
      (entries.mapM fun (entry : Cbor × Cbor) => do
        let name ← value? levels entry.1
        let value ← value? levels entry.2
        return (name, value)).map .map

/-- The value of the member that holds the tag: a text in one piece. -/
def tagValue? (item : Cbor) : Option Value :=
  match untagged item with
  | .text content false => some (.text content)
  | _ => none

/-- The members of a document. -/
def members? : Cbor → Option Members
  | .map entries =>
      entries.mapM fun entry => do
        let name ← nameBytes? entry.1
        let value ←
          if name = Bytes.ofText tagName then tagValue? entry.2
          else value? (maxDepth - 1) entry.2
        return (name, value)
  | _ => none

/-- The message that a document holds: its tag is read again from the members. -/
def message? (document : Cbor) : Option Message := do
  let members ← members? document
  let content ← members.required tagName fun value =>
    match value with
    | .text content => some content
    | _ => none
  let kind ← Kind.ofTag? content
  Message.ofMembers? kind members

end PadRelay.Cbor
