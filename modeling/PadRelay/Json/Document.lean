import PadRelay.Json.Parser
import PadRelay.Wire.Fields

/-!
# Tagged JSON documents

A document is probed for its tag before its members are read. The probe looks at the names and the
tag alone; the members are read with all they contain, to a limited depth.
-/

namespace PadRelay.Json

/-- Levels of nesting that the members of a document may have, the document included. -/
def maxDepth : Nat := 127

/-- The only value named `type` among decoded members. -/
def tagOfEntries? (entries : Entries) : Option Json :=
  match entries.mapM fun entry => (entry.1.toText?).map fun name => (name, entry.2) with
  | none => none
  | some named =>
      match named.filter fun member => member.1 = tagName with
      | [member] => some member.2
      | _ => none

/-- The tag of a document: an object's only member of that name, or an array's only item. -/
def tag? : Json → Option String
  | .object entries =>
      match tagOfEntries? entries with
      | some (.text pieces) => pieces.toText?
      | _ => none
  | .array [.text pieces] => pieces.toText?
  | _ => none

/-- The value that a member holds, with at most the given levels of nesting. -/
def value? (levels : Nat) (json : Json) : Option Value :=
  match json, levels with
  | .null, _ => some .unit
  | .bool value, _ => some (.bool value)
  | .number numeral, _ =>
      match numeral.toNat? with
      | some value => some (.nat value)
      | none => if numeral.inRange then some .number else none
  | .text pieces, _ => pieces.toText?.map .text
  | .array _, 0 => none
  | .array items, levels + 1 => (items.mapM (value? levels)).map .list
  | .object _, 0 => none
  | .object entries, levels + 1 =>
      (entries.mapM fun (entry : Quoted × Json) => do
        let name ← entry.1.toText?
        let value ← value? levels entry.2
        return (Value.text name, value)).map .map

/-- The members of a document. -/
def members? : Json → Option Members
  | .object entries =>
      entries.mapM fun entry => do
        let name ← entry.1.toText?
        let value ← value? (maxDepth - 1) entry.2
        return (Bytes.ofText name, value)
  | .array [.text pieces] =>
      pieces.toText?.map fun tag => [(Bytes.ofText tagName, .text tag)]
  | _ => none

/-- The message that a document holds: its tag is read again from the members. -/
def message? (json : Json) : Option Message := do
  let members ← members? json
  let tag ← members.required tagName fun value =>
    match value with
    | .text tag => some tag
    | _ => none
  let kind ← Kind.ofTag? tag
  Message.ofMembers? kind members

end PadRelay.Json
