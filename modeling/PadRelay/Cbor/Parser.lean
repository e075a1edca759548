import PadRelay.Cbor.Head

/-!
# Reading CBOR

Heads are put together with a stack of the items that are still open, however deep they nest. The
chunks of a text are each checked for being text, and may themselves come in chunks. What follows
the document is not looked at.
-/

namespace PadRelay.Cbor

abbrev Entries := List (Cbor × Cbor)

/-- An item that is still open. What it holds so far is reversed; a known length counts what is
missing. -/
inductive Context where
  | items (missing : Option Nat) (done : List Cbor)
  | names (missing : Option Nat) (done : Entries)
  | members (missing : Option Nat) (done : Entries) (name : Cbor)
  | tag (number : Nat)
  | chunks (isText : Bool) (depth : Nat) (done : Bytes)

/-- What a reader has after a head. -/
inductive Progress where
  | within (stack : List Context)
  | complete (value : Cbor)

/-- A value within the open items. It may complete those around it. -/
def fill (value : Cbor) : List Context → Option Progress
  | [] => some (.complete value)
  | .items (some missing) done :: stack =>
      if missing ≤ 1 then fill (.array (value :: done).reverse) stack
      else some (.within (.items (some (missing - 1)) (value :: done) :: stack))
  | .items none done :: stack => some (.within (.items none (value :: done) :: stack))
  | .names missing done :: stack => some (.within (.members missing done value :: stack))
  | .members (some missing) done name :: stack =>
      if missing ≤ 1 then fill (.map ((name, value) :: done).reverse) stack
      else some (.within (.names (some (missing - 1)) ((name, value) :: done) :: stack))
  | .members none done name :: stack =>
      some (.within (.names none ((name, value) :: done) :: stack))
  | .tag number :: stack => fill (.tag number value) stack
  | .chunks _ _ _ :: _ => none

/-- A simple value. -/
def ofSimple? (number : Nat) : Option Cbor :=
  match number with
  | 20 => some (.bool false)
  | 21 => some (.bool true)
  | 22 => some .null
  | 23 => some .undefined
  | _ => none

/-- A head within a byte string or a text in chunks. -/
def acceptChunk (isText : Bool) (depth : Nat) (done : Bytes) (stack : List Context) :
    Head → Option Progress
  | .text (some content) =>
      if isText && (Bytes.toText? content).isSome then
        some (.within (.chunks isText depth (content.reverse ++ done) :: stack))
      else none
  | .bytes (some content) =>
      if isText then none
      else some (.within (.chunks isText depth (content.reverse ++ done) :: stack))
  | .text none => if isText then some (.within (.chunks isText (depth + 1) done :: stack)) else none
  | .bytes none =>
      if isText then none else some (.within (.chunks isText (depth + 1) done :: stack))
  | .stop =>
      if 1 < depth then some (.within (.chunks isText (depth - 1) done :: stack))
      else if isText then
        (Bytes.toText? done.reverse).bind fun content => fill (.text content true) stack
      else fill (.bytes done.reverse true) stack
  | _ => none

/-- A head where a value may start or an item of unknown length may end. -/
def acceptValue (stack : List Context) : Head → Option Progress
  | .uint value => fill (.uint value) stack
  | .nint value => fill (.nint value) stack
  | .bytes (some content) => fill (.bytes content false) stack
  | .bytes none => some (.within (.chunks false 1 [] :: stack))
  | .text (some content) =>
      (Bytes.toText? content).bind fun content => fill (.text content false) stack
  | .text none => some (.within (.chunks true 1 [] :: stack))
  | .array length =>
      if length = some 0 then fill (.array []) stack
      else some (.within (.items length [] :: stack))
  | .map length =>
      if length = some 0 then fill (.map []) stack
      else some (.within (.names length [] :: stack))
  | .tag number => some (.within (.tag number :: stack))
  | .simple number => (ofSimple? number).bind fun value => fill value stack
  | .float => fill .float stack
  | .stop =>
      match stack with
      | .items none done :: stack => fill (.array done.reverse) stack
      | .names none done :: stack => fill (.map done.reverse) stack
      | _ => none

def accept (stack : List Context) (head : Head) : Option Progress :=
  match stack with
  | .chunks isText depth done :: rest => acceptChunk isText depth done rest head
  | _ => acceptValue stack head

/-- The value that the bytes start with, from the given open items on. -/
def run (mode : Head.Mode) (stack : List Context) : Bytes → Option Cbor
  | [] => none
  | byte :: rest =>
      match Head.step byte mode with
      | none => none
      | some (mode, none) => run mode stack rest
      | some (mode, some head) =>
          match accept stack head with
          | none => none
          | some (.complete value) => some value
          | some (.within stack) => run mode stack rest

def ofBytes? (bytes : Bytes) : Option Cbor := run .start [] bytes

end PadRelay.Cbor
