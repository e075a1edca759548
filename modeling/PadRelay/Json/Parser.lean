import PadRelay.Json.Token

/-!
# Reading JSON

Tokens are put together by a machine with a stack of the arrays and objects that are still open, so
that no depth of nesting is too much for it.
-/

namespace PadRelay.Json

/-- The members of an object. -/
abbrev Entries := List (Quoted × Json)

/-- Something still open around the value that is being read. What it holds so far is reversed. -/
inductive Context where
  | items (done : List Json)
  | members (done : Entries) (name : Quoted)

/-- What may come next. -/
inductive Expected where
  | value
  | firstItem
  | firstName
  | name (done : Entries)
  | colon (done : Entries) (name : Quoted)
  | nextItem (done : List Json)
  | nextMember (done : Entries)
  | nothing (value : Json)

/-- The state of the machine. -/
structure Machine where
  stack : List Context
  expected : Expected

namespace Machine

/-- The state before the first token. -/
def start : Machine := ⟨[], .value⟩

/-- The state after a value within the given contexts. -/
def complete (value : Json) : List Context → Machine
  | [] => ⟨[], .nothing value⟩
  | .items done :: stack => ⟨stack, .nextItem (value :: done)⟩
  | .members done name :: stack => ⟨stack, .nextMember ((name, value) :: done)⟩

/-- A token where a value has to start. -/
def startValue (stack : List Context) : Token → Option Machine
  | .scalar value => some (complete value stack)
  | .quoted pieces => some (complete (.text pieces) stack)
  | .openArray => some ⟨.items [] :: stack, .firstItem⟩
  | .openObject => some ⟨stack, .firstName⟩
  | _ => none

/-- One token. -/
def step (machine : Machine) (token : Token) : Option Machine :=
  match machine.expected, token with
  | .value, token => startValue machine.stack token
  | .firstItem, .closeArray => some (complete (.array []) machine.stack.tail)
  | .firstItem, token => startValue machine.stack token
  | .firstName, .closeObject => some (complete (.object []) machine.stack)
  | .firstName, .quoted name => some ⟨machine.stack, .colon [] name⟩
  | .name done, .quoted name => some ⟨machine.stack, .colon done name⟩
  | .colon done name, .colon => some ⟨.members done name :: machine.stack, .value⟩
  | .nextItem done, .comma => some ⟨.items done :: machine.stack, .value⟩
  | .nextItem done, .closeArray => some (complete (.array done.reverse) machine.stack)
  | .nextMember done, .comma => some ⟨machine.stack, .name done⟩
  | .nextMember done, .closeObject => some (complete (.object done.reverse) machine.stack)
  | _, _ => none

/-- The value that the tokens make up from a state on. -/
def run (machine : Machine) : List Token → Option Json
  | [] =>
      match machine.expected with
      | .nothing value => some value
      | _ => none
  | token :: rest =>
      match machine.step token with
      | none => none
      | some machine => machine.run rest

end Machine

/-- The value that a document holds, blanks around it allowed. -/
def ofBytes? (bytes : Bytes) : Option Json :=
  (Token.ofBytes? bytes).bind Machine.start.run

end PadRelay.Json
