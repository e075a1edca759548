import PadRelay.Bytes

/-!
# Document values

The data that a message's members hold, whichever format they were written in. The formats differ in
a few respects that matter to a reader: what stands for "nothing", and whether text may come as raw
bytes.
-/

namespace PadRelay

/-- The value of a member of a document. -/
inductive Value where
  | unit
  | absent
  | bool (value : Bool)
  | nat (value : Nat)
  | number
  | text (content : String)
  | blob (content : Bytes)
  | list (items : List Value)
  | map (entries : List (Value × Value))

/-- The members of a document: names, compared byte by byte, with their values. -/
abbrev Members := List (Bytes × Value)

namespace Value

/-- Whether the value stands for a missing one. -/
def isNothing : Value → Bool
  | .unit | .absent => true
  | _ => false

def toBool? : Value → Option Bool
  | .bool value => some value
  | _ => none

/-- An unsigned integer below a bound. -/
def toNatBelow? (bound : Nat) : Value → Option Nat
  | .nat value => if value < bound then some value else none
  | _ => none

/-- A text. Raw bytes are taken if they encode one. -/
def toText? : Value → Option String
  | .text content => some content
  | .blob content => Bytes.toText? content
  | _ => none

def toBytes? : Value → Option Bytes
  | .list items => items.mapM fun item => (item.toNatBelow? 256).map UInt8.ofNat
  | _ => none

end Value

namespace Members

/-- The value of a member that may be missing. A name that occurs twice is refused. -/
def find (members : Members) (name : String) : Option (Option Value) :=
  match members.filter fun member => member.1 = Bytes.ofText name with
  | [] => some none
  | [member] => some (some member.2)
  | _ => none

def required {α : Type} (members : Members) (name : String) (read : Value → Option α) : Option α :=
  match members.find name with
  | some (some value) => read value
  | _ => none

/-- A member that may be missing or stand for nothing. -/
def optional {α : Type} (members : Members) (name : String) (read : Value → Option α) :
    Option (Option α) :=
  match members.find name with
  | none => none
  | some none => some none
  | some (some value) => if value.isNothing then some none else (read value).map some

end Members

end PadRelay
