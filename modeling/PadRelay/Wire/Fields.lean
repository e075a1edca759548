import PadRelay.Wire.Message
import PadRelay.Wire.Value

/-!
# Messages as documents

Every message is a document with a member `type`, which names its kind, and one member for each
field, in a fixed order. Fields that hold nothing are left out. Reading goes by name: the order does
not matter, unknown members are ignored, known ones may not occur twice.
-/

namespace PadRelay

/-- The name of the member that holds the tag. -/
def tagName : String := "type"

/-- What a message writes into a member. -/
inductive Field where
  | bool (value : Bool)
  | nat (value : Nat)
  | text (content : String)
  | bytes (content : Bytes)
deriving DecidableEq

/-- The value that a reader finds in a written member. -/
def Field.toValue : Field → Value
  | .bool value => .bool value
  | .nat value => .nat value
  | .text content => .text content
  | .bytes content => .list (content.map fun byte => .nat byte.toNat)

namespace KeyFunction

/-- The function that a value names: by its name, its bytes, or its position. -/
def ofVariant? : Value → Option KeyFunction
  | .text name => ofName? name
  | .blob name => (Bytes.toText? name).bind ofName?
  | .nat 0 => some .new
  | .nat 1 => some .delete
  | _ => none

/-- Whether a value may accompany the name of a function. -/
def isEmptyContent : Value → Bool
  | .unit => true
  | .map [] => true
  | _ => false

def ofValue? : Value → Option KeyFunction
  | .text name => ofName? name
  | .map [(variant, content)] => if isEmptyContent content then ofVariant? variant else none
  | _ => none

end KeyFunction

namespace Code

def ofValue? (value : Value) : Option Code :=
  (value.toNatBelow? UInt16.size).bind ofNumber?

end Code

def identityOfValue? (value : Value) : Option Identity :=
  (value.toNatBelow? UInt64.size).map UInt64.ofNat

/-- A key size from its number. -/
def sizeOfValue? (value : Value) : Option UInt32 :=
  (value.toNatBelow? UInt32.size).map UInt32.ofNat

namespace Message

/-- The outcome in the members of a response. -/
def outcomeOfMembers? (members : Members) : Option Outcome := do
  let success ← members.required "success" Value.toBool?
  let code ← members.required "code" Code.ofValue?
  let reason ← members.required "reason" Value.toText?
  return ⟨success, code, reason⟩

/-- The message of a kind with the given members. -/
def ofMembers? (kind : Kind) (members : Members) : Option Message :=
  match kind with
  | .welcome => do
      let identity ← members.required "identity" identityOfValue?
      return .welcome identity
  | .keyRequest => do
      let function ← members.optional "function" KeyFunction.ofValue?
      let target ← members.optional "targetIdentity" identityOfValue?
      let size ← members.optional "requestedSize" sizeOfValue?
      return .keyRequest ⟨function, target, size⟩
  | .keyResponse => do
      let outcome ← outcomeOfMembers? members
      let key ← members.optional "keyBytes" Value.toBytes?
      return .keyResponse ⟨outcome, key⟩
  | .keyAck => do
      let target ← members.required "targetIdentity" identityOfValue?
      return .keyAck target
  | .ackResponse => (outcomeOfMembers? members).map .ackResponse
  | .deleteResponse => (outcomeOfMembers? members).map .deleteResponse
  | .errorResponse => do
      let code ← members.required "code" Code.ofValue?
      let reason ← members.required "reason" Value.toText?
      return .errorResponse code reason

def outcomeFields (outcome : Outcome) : List (String × Field) :=
  [("success", .bool outcome.success), ("code", .nat outcome.code.number),
   ("reason", .text outcome.reason)]

/-- The member for a field, left out if the field holds nothing. -/
def optionalField {α : Type} (name : String) (write : α → Field) :
    Option α → List (String × Field)
  | none => []
  | some value => [(name, write value)]

/-- The fields of a message, in order. -/
def fields : Message → List (String × Field)
  | .welcome identity => [("identity", .nat identity.toNat)]
  | .keyRequest request =>
      optionalField "function" (fun function => .text function.name) request.function
        ++ optionalField "targetIdentity" (fun target => .nat target.toNat) request.target
        ++ optionalField "requestedSize" (fun size => .nat size.toNat) request.size
  | .keyResponse response =>
      outcomeFields response.toOutcome
        ++ optionalField "keyBytes" .bytes response.key
  | .keyAck target => [("targetIdentity", .nat target.toNat)]
  | .ackResponse outcome => outcomeFields outcome
  | .deleteResponse outcome => outcomeFields outcome
  | .errorResponse code reason => [("code", .nat code.number), ("reason", .text reason)]

def document (message : Message) : List (String × Field) :=
  (tagName, .text message.kind.tag) :: message.fields

end Message

end PadRelay
