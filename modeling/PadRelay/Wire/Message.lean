import PadRelay.Identity
import PadRelay.Wire.Code

/-!
# Messages

What a client and the gateway say to each other about keys. Anything else on a clear channel belongs
to the application.
-/

namespace PadRelay

/-- What a key request asks for. -/
inductive KeyFunction where
  | new
  | delete
deriving DecidableEq, Repr

/-- A request for a new key or for the end of the active one. -/
structure KeyRequest where
  function : Option KeyFunction := none
  target : Option Identity := none
  size : Option UInt32 := none
deriving DecidableEq

/-- What became of an acknowledgement or a deletion. -/
structure Outcome where
  success : Bool
  code : Code
  reason : String
deriving DecidableEq

/-- The answer to a key request. -/
structure KeyResponse extends Outcome where
  key : Option Bytes
deriving DecidableEq

/-- Everything that is said about keys. -/
inductive Message where
  /-- The gateway names the identity of a new clear channel. -/
  | welcome (identity : Identity)
  /-- A client asks about a key. -/
  | keyRequest (request : KeyRequest)
  /-- The gateway answers on the encrypted channel. -/
  | keyResponse (response : KeyResponse)
  /-- A client has switched to its staged key. -/
  | keyAck (target : Identity)
  /-- The gateway answers an acknowledgement. -/
  | ackResponse (outcome : Outcome)
  /-- The gateway answers a deletion. -/
  | deleteResponse (outcome : Outcome)
  /-- The gateway reports any other failure. -/
  | errorResponse (code : Code) (reason : String)
deriving DecidableEq

/-- The kinds of message. -/
inductive Kind where
  | welcome
  | keyRequest
  | keyResponse
  | keyAck
  | ackResponse
  | deleteResponse
  | errorResponse
deriving DecidableEq, Repr

namespace Kind

def all : List Kind :=
  [.welcome, .keyRequest, .keyResponse, .keyAck, .ackResponse, .deleteResponse, .errorResponse]

/-- The tag that names the kind in a document. -/
def tag : Kind → String
  | .welcome => "Welcome"
  | .keyRequest => "KeyRequest"
  | .keyResponse => "KeyResponse"
  | .keyAck => "KeyAck"
  | .ackResponse => "AckResponse"
  | .deleteResponse => "DeleteResponse"
  | .errorResponse => "ErrorResponse"

def ofTag? (tag : String) : Option Kind := all.find? fun kind => kind.tag = tag

@[simp]
theorem ofTag?_tag (kind : Kind) : ofTag? kind.tag = some kind := by
  cases kind <;> decide

theorem tag_of_ofTag? {tag : String} {kind : Kind} (found : ofTag? tag = some kind) :
    kind.tag = tag := by
  simpa using List.find?_some found

end Kind

namespace KeyFunction

def name : KeyFunction → String
  | .new => "NEW"
  | .delete => "DELETE"

def ofName? (name : String) : Option KeyFunction :=
  [new, delete].find? fun function => function.name = name

@[simp]
theorem ofName?_name (function : KeyFunction) : ofName? function.name = some function := by
  cases function <;> decide

end KeyFunction

namespace KeyRequest

def newKey (target : Identity) (size : Option UInt32) : KeyRequest := ⟨some .new, some target, size⟩

/-- A request to end the active key. -/
def deleteKey (target : Identity) : KeyRequest := ⟨some .delete, some target, none⟩

end KeyRequest

namespace Outcome

/-- The outcome with a code: a success exactly for the code of success. -/
def ofCode (code : Code) : Outcome := ⟨code.isOk, code, code.reason⟩

def ok : Outcome := ofCode .ok

end Outcome

namespace KeyResponse

def issued (key : Bytes) : KeyResponse := ⟨⟨true, .ok, Code.ok.reason⟩, some key⟩

/-- A refusal, whatever the code. -/
def failure (code : Code) : KeyResponse := ⟨⟨false, code, code.reason⟩, none⟩

end KeyResponse

namespace Message

def kind : Message → Kind
  | .welcome _ => .welcome
  | .keyRequest _ => .keyRequest
  | .keyResponse _ => .keyResponse
  | .keyAck _ => .keyAck
  | .ackResponse _ => .ackResponse
  | .deleteResponse _ => .deleteResponse
  | .errorResponse _ _ => .errorResponse

/-- A refused key request. -/
def keyFailure (code : Code) : Message := .keyResponse (.failure code)

/-- The answer to an acknowledgement with a code. -/
def ackOutcome (code : Code) : Message := .ackResponse (.ofCode code)

def deleteOutcome (code : Code) : Message := .deleteResponse (.ofCode code)

def failure (code : Code) : Message := .errorResponse code code.reason

end Message

end PadRelay
