/-!
# Response codes

The outcome that every response carries: clients act on the number, people read the reason.
-/

namespace PadRelay

/-- What became of a request. -/
inductive Code where
  /-- The request succeeded. -/
  | ok
  /-- The message could not be read. -/
  | malformedRequest
  /-- A key request without a function. -/
  | missingFunction
  /-- The requested key size is not allowed. -/
  | invalidKeySize
  /-- The encrypted channel comes from another host than the clear channel. -/
  | hostMismatch
  /-- The channel has no transport security. -/
  | notEncrypted
  /-- The request names another identity than the channel's own. -/
  | identityMismatch
  /-- The request is not allowed on this channel. -/
  | wrongChannel
  /-- There is no staged key to acknowledge. -/
  | noPendingKey
  /-- There is no active key to delete. -/
  | noActiveKey
  /-- There is no clear channel for the identity. -/
  | noClearChannel
  /-- A failure that nobody foresaw. -/
  | unexpected
deriving DecidableEq, Repr, Inhabited

namespace Code

/-- Every code, in the order of the numbers. -/
def all : List Code :=
  [.ok, .malformedRequest, .missingFunction, .invalidKeySize, .hostMismatch, .notEncrypted,
   .identityMismatch, .wrongChannel, .noPendingKey, .noActiveKey, .noClearChannel, .unexpected]

/-- The number on the wire. -/
def number : Code → Nat
  | .ok => 0
  | .malformedRequest => 1001
  | .missingFunction => 1002
  | .invalidKeySize => 1003
  | .hostMismatch => 1004
  | .notEncrypted => 1005
  | .identityMismatch => 1006
  | .wrongChannel => 1007
  | .noPendingKey => 1101
  | .noActiveKey => 1102
  | .noClearChannel => 1103
  | .unexpected => 1500

def ofNumber? (number : Nat) : Option Code := all.find? fun code => code.number = number

/-- The name of the code in reports. -/
def name : Code → String
  | .ok => "Ok"
  | .malformedRequest => "MalformedRequest"
  | .missingFunction => "MissingFunction"
  | .invalidKeySize => "InvalidKeySize"
  | .hostMismatch => "HostMismatch"
  | .notEncrypted => "NotEncrypted"
  | .identityMismatch => "IdentityMismatch"
  | .wrongChannel => "WrongChannel"
  | .noPendingKey => "NoPendingKey"
  | .noActiveKey => "NoActiveKey"
  | .noClearChannel => "NoClearChannel"
  | .unexpected => "Unexpected"

/-- The reason sent beside the code. -/
def reason : Code → String
  | .ok => "ok"
  | .malformedRequest => "malformed request"
  | .missingFunction => "key request carries no function"
  | .invalidKeySize => "invalid key size"
  | .hostMismatch => "encrypted channel host does not match clear channel host"
  | .notEncrypted => "channel is not transport encrypted"
  | .identityMismatch => "request identity does not match channel identity"
  | .wrongChannel => "request not allowed on this channel"
  | .noPendingKey => "no pending key for identity"
  | .noActiveKey => "no active key for identity"
  | .noClearChannel => "no clear channel for identity"
  | .unexpected => "unexpected error"

/-- Whether the code reports success. -/
def isOk (code : Code) : Bool := code = .ok

def describe (code : Code) : String := s!"{code.reason} ({code.number})"

theorem mem_all (code : Code) : code ∈ all := by
  cases code <;> decide

@[simp]
theorem ofNumber?_number (code : Code) : ofNumber? code.number = some code := by
  cases code <;> decide

theorem number_lt (code : Code) : code.number < UInt16.size := by
  cases code <;> decide

end Code

end PadRelay
