import PadRelay.Key
import PadRelay.Wire.FormatError

/-!
# Failures while a message is handled

A request can fail in the wire format, in the making of a key, or because a channel or a key is
missing. Every failure has the code that the client is told.
-/

namespace PadRelay

/-- Something that a request needs is missing. -/
inductive ChannelError where
  | notEncrypted (connection : Identity)
  | noClearChannel (identity : Identity)
  | noPendingKey (identity : Identity)
  | noActiveKey (identity : Identity)
deriving DecidableEq

/-- Why a message could not be handled. -/
inductive RequestError where
  | format (error : FormatError)
  | key (error : KeyError)
  | channel (error : ChannelError)
deriving DecidableEq

namespace ChannelError

/-- The wording of an error. -/
def message : ChannelError → String
  | .notEncrypted connection => s!"connection {connection} is not transport-secured"
  | .noClearChannel identity => s!"no clear channel for identity {identity}"
  | .noPendingKey identity => s!"no pending key for identity {identity}"
  | .noActiveKey identity => s!"no active key for identity {identity}"

/-- The code that the client is told. -/
def code : ChannelError → Code
  | .notEncrypted _ => .notEncrypted
  | .noClearChannel _ => .noClearChannel
  | .noPendingKey _ => .noPendingKey
  | .noActiveKey _ => .noActiveKey

end ChannelError

namespace RequestError

def message : RequestError → String
  | .format error => s!"protocol error: {error.message}"
  | .key error => s!"cipher error: {error.message}"
  | .channel error => s!"registry error: {error.message}"

/-- The code that the client is told: only a broken message of ours, a bad size and a missing
channel or key have codes of their own. -/
def code : RequestError → Code
  | .format error => if error.isViolation then .malformedRequest else .unexpected
  | .key (.invalidSize _ _) => .invalidKeySize
  | .key .empty => .unexpected
  | .channel error => error.code

end RequestError

end PadRelay
