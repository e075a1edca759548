import PadRelay.Wire.Message

/-!
# Errors of the wire formats

Why bytes are no frame or no message, and why a message or a frame cannot be written.
-/

namespace PadRelay

/-- A failure of a wire format. -/
inductive FormatError where
  /-- Fewer bytes than a frame header has. -/
  | frameTooShort (expected actual : Nat)
  /-- The first four bytes are not those of a frame. -/
  | invalidMagic
  /-- A frame of another version. -/
  | unsupportedVersion (version : UInt8)
  /-- A payload above the limit. -/
  | payloadTooLarge (size limit : Nat)
  /-- Fewer payload bytes than the header announces. -/
  | frameTruncated (expected actual : Nat)
  /-- No tagged document. -/
  | undecodable (reason : String)
  /-- A tagged document that is none of our messages. -/
  | unknownType (tag : String)
  /-- One of our messages with a body that does not fit its kind. -/
  | malformed (kind : Kind) (reason : String)
  /-- A message that cannot be written. -/
  | encode (reason : String)
deriving DecidableEq

namespace FormatError

/-- The name of an error in reports. -/
def name : FormatError → String
  | .frameTooShort _ _ => "FrameTooShort"
  | .invalidMagic => "InvalidMagic"
  | .unsupportedVersion _ => "UnsupportedVersion"
  | .payloadTooLarge _ _ => "PayloadTooLarge"
  | .frameTruncated _ _ => "FrameTruncated"
  | .undecodable _ => "Undecodable"
  | .unknownType _ => "UnknownType"
  | .malformed _ _ => "Malformed"
  | .encode _ => "Encode"

/-- The wording of an error. -/
def message : FormatError → String
  | .frameTooShort expected actual =>
      s!"frame too short: expected at least {expected} bytes, got {actual}"
  | .invalidMagic => "invalid frame magic"
  | .unsupportedVersion version => s!"unsupported protocol version: {version}"
  | .payloadTooLarge size limit => s!"payload too large: {size} bytes (max {limit})"
  | .frameTruncated expected actual =>
      s!"frame truncated: expected {expected} payload bytes, got {actual}"
  | .undecodable reason => s!"undecodable message: {reason}"
  | .unknownType tag => s!"unknown message type: {tag}"
  | .malformed kind reason => s!"malformed {kind.tag} message: {reason}"
  | .encode reason => s!"encode failed: {reason}"

/-- Whether a document of ours breaks the rules of its kind. -/
def isViolation : FormatError → Bool
  | .malformed _ _ => true
  | _ => false

end FormatError

end PadRelay
