import PadRelay.Server.Error

/-!
# WebSocket messages

One WebSocket message carries one payload. Text comes in as its UTF-8 bytes; pings and pongs are
passed over; a close ends the stream. A control message may carry 125 bytes at most, another one
16 MiB, and a peer that goes away without a close breaks the stream off.
-/

namespace PadRelay

/-- A message from the peer. -/
inductive SocketMessage where
  | text (text : String)
  | binary (payload : Bytes)
  | ping (payload : Bytes)
  | pong (payload : Bytes)
  | close (reason : Option (Nat × String))
deriving DecidableEq

namespace SocketMessage

/-- Longest payload of a control message. -/
def controlLimit : Nat := 125

/-- Longest payload of any other message. -/
def payloadLimit : Nat := 16777216

/-- Whether a message is too long. -/
def isOversized : SocketMessage → Bool
  | .text content => payloadLimit < content.utf8ByteSize
  | .binary payload => payloadLimit < payload.length
  | .ping payload | .pong payload => controlLimit < payload.length
  | .close none => false
  | .close (some (_, reason)) => controlLimit < 2 + reason.utf8ByteSize

end SocketMessage

/-- The failure of a stream that breaks off. -/
def socketReadFailure : ServerError := .transport "WebSocket read failed"

/-- Every payload among the messages of a peer that then goes away, and how the stream ends: with
nothing after a close, with a failure otherwise. -/
def readMessages : List SocketMessage → List Bytes × Option ServerError
  | [] => ([], some socketReadFailure)
  | message :: messages =>
      if message.isOversized then ([], some socketReadFailure)
      else
        match message with
        | .text text =>
            let (payloads, failure) := readMessages messages
            (Bytes.ofText text :: payloads, failure)
        | .binary payload =>
            let (payloads, failure) := readMessages messages
            (payload :: payloads, failure)
        | .ping _ | .pong _ => readMessages messages
        | .close _ => ([], none)

end PadRelay
