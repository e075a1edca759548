import PadRelay.Http.Request
import PadRelay.Server.Error

/-!
# The upgrade to a WebSocket

A WebSocket begins as a request of HTTP. The request is accepted when it asks for the upgrade in
every field that the protocol demands. The stream is read in pieces, and nothing may follow the
request in the piece that it ends in.
-/

namespace PadRelay

namespace Upgrade

/-- Bytes of a piece of the stream. -/
def pieceSize : Nat := 0x1000

/-- Bytes that a request may have. -/
def maxSize : Nat := 0x10000

/-- The request of a stream, if the pieces that hold it hold nothing else. -/
def request? (stream : Bytes) : Option Http.Request := do
  let (request, rest) ← Http.Request.ofBytes? stream
  let size := stream.length - rest.length
  if size ≤ maxSize && (rest.isEmpty || size % pieceSize = 0) then some request else none

/-- The words of a request's connection, which blanks and commas separate. -/
def connectionWords (request : Http.Request) : List Bytes :=
  match (request.get? "connection").bind Http.Field.ascii? with
  | some value => value.splitOnP (Http.isAmong " ,")
  | none => []

/-- Whether a request asks for a WebSocket. -/
def isAccepted (request : Http.Request) : Bool :=
  (connectionWords request).contains (Bytes.ofText "upgrade") &&
    (request.get? "upgrade").bind Http.Field.ascii? = some (Bytes.ofText "websocket") &&
    (request.get? "sec-websocket-version").map Http.Field.value = some (Bytes.ofText "13") &&
    (request.get? "sec-websocket-key").isSome

end Upgrade

/-- Take in the upgrade of a stream that then ends. -/
def acceptUpgrade (stream : Bytes) : Except ServerError Unit :=
  if (Upgrade.request? stream).any Upgrade.isAccepted then .ok ()
  else .error (.transport "WebSocket accept failed")

end PadRelay
