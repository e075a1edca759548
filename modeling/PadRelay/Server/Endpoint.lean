import PadRelay.Gateway

/-!
# Endpoints

The four listeners: each belongs to a family, and takes in either clear or encrypted channels.
-/

namespace PadRelay

/-- A listener. -/
inductive Endpoint where
  | tcp
  | tls
  | ws
  | wss
deriving DecidableEq, Repr

namespace Endpoint

/-- Every listener, in the order in which they are opened. -/
def all : List Endpoint := [.tcp, .tls, .ws, .wss]

/-- The family that a listener belongs to. -/
def family : Endpoint → Family
  | .tcp | .tls => .socket
  | .ws | .wss => .webSocket

/-- The side of a pair that its connections take. -/
def role : Endpoint → Role
  | .tcp | .ws => .clear
  | .tls | .wss => .encrypted

/-- The name of a listener. -/
def label : Endpoint → String
  | .tcp => "tcp"
  | .tls => "tls"
  | .ws => "ws"
  | .wss => "wss"

end Endpoint

end PadRelay
