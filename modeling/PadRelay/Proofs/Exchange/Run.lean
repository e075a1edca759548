import PadRelay.Gateway.Handshake
import PadRelay.Proofs.Gateway.Occurrence

/-!
# Runs of the exchange of keys

A run is a list of acts. The processor of the exchange takes connections in, handles what comes over
them and shuts down; in between connections are made and closed, outlets fill and drain, time
passes, and timers go off at any moment or never. Whatever comes over a connection is arbitrary
bytes.
-/

namespace PadRelay

/-- What the processor of the exchange does, or what happens around it. -/
inductive Act where
  /-- Something happens around the handlers. -/
  | occurs (occurrence : Occurrence)
  /-- A clear connection is taken in. -/
  | attach (handle : Handle)
  /-- A message comes over a clear channel. -/
  | clear (handle : Handle) (payload : Bytes)
  /-- The request of an encrypted channel comes. -/
  | encrypted (handle : Handle) (payload : Bytes)
  /-- The processor drops all its state. -/
  | shutdown

/-- The identity of the connection that is made. -/
def Act.opened? : Act → Option Identity
  | .occurs occurrence => occurrence.opened?
  | _ => none

/-- What an act returns. -/
inductive Report where
  | silent
  | clear (outcome : ClearOutcome)
  | encrypted (outcome : EncryptedOutcome)
deriving DecidableEq

namespace Desk

variable (desk : Desk) (start : Gateway) (acts : List Act)

/-- Perform an act. A handle without a connection is ignored. -/
def act (gateway : Gateway) : Act → Report × Gateway
  | .occurs occurrence => (.silent, gateway.undergo occurrence)
  | .attach handle => (.silent, (gateway.attend handle desk.attach).2)
  | .clear handle payload =>
      let (outcome, after) := gateway.attend handle fun party => desk.handleClear party payload
      (outcome.elim .silent .clear, after)
  | .encrypted handle payload =>
      let (outcome, after) := gateway.attend handle fun party => desk.handleEncrypted party payload
      (outcome.elim .silent .encrypted, after)
  | .shutdown => (.silent, gateway.dropState desk.family)

/-- Perform acts one after the other. -/
def run : Gateway := acts.foldl (fun gateway act => (desk.act gateway act).2) start

def stateAt (position : Nat) : Gateway := desk.run start (acts.take position)

@[simp]
theorem stateAt_zero : desk.stateAt start acts 0 = start := rfl

theorem stateAt_succ {position : Nat} {act : Act} (found : acts[position]? = some act) :
    desk.stateAt start acts (position + 1) =
      (desk.act (desk.stateAt start acts position) act).2 := by
  simp [stateAt, run, List.take_add_one, found]

theorem stateAt_succ_of_none {position : Nat} (absent : acts[position]? = none) :
    desk.stateAt start acts (position + 1) = desk.stateAt start acts position := by
  simp [stateAt, List.take_add_one, absent]

theorem run_append (act : Act) :
    desk.run start (acts ++ [act]) = (desk.act (desk.run start acts) act).2 := by
  simp [run]

theorem stateAt_length : desk.stateAt start acts acts.length = desk.run start acts := by
  simp [stateAt]

end Desk

namespace Sample

/-- Where the connections of the sample run come from. -/
def remote : SocketAddress := { ip := .loopback, port := 4711 }

def key : Key := ⟨[1], List.cons_ne_nil _ _⟩

/-- An empty gateway whose random bytes count up from one. -/
def start : Gateway := .fresh (.arithmetic 1 1) 30

def ack : Bytes := Cipher.transform key (Codec.json.encode (.keyAck 1))

/-- A client connects, asks for a key of one byte over a second connection, and acknowledges it. -/
def acts : List Act :=
  [.occurs (.opens 1 false remote (.record [] false)),
    .occurs (.opens 2 true remote (.record [] false)),
    .attach 0,
    .encrypted 1 (Codec.json.encode (.keyRequest (.newKey 1 (some 1)))),
    .clear 0 ack]

end Sample

end PadRelay
