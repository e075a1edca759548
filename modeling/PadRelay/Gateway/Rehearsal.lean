import PadRelay.Gateway.Relay

/-!
# Rehearsals

A gateway on which things go wrong as planned, for trying out handlers: writing messages fails for a
while, a connection loses its security after some looks at it, and just when a hook is registered on
a connection, another one closes or a pair changes. Everything else is as on the gateway itself.
-/

namespace PadRelay

/-- What happens when the next hook is registered on a connection, just before it is stored. -/
inductive Ambush where
  /-- A connection closes. -/
  | close (handle : Handle)
  /-- A pair is dropped. -/
  | unpair (family : Family) (identity : Identity)
  /-- A connection becomes the encrypted channel of an identity. -/
  | pair (family : Family) (identity : Identity) (party : Party)

/-- A gateway with its planned faults. -/
structure Rehearsal where
  /-- The gateway. -/
  gateway : Gateway
  /-- How many more messages cannot be written. -/
  encodeFailures : Nat := 0
  /-- How many more times a connection shows its security. -/
  secureLooks : Table Handle Nat := ∅
  /-- What waits for the next hook on a connection. -/
  ambushes : Table Handle Ambush := ∅

namespace Rehearsal

def onGateway {α : Type} (rehearsal : Rehearsal) (change : Gateway → α × Gateway) :
    α × Rehearsal :=
  let (value, gateway) := change rehearsal.gateway
  (value, { rehearsal with gateway })

/-- Look at the security of a connection. -/
def look (rehearsal : Rehearsal) (handle : Handle) : Bool × Rehearsal :=
  match rehearsal.secureLooks.get? handle with
  | some 0 => (false, rehearsal)
  | some (left + 1) =>
      (rehearsal.gateway.isSecure handle,
        { rehearsal with secureLooks := rehearsal.secureLooks.insert handle left })
  | none => (rehearsal.gateway.isSecure handle, rehearsal)

/-- Write a message. -/
def encode (rehearsal : Rehearsal) (codec : Codec) (message : Message) :
    Except FormatError Bytes × Rehearsal :=
  match rehearsal.encodeFailures with
  | 0 => (.ok (codec.encode message), rehearsal)
  | left + 1 => (.error (.encode "planned"), { rehearsal with encodeFailures := left })

/-- Perform a call. At most `depth` ambushes are sprung on the way; since each is sprung once, their
number is always enough. -/
def performWithin (depth : Nat) (rehearsal : Rehearsal) : (call : Call) → call.Reply × Rehearsal
  | .isSecure handle => rehearsal.look handle
  | .encode codec message => rehearsal.encode codec message
  | .onClose handle hook =>
      let sprung :=
        match depth, rehearsal.ambushes.get? handle with
        | depth + 1, some ambush =>
            let rest := { rehearsal with ambushes := rehearsal.ambushes.erase handle }
            match ambush with
            | .close other => { rest with gateway := rest.gateway.close other }
            | .unpair family identity =>
                { rest with gateway := (rest.gateway.unpair family identity).2 }
            | .pair family identity party =>
                ((Script.setEncrypted family identity party).runWith
                  (performWithin depth) rest).2
        | _, _ => rehearsal
      sprung.onGateway fun gateway => gateway.perform (.onClose handle hook)
  | call => rehearsal.onGateway fun gateway => gateway.perform call

def perform (rehearsal : Rehearsal) (call : Call) : call.Reply × Rehearsal :=
  rehearsal.performWithin rehearsal.ambushes.size call

def run {α : Type} (rehearsal : Rehearsal) (script : Script α) : α × Rehearsal :=
  script.runWith perform rehearsal

end Rehearsal

end PadRelay
