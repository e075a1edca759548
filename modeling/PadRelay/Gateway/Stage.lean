import PadRelay.Client
import PadRelay.Gateway.Rehearsal

/-!
# Stages

A rehearsal with a cast: connections and clients go by names, clients ask, acknowledge and delete,
and after every scene the stage tells what was sent to whom and who has left. What a client
receives on a connection stays at hand, so that a later scene can read it.
-/

namespace PadRelay

/-- A rehearsal with a cast. -/
structure Stage where
  /-- The gateway with its planned faults. -/
  world : Rehearsal
  /-- What is fixed about the exchange of keys. -/
  desk : Desk := {}
  /-- Clear connections enter the directory, and what they say is relayed. -/
  relaying : Bool := false
  /-- Timers run as soon as they are due. -/
  prompt : Bool := false
  /-- The connections by name. -/
  names : Table String Party := ∅
  /-- The clients by name. -/
  clients : Table String Client := ∅
  /-- What each connection was sent last, in the scenes before this one. -/
  last : Table String Bytes := ∅
  /-- Every key that a client has accepted, oldest first. -/
  keys : List Key := []
  /-- Who is known to have left. -/
  left : List String := []

abbrev Play := StateM Stage

namespace Play

def perform {α : Type} (script : Script α) : Play α :=
  modifyGet fun stage =>
    let (value, world) := stage.world.run script
    (value, { stage with world })

def change {α : Type} (work : Gateway → α × Gateway) : Play α :=
  modifyGet fun stage =>
    let (value, world) := stage.world.onGateway work
    (value, { stage with world })

def see {α : Type} (look : Gateway → α) : Play α := return look (← get).world.gateway

def plan (work : Rehearsal → Rehearsal) : Play Unit :=
  modify fun stage => { stage with world := work stage.world }

def desk (family : Family) : Play Desk := return { (← get).desk with family }

def party (name : String) : Play Party := return ((← get).names.get? name).getD default

/-- What a connection was sent last, in an earlier scene. -/
def lastOn (name : String) : Play Bytes := return ((← get).last.get? name).getD []

/-- What a connection has been sent in this scene. -/
def sentTo (name : String) : Play (List Bytes) := do
  let party ← party name
  see fun gateway => ((gateway.connections.get? party.handle).map Connection.sent).getD []

/-- A new connection enters under a name, which it takes from whoever had it. -/
def enter (name : String) (connection : Connection Hook) : Play Unit := do
  let party ← change fun gateway => gateway.enroll connection
  modify fun stage => { stage with
    names := stage.names.insert name party }

def cast (name : String) (client : Client) : Play Unit :=
  modify fun stage => { stage with clients := stage.clients.insert name client }

/-- A connection is taken in. -/
def attach (family : Family) (name : String) : Play Unit := do
  let desk ← desk family
  let party ← party name
  perform (if (← get).relaying then desk.accept party else desk.attach party)

/-- A payload comes over a clear connection. -/
def sayClear (family : Family) (name : String) (payload : Bytes) : Play ClearOutcome := do
  let desk ← desk family
  let party ← party name
  perform (if (← get).relaying then desk.receive party payload else desk.handleClear party payload)

/-- A payload comes over an encrypted connection. -/
def sayEncrypted (family : Family) (name : String) (payload : Bytes) : Play EncryptedOutcome := do
  perform ((← desk family).handleEncrypted (← party name) payload)

/-- A client takes the key in a payload. -/
def accept (name : String) (client : Client) (payload : Bytes) : Play (Except ClientError Key) := do
  match client.accept payload with
  | .ok (key, client) =>
      cast name client
      modify fun stage => { stage with keys := stage.keys ++ [key] }
      return .ok key
  | .error error => return .error error

/-- The accepted key that a text such as `k1` names by its number. -/
def keyNumber (text : String) : Play (Option Key) := do
  let keys := (← get).keys
  return do
    guard (text.startsWith "k")
    let number ← (text.drop 1).toString.toNat?
    guard (0 < number)
    keys[number - 1]?

/-- A client asks for a key over a connection, and takes the one in the answer if it is to. -/
def request (family : Family) (name : String) (client : Client) (on : String)
    (size : Option UInt32) (accepting : Bool) :
    Play (EncryptedOutcome × Option (Except ClientError Key)) := do
  let outcome ← sayEncrypted family on (client.newKeyRequest size)
  match (← sentTo on).getLast? with
  | some payload =>
      if accepting then return (outcome, some (← accept name client payload))
      else return (outcome, none)
  | none => return (outcome, none)

/-- A client acknowledges its staged key over a connection. -/
def acknowledge (family : Family) (name : String) (client : Client) (through : String) :
    Play (Except ClientError ClearOutcome) := do
  match client.acknowledge with
  | .ok (payload, client) =>
      cast name client
      return .ok (← sayClear family through payload)
  | .error error => return .error error

/-- Time passes. The timers that are due run, unless the clock is only moved on a stage where they
are late. -/
def passTime (duration : Nat) (onlyClock : Bool) : Play Unit := do
  let prompt := (← get).prompt
  change fun gateway =>
    let later := gateway.advance duration
    ((), if onlyClock && !prompt then later else later.runTimers)

/-- What a connection was sent in this scene, if anything, put away for later scenes. -/
def putAway (name : String) (party : Party) : Play (Option (String × List Bytes)) := do
  let payloads ← sentTo name
  match payloads.getLast? with
  | none => return none
  | some payload =>
      modify fun stage => { stage with last := stage.last.insert name payload }
      change fun gateway => ((), { gateway with
        connections := gateway.connections.modify party.handle Connection.clearSent })
      return some (name, payloads)

/-- The end of a scene: what was sent to whom, and who has left since the last one. -/
def curtain : Play (List (String × List Bytes) × List String) := do
  let names := (← get).names.entries
  let sent ← names.filterMapM fun (name, party) => putAway name party
  let gateway ← see id
  let known := (← get).left
  let gone := (names.filter fun (name, party) =>
    !known.contains name && !gateway.isOpen party.handle).map Prod.fst
  modify fun stage => { stage with left := gone ++ known }
  return (sent, gone)

end Play

end PadRelay
