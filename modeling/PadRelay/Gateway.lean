import PadRelay.Cipher
import PadRelay.Connection
import PadRelay.Directory
import PadRelay.Key.Staged

/-!
# The gateway

Everything that the gateway knows, as one value: its connections, the active and the staged keys of
all identities, and for each family of listeners the channel pairs, the directory and the counters.
Keys are shared by the families; a connection pairs only within its own.

What is to happen when a connection closes is data. The hooks of a connection only take things out
of tables: they never close or register anything, so running them needs no recursion.
-/

namespace PadRelay

/-- The families of listeners. -/
inductive Family where
  /-- Plain and TLS sockets. -/
  | socket
  /-- Plain and secure WebSockets. -/
  | webSocket
deriving DecidableEq, Repr

/-- The name of a family in logs. -/
def Family.label : Family → String
  | .socket => "socket"
  | .webSocket => "websocket"

/-- What a clear connection can be known under. -/
inductive ChannelKey where
  | identity (id : Identity)
  | user (name : String)
  | session (id : UInt64)
deriving DecidableEq

/-- What is to happen when a connection closes. -/
inductive Hook where
  /-- The keys of an identity are dropped. -/
  | dropKeys (identity : Identity)
  /-- A connection leaves a slot of a pair. -/
  | vacate (family : Family) (identity : Identity) (role : Role) (connection : Identity)
  /-- A connection leaves the directory. -/
  | forget (family : Family) (connection : Identity)
deriving DecidableEq

/-- What is counted. -/
inductive Event where
  /-- A payload was sealed with an active key. -/
  | encrypted
  /-- A payload was opened with some key. -/
  | decrypted
  /-- A payload was no acknowledgement under the staged key. -/
  | ambiguous
  /-- A key was issued. -/
  | issued
  /-- A key became active. -/
  | activated
  /-- An active key was deleted. -/
  | deleted
  /-- A request was refused or dropped. -/
  | rejected
deriving DecidableEq, Repr

/-- How often each event has happened. -/
structure Tally where
  /-- Payloads sealed with an active key. -/
  encrypted : Nat := 0
  /-- Payloads opened with some key. -/
  decrypted : Nat := 0
  /-- Payloads that were no acknowledgement under the staged key. -/
  ambiguous : Nat := 0
  /-- Keys issued. -/
  issued : Nat := 0
  /-- Keys that became active. -/
  activated : Nat := 0
  /-- Active keys deleted. -/
  deleted : Nat := 0
  /-- Requests refused or dropped. -/
  rejected : Nat := 0
deriving DecidableEq

def Tally.count (tally : Tally) : Event → Tally
  | .encrypted => { tally with encrypted := tally.encrypted + 1 }
  | .decrypted => { tally with decrypted := tally.decrypted + 1 }
  | .ambiguous => { tally with ambiguous := tally.ambiguous + 1 }
  | .issued => { tally with issued := tally.issued + 1 }
  | .activated => { tally with activated := tally.activated + 1 }
  | .deleted => { tally with deleted := tally.deleted + 1 }
  | .rejected => { tally with rejected := tally.rejected + 1 }

/-- What the directory of a family does to a payload on its way to a recipient. -/
inductive Dressing where
  | sealed
  | custom (change : Identity → Bytes → Bytes)

/-- What one family of listeners has of its own. -/
structure Layer where
  pairs : Pairs := ∅
  directory : Directory ChannelKey := {}
  dressing : Dressing := .sealed
  tally : Tally := {}

/-- Where an identity is in the exchange of keys. -/
inductive KeyState where
  /-- No key at all. -/
  | unencrypted
  /-- A key is staged, and traffic is still plain. -/
  | keyPending
  /-- Traffic is sealed. -/
  | encrypted
  /-- Traffic is sealed, and the next key is staged. -/
  | rotating
deriving DecidableEq, Repr

/-- The name of a state in reports. -/
def KeyState.name : KeyState → String
  | .unencrypted => "Unencrypted"
  | .keyPending => "KeyPending"
  | .encrypted => "Encrypted"
  | .rotating => "Rotating"

/-- Everything that the gateway knows. -/
structure Gateway where
  /-- Where random bytes come from. -/
  entropy : Entropy
  /-- The staged keys of all identities. -/
  staged : StagedKeys
  /-- The active keys of all identities. -/
  active : Table Identity Key := ∅
  /-- Every connection object there ever was. -/
  connections : Table Handle (Connection Hook) := ∅
  /-- Where new identities come from. -/
  identities : Identities := .first
  /-- The clock, in nanoseconds. -/
  now : Nat := 0
  /-- The socket family. -/
  socket : Layer := {}
  /-- The WebSocket family. -/
  webSocket : Layer := {}

namespace Gateway

def layer (gateway : Gateway) : Family → Layer
  | .socket => gateway.socket
  | .webSocket => gateway.webSocket

/-- The gateway with a family's part changed. -/
def modifyLayer (gateway : Gateway) (family : Family) (change : Layer → Layer) : Gateway :=
  match family with
  | .socket => { gateway with socket := change gateway.socket }
  | .webSocket => { gateway with webSocket := change gateway.webSocket }

def onDirectory {α : Type} (gateway : Gateway) (family : Family)
    (work : Directory ChannelKey → α × Directory ChannelKey) : α × Gateway :=
  let (result, directory) := work (gateway.layer family).directory
  (result, gateway.modifyLayer family fun layer => { layer with directory })

def onStaged {α : Type} (gateway : Gateway) (work : StagedKeys → α × StagedKeys) : α × Gateway :=
  let (result, staged) := work gateway.staged
  (result, { gateway with staged })

def count (gateway : Gateway) (family : Family) (event : Event) : Gateway :=
  gateway.modifyLayer family fun layer => { layer with tally := layer.tally.count event }

/-- Whether a connection is open. -/
def isOpen (gateway : Gateway) (handle : Handle) : Bool :=
  (gateway.connections.get? handle).any Connection.isOpen

/-- Whether a connection has transport security. -/
def isSecure (gateway : Gateway) (handle : Handle) : Bool :=
  (gateway.connections.get? handle).any Connection.secure

/-- Enter a new connection object under a fresh handle. -/
def enroll (gateway : Gateway) (connection : Connection Hook) : Party × Gateway :=
  let handle := gateway.connections.size
  (⟨handle, connection.id⟩,
    { gateway with connections := gateway.connections.insert handle connection })

/-- The identity of a new connection. -/
def nextIdentity (gateway : Gateway) : Identity × Gateway :=
  let (identity, identities, entropy) := gateway.identities.next gateway.entropy
  (identity, { gateway with identities, entropy })

/-- Drop the active, the staged and the retired key of an identity. -/
def dropKeys (gateway : Gateway) (identity : Identity) : Gateway :=
  { gateway with
    active := gateway.active.erase identity
    staged := (gateway.staged.remove gateway.now identity).2 }

def runHook (gateway : Gateway) : Hook → Gateway
  | .dropKeys identity => gateway.dropKeys identity
  | .vacate family identity role connection =>
      gateway.modifyLayer family fun layer =>
        { layer with pairs := layer.pairs.vacate gateway.isOpen identity role connection }
  | .forget family connection =>
      (gateway.onDirectory family fun directory => directory.forget connection).2

def runHooks (gateway : Gateway) (hooks : List Hook) : Gateway := hooks.foldl runHook gateway

/-- Replace a connection object by what an operation made of it, and run what came due. -/
def settle (gateway : Gateway) (handle : Handle) (connection : Connection Hook)
    (due : List Hook) : Gateway :=
  { gateway with connections := gateway.connections.insert handle connection }.runHooks due

/-- Close a connection. -/
def close (gateway : Gateway) (handle : Handle) : Gateway :=
  match gateway.connections.get? handle with
  | none => gateway
  | some connection =>
      let (connection, due) := connection.close
      gateway.settle handle connection due

/-- Register a hook for the close of a connection; it runs at once if that has come already. -/
def onClose (gateway : Gateway) (handle : Handle) (hook : Hook) : Gateway :=
  match gateway.connections.get? handle with
  | none => gateway
  | some connection =>
      let (connection, due) := connection.onClose hook
      gateway.settle handle connection due

/-- Hand a payload to a connection: whether it took it. -/
def send (gateway : Gateway) (handle : Handle) (payload : Bytes) : Bool × Gateway :=
  match gateway.connections.get? handle with
  | none => (false, gateway)
  | some connection =>
      let (result, connection, due) := connection.send payload
      (result.isOk, gateway.settle handle connection due)

/-- A payload sealed with the active key of an identity, or as it is if there is none. -/
def sealFor (gateway : Gateway) (family : Family) (identity : Identity) (payload : Bytes) :
    Bytes × Gateway :=
  match gateway.active.get? identity with
  | some key => (Cipher.transform key payload, gateway.count family .encrypted)
  | none => (payload, gateway)

/-- A payload as the directory of a family sends it to a recipient. -/
def dress (gateway : Gateway) (family : Family) (recipient : Identity) (payload : Bytes) :
    Bytes × Gateway :=
  match (gateway.layer family).dressing with
  | .sealed => gateway.sealFor family recipient payload
  | .custom change => (change recipient payload, gateway)

/-- The staged key of an identity; an overdue one is retired on the spot. -/
def stagedKey (gateway : Gateway) (identity : Identity) : Option StagedKey × Gateway :=
  gateway.onStaged fun staged => staged.get gateway.now identity

/-- Where an identity is in the exchange of keys. -/
def keyState (gateway : Gateway) (identity : Identity) : KeyState × Gateway :=
  let (held, after) := gateway.stagedKey identity
  (match gateway.active.contains identity, held.isSome with
    | false, false => .unencrypted
    | false, true => .keyPending
    | true, false => .encrypted
    | true, true => .rotating, after)

def runTimers (gateway : Gateway) : Gateway :=
  { gateway with staged := gateway.staged.runTimers gateway.now }

/-- Let time pass without running a timer. -/
def advance (gateway : Gateway) (duration : Nat) : Gateway :=
  { gateway with now := gateway.now + duration }

/-- The open connection in a slot of a family's pairs. -/
def connectionOf (gateway : Gateway) (family : Family) (identity : Identity) (role : Role) :
    Option Party :=
  (gateway.layer family).pairs.connectionOf gateway.isOpen identity role

def remoteOf? (gateway : Gateway) (handle : Handle) : Option IpAddress :=
  (gateway.connections.get? handle).map fun connection => connection.remote.ip

/-- Whether the open clear connection of an identity comes from the given host. -/
def hostMatches (gateway : Gateway) (family : Family) (identity : Identity) (host : IpAddress) :
    Bool :=
  ((gateway.connectionOf family identity .clear).bind fun clear =>
    gateway.remoteOf? clear.handle).any fun remote => remote.sameHost host

/-- Whether both slots of an identity hold open connections from the same host. -/
def hostsMatch (gateway : Gateway) (family : Family) (identity : Identity) : Bool :=
  ((gateway.connectionOf family identity .encrypted).bind fun encrypted =>
    gateway.remoteOf? encrypted.handle).any fun host => gateway.hostMatches family identity host

/-- Put a connection into a slot: whether the slot held that connection already. -/
def place (gateway : Gateway) (family : Family) (identity : Identity) (role : Role)
    (party : Party) : Bool × Gateway :=
  ((gateway.layer family).pairs.holds identity role party.id,
    gateway.modifyLayer family fun layer =>
      { layer with pairs := layer.pairs.place identity role party })

/-- Drop the pair of an identity: whether there was one. -/
def unpair (gateway : Gateway) (family : Family) (identity : Identity) : Bool × Gateway :=
  ((gateway.layer family).pairs.contains identity,
    gateway.modifyLayer family fun layer => { layer with pairs := layer.pairs.erase identity })

/-- Close the connections of a list, one after the other. -/
def closeEach (gateway : Gateway) (parties : List Party) : Gateway :=
  parties.foldl (fun gateway party => gateway.close party.handle) gateway

/-- Drop every key and the pairs of a family. -/
def dropState (gateway : Gateway) (family : Family) : Gateway :=
  { gateway with staged := gateway.staged.clear, active := ∅ }.modifyLayer family fun layer =>
    { layer with pairs := ∅ }

/-- Drop the state of one family and close every connection in its directory. -/
def shutdownLayer (gateway : Gateway) (family : Family) : Gateway :=
  let gateway := gateway.dropState family
  gateway.closeEach (gateway.layer family).directory.connections

/-- Drop every key and pair and close every connection in a directory. -/
def shutdown (gateway : Gateway) : Gateway :=
  let gateway := (gateway.shutdownLayer .socket).shutdownLayer .webSocket
  { gateway with staged := gateway.staged.clear, active := ∅ }

end Gateway

end PadRelay
