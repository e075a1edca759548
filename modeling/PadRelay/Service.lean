import PadRelay.Connection.Writer
import PadRelay.Gateway.Relay
import PadRelay.Stream.Framing

/-!
# The service

The gateway together with the sessions that serve its connections. A session reads what has come in
and hands it to the gateway, one payload after the other; its writer takes what the gateway has
queued. A clear session lasts until its peer or the gateway closes it. An encrypted session ends
with its first payload, or when that does not come in time.

Sessions meet only in the gateway. Whenever something has come in, every session reads as much as a
turn allows, and then every writer writes as much as it can. When a turn has taken something in,
there is another, until nothing moves.
-/

namespace PadRelay

/-- What has come in and has not been read. -/
inductive Inbox where
  /-- Whole payloads. -/
  | payloads (waiting : List Bytes)
  /-- A stream of frames; `begun` tells that the header in front has been read before. -/
  | frames (begun : Bool) (stream : Bytes)

/-- What reading brings. -/
inductive Intake where
  | waiting (inbox : Inbox)
  | over
  | payload (payload : Bytes) (rest : Inbox) (reads : Nat)

namespace Inbox

/-- How much is left to read. -/
def size : Inbox → Nat
  | payloads waiting => waiting.length
  | frames _ stream => stream.length

/-- Reads that the header in front of a stream takes. -/
def headerReads (begun : Bool) : Nat := if begun then 0 else 1

/-- Read, with some reads left in the turn; `closed` tells that nothing more will come. A whole
payload is one read. A frame is one for its header and, unless it is empty, one for its payload. -/
def read (closed : Bool) (reads : Nat) : Inbox → Intake
  | payloads [] => if closed then .over else .waiting (payloads [])
  | payloads (payload :: rest) =>
      if reads = 0 then .waiting (payloads (payload :: rest))
      else .payload payload (payloads rest) (reads - 1)
  | frames begun stream =>
      if reads < headerReads begun then .waiting (frames begun stream)
      else
        match FrameRead.ofBytes closed stream with
        | .waiting => .waiting (frames (Frame.headerSize ≤ stream.length) stream)
        | .ended | .failed _ => .over
        | .payload payload rest =>
            let needed := headerReads begun + if payload = [] then 0 else 1
            if reads < needed then .waiting (frames true stream)
            else .payload payload (frames false rest) (reads - needed)

theorem size_rest_lt {closed : Bool} {reads left : Nat} {inbox rest : Inbox} {payload : Bytes}
    (taken : inbox.read closed reads = .payload payload rest left) : rest.size < inbox.size := by
  match inbox with
  | payloads [] =>
      simp only [read] at taken
      split at taken <;> cases taken
  | payloads (first :: others) =>
      simp only [read] at taken
      split at taken
      · cases taken
      · cases taken
        simp [size]
  | frames begun stream =>
      simp only [read] at taken
      split at taken
      · cases taken
      · split at taken
        · cases taken
        · cases taken
        · cases taken
        · next front behind found =>
            have shorter := FrameRead.length_rest_lt found
            generalize (headerReads begun + if front = [] then 0 else 1) = needed at taken
            split at taken
            · cases taken
            · cases taken
              exact shorter

/-- Add what has come in: bytes to a stream, a payload to payloads. -/
def add (inbox : Inbox) (bytes : Bytes) : Inbox :=
  match inbox with
  | payloads waiting => payloads (waiting ++ [bytes])
  | frames begun stream => frames begun (stream ++ bytes)

end Inbox

/-- The service of one connection. -/
structure Session where
  /-- The connection. -/
  party : Party
  /-- The family that it came in through. -/
  family : Family
  /-- What it is for. -/
  role : Role
  /-- What has come in. -/
  inbox : Inbox
  /-- The writer of its queue. -/
  writer : Writer
  /-- When an encrypted session has waited long enough. -/
  deadline : Nat
  /-- Nothing more will come in. -/
  closed : Bool := false
  /-- It is still reading. -/
  running : Bool := true

/-- The gateway with its sessions. -/
structure Service where
  gateway : Gateway
  policy : SizePolicy
  readTimeout : Nat
  sessions : List Session := []

namespace Session

/-- Reads that a session may make in a turn. -/
def readsPerTurn : Nat := 128

/-- Whether payloads come in frames. -/
def isFramed (session : Session) : Bool :=
  match session.inbox with
  | .frames _ _ => true
  | .payloads _ => false

/-- Stop reading and close the connection. -/
def stop (session : Session) (gateway : Gateway) : Session × Gateway :=
  ({ session with running := false }, gateway.close session.party.handle)

/-- Read and handle clear payloads until nothing is left, the reads of the turn are used up or the
connection has closed. -/
def readClear (desk : Desk) (session : Session) (reads : Nat) (gateway : Gateway) :
    Session × Gateway :=
  if gateway.isOpen session.party.handle then
    match _taken : session.inbox.read session.closed reads with
    | .waiting inbox => ({ session with inbox }, gateway)
    | .over => session.stop gateway
    | .payload payload rest reads =>
        readClear desk { session with inbox := rest } reads
          ((desk.receive session.party payload).run gateway).2
  else
    session.stop gateway
termination_by session.inbox.size
decreasing_by exact Inbox.size_rest_lt ‹_›

/-- Read and handle the one payload of an encrypted session, or give up when it is late. -/
def readEncrypted (desk : Desk) (session : Session) (gateway : Gateway) : Session × Gateway :=
  match session.inbox.read session.closed readsPerTurn with
  | .waiting inbox =>
      if session.deadline ≤ gateway.now then session.stop gateway
      else ({ session with inbox }, gateway)
  | .over => session.stop gateway
  | .payload payload rest _ =>
      { session with inbox := rest }.stop
        ((desk.handleEncrypted session.party payload).run gateway).2

/-- Read as much as there is and a turn allows. -/
def read (desk : Desk) (session : Session) (gateway : Gateway) : Session × Gateway :=
  if session.running then
    match session.role with
    | .clear => session.readClear desk readsPerTurn gateway
    | .encrypted => session.readEncrypted desk gateway
  else
    (session, gateway)

/-- Write as much as the sink takes. -/
def write (session : Session) (gateway : Gateway) : Session × Gateway :=
  match gateway.connections.get? session.party.handle with
  | none => (session, gateway)
  | some connection =>
      let (writer, connection, due) := session.writer.settle connection
      ({ session with writer }, gateway.settle session.party.handle connection due)

/-- A clear session notices that its connection has closed. -/
def notice (session : Session) (gateway : Gateway) : Session × Gateway :=
  match session.role with
  | .clear =>
      ({ session with running := session.running && gateway.isOpen session.party.handle }, gateway)
  | .encrypted => (session, gateway)

end Session

namespace Service

/-- The service with a configuration, before anything has connected. -/
def ofConfig (config : Config) (entropy : Entropy) : Except ConfigError Service := do
  let policy ← config.validate
  return { gateway := { entropy, staged := { expiry := config.expiry } }, policy,
           readTimeout := config.readTimeout }

def desk (service : Service) (family : Family) : Desk := { family, policy := service.policy }

/-- Let every session work, one after the other. -/
def each (service : Service) (work : Session → Gateway → Session × Gateway) : Service :=
  let (sessions, gateway) := service.sessions.foldl
    (fun (done, gateway) session =>
      let (session, gateway) := work session gateway
      (session :: done, gateway))
    (([] : List Session), service.gateway)
  { service with sessions := sessions.reverse, gateway }

/-- One turn: every session reads, and then every writer writes. -/
def turn (service : Service) : Service :=
  ((service.each fun session => session.read (service.desk session.family)).each
    Session.write).each Session.notice

/-- How much all sessions together have left to read. -/
def backlog (service : Service) : Nat :=
  service.sessions.foldl (fun total session => total + session.inbox.size) 0

/-- Let everything move until nothing can: a turn, and more turns as long as each of them takes
something in. -/
def settle (service : Service) : Service :=
  let next := service.turn
  if _progress : next.backlog < service.backlog then next.settle else next
termination_by service.backlog

def modify (service : Service) (index : Nat) (change : Session → Session) : Service :=
  { service with sessions := service.sessions.modify index change }

/-- Take in a connection and begin to serve it. Payloads travel in frames, or whole. -/
def connect (service : Service) (family : Family) (role : Role) (remote : SocketAddress)
    (framed : Bool) : Service :=
  let (identity, gateway) := service.gateway.nextIdentity
  let secure := role = .encrypted
  let (party, gateway) := gateway.enroll (.queued identity secure remote)
  let gateway :=
    match role with
    | .clear => (((service.desk family).accept party).run gateway).2
    | .encrypted => gateway
  let session : Session :=
    { party, family, role
      inbox := if framed then .frames false [] else .payloads []
      writer := ⟨{ limit := if framed then some Frame.maxPayload else none }, .idle⟩
      deadline := gateway.now + service.readTimeout }
  { service with gateway, sessions := service.sessions ++ [session] }

/-- Bytes have come in for a session, in a frame of their own if it is framed and they are not
`bare`. A session that has ended does not look. -/
def feed (service : Service) (index : Nat) (bare : Bool) (bytes : Bytes) : Service :=
  service.modify index fun session =>
    if !session.running then session
    else if session.isFramed && !bare then
      match writeFrame false bytes with
      | .ok framed => { session with inbox := session.inbox.add framed }
      | .error _ => session
    else { session with inbox := session.inbox.add bytes }

/-- Nothing more will come in for a session. -/
def hangUp (service : Service) (index : Nat) : Service :=
  service.modify index fun session => { session with closed := true }

/-- Reading fails for a session whose payloads come whole. -/
def breakOff (service : Service) (index : Nat) : Service :=
  service.modify index fun session =>
    if session.isFramed then session else { session with closed := true }

/-- Change the sink of a session whose payloads go out whole. -/
def modifySink (service : Service) (index : Nat) (change : Sink → Sink) : Service :=
  service.modify index fun session =>
    if session.isFramed then session
    else { session with writer := { session.writer with sink := change session.writer.sink } }

/-- Let time pass, and run the timers that are due. -/
def sleep (service : Service) (duration : Nat) : Service :=
  { service with gateway := (service.gateway.advance duration).runTimers }

/-- Send a payload to a group several times, before any writer can move. -/
def broadcast (service : Service) (family : Family) (group : String) (payload : Bytes)
    (times : Nat) : Service :=
  { service with
    gateway := times.fold (fun _ _ gateway =>
      (((service.desk family).broadcast group payload []).run gateway).2) service.gateway }

/-- Drop every key and close every clear connection. -/
def shutdown (service : Service) : Service :=
  { service with gateway := service.gateway.shutdown }

end Service

end PadRelay
