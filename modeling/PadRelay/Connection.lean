import PadRelay.Connection.Lifecycle
import PadRelay.Identity
import PadRelay.Net.Address

/-!
# Connections

A connection as everything else sees it: an identity, a remote address, an open flag, and an outlet
that payloads are handed to. Handing over never waits. A bounded queue that is full when a payload
comes closes its connection, so every operation also returns the callbacks that it made due.
-/

namespace PadRelay

/-- Where the payloads of a connection go. -/
inductive Outlet where
  /-- Everything sent is kept, oldest first; an outlet that is failing takes nothing. -/
  | record (sent : List Bytes) (failing : Bool)
  /-- A queue, oldest first, for a writer that holds the other end while it is attached. -/
  | queue (waiting : List Bytes) (attached : Bool)
deriving DecidableEq

/-- Payloads that may wait in a queue. -/
def Outlet.capacity : Nat := 32

/-- Why a connection does not take a payload. -/
inductive SendError where
  | closed (connection : Identity)
  | failed (reason : String)
deriving DecidableEq

def SendError.name : SendError → String
  | .closed _ => "Closed"
  | .failed _ => "Io"

def SendError.message : SendError → String
  | .closed connection => s!"connection {connection} is closed"
  | .failed reason => s!"transport failure: {reason}"

/-- A connection with callbacks of type `κ` for its close. -/
structure Connection (κ : Type) where
  id : Identity
  secure : Bool
  remote : SocketAddress
  outlet : Outlet
  life : Lifecycle κ := {}

namespace Connection

variable {κ : Type}

/-- A connection that keeps what is sent. -/
def recording (id : Identity) (secure : Bool) (remote : SocketAddress) : Connection κ :=
  { id, secure, remote, outlet := .record [] false }

/-- A connection with an empty queue. -/
def queued (id : Identity) (secure : Bool) (remote : SocketAddress) : Connection κ :=
  { id, secure, remote, outlet := .queue [] true }

def isOpen (connection : Connection κ) : Bool := connection.life.isOpen

def onClose (connection : Connection κ) (callback : κ) : Connection κ × List κ :=
  let (life, due) := connection.life.onClose callback
  ({ connection with life }, due)

def close (connection : Connection κ) : Connection κ × List κ :=
  let (_, life, due) := connection.life.markClosed
  ({ connection with life }, due)

/-- Hand over a payload. A failing outlet refuses even before the open flag is looked at; a queue
without its writer counts as closed; a full queue closes the connection. -/
def send (connection : Connection κ) (payload : Bytes) :
    Except SendError Unit × Connection κ × List κ :=
  match connection.outlet with
  | .record sent failing =>
      if failing then (.error (.failed "the outlet is failing"), connection, [])
      else if connection.life.closed then (.error (.closed connection.id), connection, [])
      else (.ok (), { connection with outlet := .record (sent ++ [payload]) false }, [])
  | .queue waiting attached =>
      if connection.life.closed || !attached then
        (.error (.closed connection.id), connection, [])
      else if waiting.length < Outlet.capacity then
        (.ok (), { connection with outlet := .queue (waiting ++ [payload]) true }, [])
      else
        let (connection, due) := connection.close
        (.error (.failed "outbound queue full"), connection, due)

/-- Everything that a recording connection keeps. -/
def sent (connection : Connection κ) : List Bytes :=
  match connection.outlet with
  | .record sent _ => sent
  | .queue _ _ => []

def waiting (connection : Connection κ) : List Bytes :=
  match connection.outlet with
  | .record _ _ => []
  | .queue waiting _ => waiting

def clearSent (connection : Connection κ) : Connection κ :=
  match connection.outlet with
  | .record _ failing => { connection with outlet := .record [] failing }
  | .queue _ _ => connection

/-- The connection with an outlet that fails, or works again. -/
def setFailing (connection : Connection κ) (failing : Bool) : Connection κ :=
  match connection.outlet with
  | .record sent _ => { connection with outlet := .record sent failing }
  | .queue _ _ => connection

/-- The connection after the writer's end of its queue has gone, with all that waited. -/
def detach (connection : Connection κ) : Connection κ :=
  match connection.outlet with
  | .record _ _ => connection
  | .queue _ _ => { connection with outlet := .queue [] false }

/-- The oldest waiting payload, and the connection without it. -/
def dequeue? (connection : Connection κ) : Option (Bytes × Connection κ) :=
  match connection.outlet with
  | .queue (payload :: rest) attached =>
      some (payload, { connection with outlet := .queue rest attached })
  | _ => none

@[simp]
theorem isOpen_close (connection : Connection κ) : connection.close.1.isOpen = false := by
  simp [close, isOpen]

@[simp]
theorem id_close (connection : Connection κ) : connection.close.1.id = connection.id := rfl

@[simp]
theorem outlet_close (connection : Connection κ) :
    connection.close.1.outlet = connection.outlet := rfl

/-- Taking a payload out leaves one fewer waiting. -/
theorem waiting_of_dequeue? {connection rest : Connection κ} {payload : Bytes}
    (taken : connection.dequeue? = some (payload, rest)) :
    connection.waiting = payload :: rest.waiting := by
  unfold dequeue? at taken
  split at taken
  · next shape =>
      simp only [Option.some.injEq, Prod.mk.injEq] at taken
      obtain ⟨rfl, rfl⟩ := taken
      simp [waiting, shape]
  · cases taken

end Connection

end PadRelay
