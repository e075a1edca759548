import PadRelay.Connection.Writer

/-!
# Lines

A connection with a queue, together with what is at the other end of that queue: a sink that nobody
writes to yet, a writer, or nothing any more.
-/

namespace PadRelay

/-- The other end of a queue. -/
inductive FarEnd where
  /-- No writer has begun. -/
  | resting (sink : Sink)
  /-- A writer is at work, or has stopped. -/
  | manned (writer : Writer)
  /-- The end has gone without a writer. -/
  | gone (sink : Sink)

/-- A connection with the other end of its queue. -/
structure Line (κ : Type) where
  /-- The connection. -/
  connection : Connection κ
  /-- The other end of its queue. -/
  far : FarEnd

namespace FarEnd

def sink : FarEnd → Sink
  | resting sink | gone sink => sink
  | manned writer => writer.sink

/-- Whether a writer was here and has stopped. -/
def hasStopped : FarEnd → Bool
  | manned writer => writer.phase = .stopped
  | resting _ | gone _ => false

end FarEnd

namespace Line

variable {κ : Type}

/-- Let a writer begin: whether one could. -/
def start (line : Line κ) : Bool × Line κ :=
  match line.far with
  | .resting sink => (true, { line with far := .manned ⟨sink, .idle⟩ })
  | .manned _ | .gone _ => (false, line)

/-- The other end goes, if no writer holds it. -/
def drop (line : Line κ) : Line κ :=
  match line.far with
  | .resting sink => ⟨line.connection.detach, .gone sink⟩
  | .manned _ | .gone _ => line

/-- Hand over a payload. -/
def send (line : Line κ) (payload : Bytes) : Except SendError Unit × Line κ × List κ :=
  let (result, connection, due) := line.connection.send payload
  (result, { line with connection }, due)

/-- Hand over a payload several times: the last result, if there is one. -/
def sendTimes (line : Line κ) (payload : Bytes) :
    Nat → Option (Except SendError Unit) × Line κ × List κ
  | 0 => (none, line, [])
  | times + 1 =>
      let (_, line, due) := line.sendTimes payload times
      let (result, line, later) := line.send payload
      (some result, line, due ++ later)

def onClose (line : Line κ) (callback : κ) : Line κ × List κ :=
  let (connection, due) := line.connection.onClose callback
  ({ line with connection }, due)

def close (line : Line κ) : Line κ × List κ :=
  let (connection, due) := line.connection.close
  ({ line with connection }, due)

/-- Let the writer move until it cannot. -/
def settle (line : Line κ) : Line κ × List κ :=
  match line.far with
  | .manned writer =>
      let (writer, connection, due) := writer.settle line.connection
      (⟨connection, .manned writer⟩, due)
  | .resting _ | .gone _ => (line, [])

end Line

end PadRelay
