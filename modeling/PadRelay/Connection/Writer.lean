import PadRelay.Connection

/-!
# Writers

A writer takes payloads out of a connection's queue, one at a time, and writes them to a sink. It
prefers a waiting payload to a close, so everything accepted before the close still goes out. It
leaves the queue at the first failed write, or when the connection is closed and nothing waits. Then
it finishes the sink, and when that is done it closes the connection.
-/

namespace PadRelay

/-- What a writer writes to. -/
structure Sink where
  /-- Every payload that was written, oldest first. -/
  written : List Bytes := []
  /-- How many more payloads it takes before every write fails; no number if it takes all. -/
  budget : Option Nat := none
  /-- Longest payload that it takes. -/
  limit : Option Nat := none
  /-- Writes wait. -/
  stalled : Bool := false
  /-- How often it was finished. -/
  finishes : Nat := 0

namespace Sink

/-- Write a payload, unless the write fails. -/
def write? (sink : Sink) (payload : Bytes) : Option Sink :=
  if sink.limit.any (· < payload.length) then none
  else
    match sink.budget with
    | none => some { sink with written := sink.written ++ [payload] }
    | some 0 => none
    | some (left + 1) =>
        some { sink with written := sink.written ++ [payload], budget := some left }

def finish (sink : Sink) : Sink := { sink with finishes := sink.finishes + 1 }

end Sink

/-- Where a writer is. -/
inductive WriterPhase where
  /-- It looks for a payload. -/
  | idle
  /-- It waits for the sink to take a payload. -/
  | writing (payload : Bytes)
  /-- It has left the queue and waits for the sink to be finished. -/
  | finishing
  /-- It has stopped. -/
  | stopped
deriving DecidableEq

/-- A writer. -/
structure Writer where
  /-- What it writes to. -/
  sink : Sink
  /-- Where it is. -/
  phase : WriterPhase := .idle

namespace Writer

variable {κ : Type}

def leave (writer : Writer) : Writer := ⟨writer.sink.finish, .finishing⟩

/-- Write a payload, or wait for the sink, or leave. -/
def write (writer : Writer) (payload : Bytes) : Writer :=
  if writer.sink.stalled then ⟨writer.sink, .writing payload⟩
  else
    match writer.sink.write? payload with
    | some sink => ⟨sink, .idle⟩
    | none => writer.leave

/-- Stop: close the connection and let go of its queue. -/
def stop (writer : Writer) (connection : Connection κ) : Writer × Connection κ × List κ :=
  let (connection, due) := connection.detach.close
  (⟨writer.sink, .stopped⟩, connection, due)

/-- One step, if the writer can move: the callbacks are due after it. -/
def step? (writer : Writer) (connection : Connection κ) :
    Option (Writer × Connection κ × List κ) :=
  match writer.phase with
  | .stopped => none
  | .finishing => some (writer.stop connection)
  | .writing payload =>
      if writer.sink.stalled then none else some (writer.write payload, connection, [])
  | .idle =>
      match connection.dequeue? with
      | some (payload, connection) => some (writer.write payload, connection, [])
      | none => if connection.isOpen then none else some (writer.leave, connection, [])

/-- What the writer can still do with the queue of its connection. -/
def weight (writer : Writer) (connection : Connection κ) : Nat :=
  match writer.phase with
  | .stopped => 0
  | .finishing => 1
  | .idle => 2 * connection.waiting.length + 2
  | .writing _ => 2 * connection.waiting.length + 3

theorem weight_write_le (writer : Writer) (payload : Bytes) (connection : Connection κ) :
    (writer.write payload).weight connection ≤ 2 * connection.waiting.length + 3 := by
  unfold write
  split
  · simp [weight]
  · split <;> simp [weight, leave]

theorem weight_of_step? {writer next : Writer} {connection rest : Connection κ} {due : List κ}
    (moved : writer.step? connection = some (next, rest, due)) :
    next.weight rest < writer.weight connection := by
  unfold step? at moved
  split at moved
  · cases moved
  · next phase =>
      cases moved
      simp [weight, phase]
  · next payload phase =>
      split at moved
      · cases moved
      · next free =>
          cases moved
          simp only [write, free, Bool.false_eq_true, if_false]
          split <;> simp [weight, leave, phase]
  · next phase =>
      split at moved
      · next payload shorter taken =>
          cases moved
          have bound := writer.weight_write_le payload rest
          have length := congrArg List.length (connection.waiting_of_dequeue? taken)
          rw [List.length_cons] at length
          simp only [weight, phase] at bound ⊢
          omega
      · split at moved
        · cases moved
        · cases moved
          simp [weight, leave, phase]

/-- Let the writer move until it cannot. The callbacks that came due are in order. -/
def settle (writer : Writer) (connection : Connection κ) : Writer × Connection κ × List κ :=
  match _moved : writer.step? connection with
  | none => (writer, connection, [])
  | some (next, rest, due) =>
      let (last, connection, later) := settle next rest
      (last, connection, due ++ later)
termination_by writer.weight connection
decreasing_by exact weight_of_step? ‹_›

end Writer

end PadRelay
