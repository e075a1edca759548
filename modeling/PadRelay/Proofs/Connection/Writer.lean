import PadRelay.Connection.Writer

/-!
# One step of a writer

A writer at work takes the first payload out of the queue, keeps it while the sink makes it wait, and
writes it. So a step moves a payload further, or its write fails and the writer leaves, or nothing is
pending on a closed connection and the writer leaves. A writer that cannot move waits for the sink,
or for a payload on an open connection, or has stopped.
-/

namespace PadRelay

/-- A sink whose writes do not fail. -/
structure Sink.TakesAll (sink : Sink) : Prop where
  budget : sink.budget = none
  limit : sink.limit = none

theorem Sink.written_of_write? {sink next : Sink} {payload : Bytes}
    (taken : sink.write? payload = some next) :
    next.written = sink.written ++ [payload] ∧ next.finishes = sink.finishes ∧
      next.stalled = sink.stalled := by
  unfold write? at taken
  split at taken
  · cases taken
  · split at taken <;> cases taken <;> exact ⟨rfl, rfl, rfl⟩

theorem Sink.TakesAll.write? {sink : Sink} (takesAll : sink.TakesAll) (payload : Bytes) :
    sink.write? payload = some { sink with written := sink.written ++ [payload] } := by
  obtain ⟨budget, limit⟩ := takesAll
  simp [Sink.write?, budget, limit]

namespace Writer

variable {κ : Type} {writer next : Writer} {connection rest : Connection κ} {due : List κ}
  {payload : Bytes} {waiting later : List Bytes}

def hasLeft (writer : Writer) : Bool :=
  match writer.phase with
  | .idle | .writing _ => false
  | .finishing | .stopped => true

/-- The payload that was taken out of the queue and is not written yet. -/
def held (writer : Writer) : List Bytes :=
  match writer.phase with
  | .writing payload => [payload]
  | .idle | .finishing | .stopped => []

/-- The payload that is to be written next. -/
def next? (writer : Writer) (connection : Connection κ) : Option Bytes :=
  match writer.phase with
  | .writing payload => some payload
  | .idle => connection.waiting.head?
  | .finishing | .stopped => none

/-- The payload whose write fails in the next step, if one does. -/
def failure? (writer : Writer) (connection : Connection κ) : Option Bytes :=
  if writer.sink.stalled then none
  else (writer.next? connection).filter fun payload => (writer.sink.write? payload).isNone

/-- What one step of a writer at work does to the payloads that it holds and that wait. -/
inductive Moves (writer : Writer) (connection : Connection κ) (waiting : List Bytes)
    (next : Writer) (rest : Connection κ) : Prop
  /-- The first of them at most gets further, and none is lost. -/
  | carries (later : List Bytes) (outlet : rest.outlet = .queue later true)
      (fewer : later.length ≤ waiting.length) (works : next.hasLeft = false)
      (finishes : next.sink.finishes = writer.sink.finishes)
      (same : next.sink.written ++ (next.held ++ later) =
        writer.sink.written ++ (writer.held ++ waiting))
      (succeeds : writer.failure? connection = none)
  /-- The write of the first fails, and the writer leaves. -/
  | fails (payload : Bytes) (later : List Bytes) (outlet : rest.outlet = .queue later true)
      (fewer : later.length ≤ waiting.length) (pending : writer.held ++ waiting = payload :: later)
      (fails : writer.failure? connection = some payload) (leaves : next = writer.leave)
  /-- There is none, the connection is closed, and the writer leaves. -/
  | ends (same : rest = connection) (closed : connection.isOpen = false)
      (pending : writer.held ++ waiting = []) (succeeds : writer.failure? connection = none)
      (leaves : next = writer.leave)

/-- The payload that comes next is written, or kept, or its write fails. -/
theorem moves_write (pending : writer.held ++ waiting = payload :: later)
    (fewer : later.length ≤ waiting.length) (first : writer.next? connection = some payload)
    (outlet : rest.outlet = .queue later true) :
    writer.Moves connection waiting (writer.write payload) rest := by
  rw [write]
  cases stalled : writer.sink.stalled with
  | true =>
      refine .carries later outlet fewer rfl rfl ?_ (by simp [failure?, stalled])
      rw [pending]
      rfl
  | false =>
      cases write : writer.sink.write? payload with
      | some sink =>
          obtain ⟨written, finishes, -⟩ := Sink.written_of_write? write
          refine .carries later outlet fewer rfl finishes ?_
            (by simp [failure?, stalled, first, write])
          change sink.written ++ later = _
          rw [written, pending, List.append_assoc]
          rfl
      | none =>
          exact .fails payload later outlet fewer pending
            (by simp [failure?, stalled, first, write]) rfl

theorem moves_of_step? (outlet : connection.outlet = .queue waiting true)
    (works : writer.hasLeft = false) (moved : writer.step? connection = some (next, rest, due)) :
    writer.Moves connection waiting next rest := by
  unfold step? at moved
  split at moved
  · cases moved
  · next phase => simp [hasLeft, phase] at works
  · next payload phase =>
      split at moved
      · cases moved
      · cases moved
        exact moves_write (by simp [held, phase]) (Nat.le_refl _) (by simp [next?, phase]) outlet
  · next phase =>
      cases waiting with
      | nil =>
          have nothing : connection.dequeue? = none := by simp [Connection.dequeue?, outlet]
          simp only [nothing] at moved
          split at moved
          · cases moved
          · next closed =>
              cases moved
              exact .ends rfl (Bool.eq_false_iff.mpr closed) (by simp [held, phase])
                (by simp [failure?, next?, phase, Connection.waiting, outlet]) rfl
      | cons payload later =>
          have first : connection.dequeue? =
              some (payload, { connection with outlet := .queue later true }) := by
            simp [Connection.dequeue?, outlet]
          simp only [first] at moved
          cases moved
          exact moves_write (by simp [held, phase]) (Nat.le_succ _)
            (by simp [next?, phase, Connection.waiting, outlet]) rfl

/-- A sink that makes writers wait, or takes everything, does so after a write. -/
theorem stays_of_write (writer : Writer) (payload : Bytes) :
    (writer.write payload).sink.stalled = writer.sink.stalled ∧
      (writer.sink.TakesAll → (writer.write payload).sink.TakesAll) := by
  rw [write]
  split
  · exact ⟨rfl, id⟩
  · split
    · next sink taken =>
        refine ⟨(Sink.written_of_write? taken).2.2, fun takesAll => ?_⟩
        obtain rfl := Option.some.inj ((takesAll.write? payload).symm.trans taken)
        exact ⟨takesAll.budget, takesAll.limit⟩
    · exact ⟨rfl, fun takesAll => ⟨takesAll.budget, takesAll.limit⟩⟩

theorem stays_of_step? (moved : writer.step? connection = some (next, rest, due)) :
    (rest.isOpen = true → connection.isOpen = true) ∧
      next.sink.stalled = writer.sink.stalled ∧ (writer.sink.TakesAll → next.sink.TakesAll) := by
  unfold step? at moved
  split at moved
  · cases moved
  · cases moved
    exact ⟨fun isOpen => absurd (isOpen.symm.trans (Connection.isOpen_close _)) Bool.noConfusion,
      rfl, id⟩
  · split at moved
    · cases moved
    · cases moved
      exact ⟨id, writer.stays_of_write _⟩
  · split at moved
    · next payload shorter taken =>
        cases moved
        unfold Connection.dequeue? at taken
        split at taken
        · cases taken
          exact ⟨id, writer.stays_of_write _⟩
        · cases taken
    · split at moved
      · cases moved
      · cases moved
        exact ⟨id, rfl, fun takesAll => ⟨takesAll.budget, takesAll.limit⟩⟩

/-- Unless the sink makes it wait, a writer that cannot move has stopped, or nothing waits and the
connection is open. -/
theorem rests_of_step?_eq_none (still : writer.step? connection = none)
    (free : writer.sink.stalled = false) :
    writer.phase = .stopped ∨
      writer.phase = .idle ∧ connection.dequeue? = none ∧ connection.isOpen = true := by
  unfold step? at still
  split at still
  · next phase => exact .inl phase
  · cases still
  · simp [free] at still
  · next phase =>
      split at still
      · cases still
      · next nothing =>
          split at still
          · next isOpen => exact .inr ⟨phase, nothing, isOpen⟩
          · cases still

/-- A writer that cannot move makes no write fail. -/
theorem failure?_of_step?_eq_none (still : writer.step? connection = none)
    (outlet : connection.outlet = .queue waiting true) : writer.failure? connection = none := by
  unfold step? at still
  split at still
  · next phase => simp [failure?, next?, phase]
  · cases still
  · next phase =>
      split at still
      · next stalled => simp [failure?, stalled]
      · cases still
  · next phase =>
      cases waiting with
      | nil => simp [failure?, next?, phase, Connection.waiting, outlet]
      | cons payload later => simp [Connection.dequeue?, outlet] at still

theorem failure?_of_hasLeft (left : writer.hasLeft = true) : writer.failure? connection = none := by
  cases phase : writer.phase <;> simp_all [hasLeft, failure?, next?]

theorem failure?_of_takesAll (takesAll : writer.sink.TakesAll) :
    writer.failure? connection = none := by
  simp [failure?, takesAll.write?]

end Writer

end PadRelay
