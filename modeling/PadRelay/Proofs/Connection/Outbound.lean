import Mathlib.Data.List.Induction
import PadRelay.Connection.Line
import PadRelay.Proofs.Connection
import PadRelay.Proofs.Connection.Writer
import PadRelay.Proofs.Gather

/-!
# What goes out of a connection

Payloads wait in the queue of a connection, and its writer takes them to the sink. In between, more
payloads come, the sink makes the writer wait or refuses a payload, and the connection closes. At
any time until the writer leaves the queue, what was written, what the writer holds and what waits
are, in this order, what was accepted. When it has left, everything accepted was written, or
everything before the one payload whose write failed.
-/

namespace PadRelay

namespace Connection

variable {κ : Type} {connection : Connection κ} {waiting : List Bytes}

theorem send_of_closed {attached : Bool} (outlet : connection.outlet = .queue waiting attached)
    (closed : connection.isOpen = false) (payload : Bytes) :
    connection.send payload = (.error (.closed connection.id), connection, []) := by
  have closed_life : connection.life.closed = true := by
    simpa [isOpen, Lifecycle.isOpen] using closed
  simp [send, outlet, closed_life]

theorem send_of_room (outlet : connection.outlet = .queue waiting true)
    (isOpen : connection.isOpen = true) (room : waiting.length < Outlet.capacity)
    (payload : Bytes) :
    connection.send payload =
      (.ok (), { connection with outlet := .queue (waiting ++ [payload]) true }, []) := by
  have open_life : connection.life.closed = false := by
    simpa [Connection.isOpen, Lifecycle.isOpen] using isOpen
  simp [send, outlet, open_life, room]

theorem send_of_full (outlet : connection.outlet = .queue waiting true)
    (isOpen : connection.isOpen = true) (full : Outlet.capacity ≤ waiting.length)
    (payload : Bytes) :
    connection.send payload =
      (.error (.failed "outbound queue full"), connection.close) := by
  have open_life : connection.life.closed = false := by
    simpa [Connection.isOpen, Lifecycle.isOpen] using isOpen
  simp [send, outlet, open_life, full]

end Connection

namespace FarEnd

/-- A writer was here and has left the queue. -/
def hasLeft : FarEnd → Bool
  | manned writer => writer.hasLeft
  | resting _ | gone _ => false

/-- The payload that was taken out of the queue and is not written yet. -/
def held : FarEnd → List Bytes
  | manned writer => writer.held
  | resting _ | gone _ => []

def modifySink (change : Sink → Sink) : FarEnd → FarEnd
  | resting sink => .resting (change sink)
  | manned writer => .manned { writer with sink := change writer.sink }
  | gone sink => .gone (change sink)

theorem hasLeft_of_hasStopped {far : FarEnd} (stopped : far.hasStopped = true) :
    far.hasLeft = true := by
  cases far with
  | manned writer => simp_all [hasStopped, hasLeft, Writer.hasLeft]
  | resting sink | gone sink => cases stopped

theorem hasStopped_of_hasLeft {far : FarEnd} (works : far.hasLeft = false) :
    far.hasStopped = false :=
  Bool.eq_false_iff.mpr fun stopped =>
    absurd (works.symm.trans (hasLeft_of_hasStopped stopped)) nofun

/-- Nothing is taken out of the queue, written or finished. -/
structure Keeps (far next : FarEnd) : Prop where
  written : next.sink.written = far.sink.written
  finishes : next.sink.finishes = far.sink.finishes
  held : next.held = far.held
  hasLeft : next.hasLeft = far.hasLeft
  hasStopped : next.hasStopped = far.hasStopped

end FarEnd

namespace Line

variable {κ : Type}

/-- What is asked of a connection, or happens at the other end of its queue. -/
inductive Act (κ : Type) where
  /-- A payload is handed over. -/
  | sends (payload : Bytes)
  /-- The connection is closed. -/
  | closes
  /-- A callback is registered for the close. -/
  | registers (callback : κ)
  /-- The writer begins. -/
  | starts
  /-- The writer makes one step, if it can move. -/
  | steps
  /-- From now on the sink takes other payloads, or makes the writer wait, or no longer does. -/
  | adjusts (budget limit : Option Nat) (stalled : Bool)

/-- One step of the writer, if there is one that can move. -/
def step (line : Line κ) : Line κ :=
  match line.far with
  | .manned writer =>
      match writer.step? line.connection with
      | some (writer, connection, _) => ⟨connection, .manned writer⟩
      | none => line
  | .resting _ | .gone _ => line

def act (line : Line κ) : Act κ → Line κ
  | .sends payload => (line.send payload).2.1
  | .closes => line.close.1
  | .registers callback => (line.onClose callback).1
  | .starts => line.start.2
  | .steps => line.step
  | .adjusts budget limit stalled =>
      { line with far := line.far.modifySink fun sink => { sink with budget, limit, stalled } }

/-- The payload that an act hands over, if it is accepted. -/
def accepts (line : Line κ) : Act κ → List Bytes
  | .sends payload => if (line.send payload).1.isOk then [payload] else []
  | .closes | .registers _ | .starts | .steps | .adjusts _ _ _ => []

/-- The payload whose write fails in an act, if one does. -/
def loses (line : Line κ) : Act κ → List Bytes
  | .steps =>
      match line.far with
      | .manned writer => (writer.failure? line.connection).toList
      | .resting _ | .gone _ => []
  | .sends _ | .closes | .registers _ | .starts | .adjusts _ _ _ => []

/-- Perform acts one after the other. -/
def run (start : Line κ) (acts : List (Act κ)) : Line κ := acts.foldl act start

def accepted : Line κ → List (Act κ) → List Bytes := gather act accepts

/-- The payloads whose write failed, in order. -/
def lost : Line κ → List (Act κ) → List Bytes := gather act loses

/-- A new connection, whose writer has not begun. -/
def fresh (id : Identity) (secure : Bool) (remote : SocketAddress) : Line κ :=
  ⟨.queued id secure remote, .resting {}⟩

theorem run_append (start : Line κ) (acts : List (Act κ)) (last : Act κ) :
    run start (acts ++ [last]) = (run start acts).act last := by
  simp [run]

theorem accepted_append (start : Line κ) (acts : List (Act κ)) (last : Act κ) :
    accepted start (acts ++ [last]) = accepted start acts ++ (run start acts).accepts last :=
  gather_append _ _ _ _ _

theorem lost_append (start : Line κ) (acts : List (Act κ)) (last : Act κ) :
    lost start (acts ++ [last]) = lost start acts ++ (run start acts).loses last :=
  gather_append _ _ _ _ _

/-- The queue of a line is there until the writer stops, and never too long. The connection of a
writer that has stopped is closed. -/
structure Queued (line : Line κ) (waiting : List Bytes) : Prop where
  outlet : line.connection.outlet = .queue waiting (!line.far.hasStopped)
  bound : waiting.length ≤ Outlet.capacity
  closed : line.far.hasStopped = true → line.connection.isOpen = false

/-- Where the accepted payloads are, and which was lost. -/
inductive Account (line : Line κ) (waiting accepted lost : List Bytes) : Prop
  /-- They are written, held by the writer, or waiting, in this order. -/
  | working (works : line.far.hasLeft = false) (finishes : line.far.sink.finishes = 0)
      (all : accepted = line.far.sink.written ++ (line.far.held ++ waiting)) (none : lost = [])
  /-- The writer has left a closed connection, and all of them are written. -/
  | drained (left : line.far.hasLeft = true) (finishes : line.far.sink.finishes = 1)
      (closed : line.connection.isOpen = false) (all : accepted = line.far.sink.written)
      (none : lost = [])
  /-- The writer has left at a failed write, and those before it are written. -/
  | broken (left : line.far.hasLeft = true) (finishes : line.far.sink.finishes = 1)
      (payload : Bytes) (later : List Bytes)
      (all : accepted = line.far.sink.written ++ payload :: later) (one : lost = [payload])

/-- The queue and the account of a line. -/
def Holds (line : Line κ) (accepted lost : List Bytes) : Prop :=
  ∃ waiting, line.Queued waiting ∧ line.Account waiting accepted lost

section Step

variable {line : Line κ} {waiting accepted lost : List Bytes}

theorem Queued.waiting_eq (queued : line.Queued waiting) : line.connection.waiting = waiting := by
  simp [Connection.waiting, queued.outlet]

theorem Queued.hasStopped_of_isOpen (queued : line.Queued waiting)
    (isOpen : line.connection.isOpen = true) : line.far.hasStopped = false :=
  Bool.eq_false_iff.mpr fun stopped => absurd (isOpen.symm.trans (queued.closed stopped)) nofun

theorem Queued.outlet_of_isOpen (queued : line.Queued waiting)
    (isOpen : line.connection.isOpen = true) : line.connection.outlet = .queue waiting true := by
  rw [queued.outlet, queued.hasStopped_of_isOpen isOpen, Bool.not_false]

theorem Queued.send_of_closed (queued : line.Queued waiting)
    (closed : line.connection.isOpen = false) (payload : Bytes) :
    line.send payload = (.error (.closed line.connection.id), line, []) := by
  rw [send, Connection.send_of_closed queued.outlet closed payload]

theorem Queued.send_of_room (queued : line.Queued waiting)
    (isOpen : line.connection.isOpen = true) (room : waiting.length < Outlet.capacity)
    (payload : Bytes) :
    line.send payload = (.ok (),
      ⟨{ line.connection with outlet := .queue (waiting ++ [payload]) true }, line.far⟩, []) := by
  rw [send, Connection.send_of_room (queued.outlet_of_isOpen isOpen) isOpen room payload]

theorem Queued.send_of_full (queued : line.Queued waiting)
    (isOpen : line.connection.isOpen = true) (full : waiting.length = Outlet.capacity)
    (payload : Bytes) :
    line.send payload = (.error (.failed "outbound queue full"),
      ⟨line.connection.close.1, line.far⟩, line.connection.close.2) := by
  rw [send, Connection.send_of_full (queued.outlet_of_isOpen isOpen) isOpen
    (Nat.le_of_eq full.symm) payload]

theorem Queued.accepts_of_room (queued : line.Queued waiting)
    (isOpen : line.connection.isOpen = true) (room : waiting.length < Outlet.capacity)
    (payload : Bytes) : line.accepts (.sends payload) = [payload] := by
  simp [accepts, queued.send_of_room isOpen room payload, Except.isOk, Except.toBool]

theorem Queued.accepts_of_closed (queued : line.Queued waiting)
    (closed : line.connection.isOpen = false) (act : Act κ) : line.accepts act = [] := by
  cases act with
  | sends payload =>
      simp [accepts, queued.send_of_closed closed payload, Except.isOk, Except.toBool]
  | closes | registers callback | starts | steps | adjusts budget limit stalled => rfl

theorem isOpen_act (closed : line.connection.isOpen = false) (act : Act κ) :
    (line.act act).connection.isOpen = false := by
  cases act with
  | sends payload =>
      rw [Bool.eq_false_iff] at closed ⊢
      exact fun isOpen => closed ((line.connection.turns_send payload).isOpen_of_isOpen isOpen)
  | closes => exact Connection.isOpen_close _
  | registers callback =>
      simp [Line.act, onClose, Connection.onClose_of_closed closed, closed]
  | starts =>
      simp only [Line.act, start]
      split <;> exact closed
  | steps =>
      simp only [Line.act, Line.step]
      split
      · split
        · next moved =>
            rw [Bool.eq_false_iff] at closed ⊢
            exact fun isOpen => closed ((Writer.stays_of_step? moved).1 isOpen)
        · exact closed
      · exact closed
      · exact closed
  | adjusts budget limit stalled => exact closed

/-- Only a step of the writer takes payloads further. -/
theorem keeps_act (line : Line κ) {act : Act κ} (other : act ≠ .steps) :
    line.far.Keeps (line.act act).far := by
  cases act with
  | sends payload | closes | registers callback => exact ⟨rfl, rfl, rfl, rfl, rfl⟩
  | starts =>
      simp only [Line.act, start]
      cases far : line.far <;> simp only [far] <;> exact ⟨rfl, rfl, rfl, rfl, rfl⟩
  | steps => exact absurd rfl other
  | adjusts budget limit stalled =>
      simp only [Line.act]
      cases line.far <;> exact ⟨rfl, rfl, rfl, rfl, rfl⟩

theorem loses_of_ne {act : Act κ} (other : act ≠ .steps) : line.loses act = [] := by
  cases act with
  | steps => exact absurd rfl other
  | sends payload | closes | registers callback | starts | adjusts budget limit stalled => rfl

/-- Short of a step of the writer, what is accepted joins the queue at its end. -/
theorem Queued.act (queued : line.Queued waiting) {act : Act κ} (other : act ≠ .steps) :
    (line.act act).Queued (waiting ++ line.accepts act) := by
  have hasStopped := (line.keeps_act other).hasStopped
  suffices queue : (line.act act).connection.outlet =
        .queue (waiting ++ line.accepts act) (!line.far.hasStopped) ∧
      (waiting ++ line.accepts act).length ≤ Outlet.capacity from
    ⟨hasStopped ▸ queue.1, queue.2,
      fun stopped => isOpen_act (queued.closed (hasStopped ▸ stopped)) act⟩
  cases act with
  | sends payload =>
      cases isOpen : line.connection.isOpen with
      | false =>
          have refused := queued.send_of_closed isOpen payload
          rw [queued.accepts_of_closed isOpen, List.append_nil, Line.act, refused]
          exact ⟨queued.outlet, queued.bound⟩
      | true =>
          rcases Nat.lt_or_eq_of_le queued.bound with room | full
          · have taken := queued.send_of_room isOpen room payload
            rw [queued.accepts_of_room isOpen room payload, Line.act, taken,
              queued.hasStopped_of_isOpen isOpen]
            refine ⟨rfl, ?_⟩
            rw [List.length_append]
            exact room
          · have refused := queued.send_of_full isOpen full payload
            have nothing : line.accepts (.sends payload) = [] := by
              simp [accepts, refused, Except.isOk, Except.toBool]
            rw [nothing, List.append_nil, Line.act, refused]
            exact ⟨queued.outlet, queued.bound⟩
  | starts =>
      rw [accepts, List.append_nil, Line.act, start]
      split <;> exact ⟨queued.outlet, queued.bound⟩
  | steps => exact absurd rfl other
  | closes | registers callback | adjusts budget limit stalled =>
      rw [accepts, List.append_nil]
      exact ⟨queued.outlet, queued.bound⟩

/-- Short of a step of the writer, nothing is written or lost. -/
theorem Account.act (account : line.Account waiting accepted lost) (queued : line.Queued waiting)
    {act : Act κ} (other : act ≠ .steps) :
    (line.act act).Account (waiting ++ line.accepts act) (accepted ++ line.accepts act) lost := by
  obtain ⟨written, finished, held, hasLeft, -⟩ := line.keeps_act other
  cases account with
  | working works finishes all none =>
      refine .working (hasLeft.trans works) (finished.trans finishes) ?_ none
      rw [written, held, all, List.append_assoc, List.append_assoc]
  | drained left finishes closed all none =>
      rw [queued.accepts_of_closed closed, List.append_nil, List.append_nil]
      exact .drained (hasLeft.trans left) (finished.trans finishes) (isOpen_act closed act)
        (all.trans written.symm) none
  | broken left finishes payload later all one =>
      refine .broken (hasLeft.trans left) (finished.trans finishes) payload
        (later ++ line.accepts act) ?_ one
      rw [written, all, List.append_assoc, List.cons_append]

/-- A step of a writer at work takes payloads further, or it leaves at the end of the queue or at a
failed write. -/
theorem holds_step_of_works {writer : Writer} (far : line.far = .manned writer)
    (works : writer.hasLeft = false) (queued : line.Queued waiting)
    (finishes : writer.sink.finishes = 0)
    (all : accepted = writer.sink.written ++ (writer.held ++ waiting)) :
    line.step.Holds accepted (line.loses .steps) := by
  have runs : line.far.hasStopped = false := FarEnd.hasStopped_of_hasLeft (by rwa [far])
  have outlet : line.connection.outlet = .queue waiting true := by
    rw [queued.outlet, runs, Bool.not_false]
  cases moved : writer.step? line.connection with
  | none =>
      simp only [Line.step, loses, far, moved, Writer.failure?_of_step?_eq_none moved outlet]
      exact ⟨waiting, queued, .working (by rwa [far]) (by rwa [far]) (by rwa [far]) rfl⟩
  | some result =>
      obtain ⟨next, rest, due⟩ := result
      simp only [Line.step, loses, far, moved]
      cases Writer.moves_of_step? outlet works moved with
      | carries later outlet fewer works keeps carried succeeds =>
          rw [succeeds]
          have runs : (FarEnd.manned next).hasStopped = false := FarEnd.hasStopped_of_hasLeft works
          refine ⟨later, ⟨?_, Nat.le_trans fewer queued.bound, ?_⟩,
            .working works (keeps.trans finishes) (all.trans carried.symm) rfl⟩
          · rw [runs, Bool.not_false, outlet]
          · exact fun stopped => absurd (runs.symm.trans stopped) nofun
      | fails payload later outlet fewer pending fails leaves =>
          rw [fails, leaves]
          exact ⟨later, ⟨outlet, Nat.le_trans fewer queued.bound, nofun⟩,
            .broken rfl (congrArg (· + 1) finishes) payload later (pending ▸ all) rfl⟩
      | ends same closed pending succeeds leaves =>
          rw [succeeds, leaves, same]
          rw [pending, List.append_nil] at all
          exact ⟨waiting, ⟨outlet, queued.bound, nofun⟩,
            .drained rfl (congrArg (· + 1) finishes) closed all rfl⟩

theorem holds_step_of_hasLeft {writer : Writer} (far : line.far = .manned writer)
    (left : writer.hasLeft = true) (queued : line.Queued waiting)
    (account : line.Account waiting accepted lost) :
    line.step.Holds accepted (lost ++ line.loses .steps) := by
  have none_lost : line.loses .steps = [] := by
    simp [loses, far, Writer.failure?_of_hasLeft left]
  rw [none_lost, List.append_nil]
  cases phase : writer.phase with
  | idle | writing payload => simp [Writer.hasLeft, phase] at left
  | stopped =>
      simp only [Line.step, far, Writer.step?, phase]
      exact ⟨waiting, queued, account⟩
  | finishing =>
      have after : line.step =
          ⟨(writer.stop line.connection).2.1, .manned (writer.stop line.connection).1⟩ := by
        simp [Line.step, far, Writer.step?, phase]
      rw [after]
      refine ⟨[], ⟨by simp [Writer.stop, Connection.detach, queued.outlet, FarEnd.hasStopped],
        Nat.zero_le _, fun _ => Connection.isOpen_close _⟩, ?_⟩
      cases account with
      | working works finishes all none =>
          rw [far, FarEnd.hasLeft, left] at works
          cases works
      | drained _ finishes closed all none =>
          rw [far] at finishes all
          exact .drained rfl finishes (Connection.isOpen_close _) all none
      | broken _ finishes payload later all one =>
          rw [far] at finishes all
          exact .broken rfl finishes payload later all one

theorem Holds.step (holds : line.Holds accepted lost) :
    line.step.Holds accepted (lost ++ line.loses .steps) := by
  obtain ⟨waiting, queued, account⟩ := holds
  cases far : line.far with
  | resting sink | gone sink =>
      simp only [Line.step, loses, far, List.append_nil]
      exact ⟨waiting, queued, account⟩
  | manned writer =>
      cases left : writer.hasLeft with
      | true => exact holds_step_of_hasLeft far left queued account
      | false =>
          cases account with
          | working works finishes all none =>
              rw [far] at finishes all
              rw [none, List.nil_append]
              exact holds_step_of_works far left queued finishes all
          | drained stays | broken stays =>
              rw [far, FarEnd.hasLeft, left] at stays
              cases stays

theorem Holds.act (holds : line.Holds accepted lost) (act : Act κ) :
    (line.act act).Holds (accepted ++ line.accepts act) (lost ++ line.loses act) := by
  by_cases other : act = .steps
  · rw [other, accepts, List.append_nil]
    exact holds.step
  · obtain ⟨waiting, queued, account⟩ := holds
    rw [loses_of_ne other, List.append_nil]
    exact ⟨_, queued.act other, account.act queued other⟩

theorem Holds.account (holds : line.Holds accepted lost) :
    line.Queued line.connection.waiting ∧
      line.Account line.connection.waiting accepted lost := by
  obtain ⟨waiting, queued, account⟩ := holds
  rw [queued.waiting_eq]
  exact ⟨queued, account⟩

theorem Holds.written_prefix (holds : line.Holds accepted lost) :
    line.far.sink.written <+: accepted := by
  cases holds.account.2 with
  | working works finishes all none => exact all ▸ List.prefix_append _ _
  | drained left finishes closed all none => exact all ▸ List.prefix_refl _
  | broken left finishes payload later all one => exact all ▸ List.prefix_append _ _

theorem Holds.of_works (holds : line.Holds accepted lost) (works : line.far.hasLeft = false) :
    accepted = line.far.sink.written ++ (line.far.held ++ line.connection.waiting) ∧
      line.far.sink.finishes = 0 := by
  cases holds.account.2 with
  | working works finishes all none => exact ⟨all, finishes⟩
  | drained left | broken left => exact absurd (works.symm.trans left) nofun

theorem Holds.of_hasLeft (holds : line.Holds accepted lost) (left : line.far.hasLeft = true) :
    line.far.sink.finishes = 1 ∧
      (lost = [] → accepted = line.far.sink.written ∧ line.connection.isOpen = false) := by
  cases holds.account.2 with
  | working works => exact absurd (works.symm.trans left) nofun
  | drained left finishes closed all none => exact ⟨finishes, fun _ => ⟨all, closed⟩⟩
  | broken left finishes payload later all one =>
      exact ⟨finishes, fun none => absurd (one.symm.trans none) nofun⟩

theorem Holds.of_lost (holds : line.Holds accepted lost) (some : lost ≠ []) :
    line.far.hasLeft = true ∧ ∃ payload later, lost = [payload] ∧
      accepted = line.far.sink.written ++ payload :: later := by
  cases holds.account.2 with
  | working works finishes all none | drained left finishes closed all none =>
      exact absurd none some
  | broken left finishes payload later all one => exact ⟨left, payload, later, one, all⟩

/-- Unless the sink makes it wait, a writer that cannot move has written everything, if nothing was
lost. -/
theorem Holds.written_of_still {writer : Writer} (holds : line.Holds accepted [])
    (far : line.far = .manned writer) (still : writer.step? line.connection = none)
    (free : writer.sink.stalled = false) : line.far.sink.written = accepted := by
  obtain ⟨waiting, queued, account⟩ := holds
  cases account with
  | broken left finishes payload later all one => cases one
  | drained left finishes closed all none => exact all.symm
  | working works finishes all none =>
      rcases Writer.rests_of_step?_eq_none still free with stopped | ⟨idle, nothing, isOpen⟩
      · simp [far, FarEnd.hasLeft, Writer.hasLeft, stopped] at works
      · have held : line.far.held = [] := by simp [far, FarEnd.held, Writer.held, idle]
        cases waiting with
        | nil => rw [all, held, List.append_nil, List.append_nil]
        | cons payload later =>
            simp [Connection.dequeue?, queued.outlet_of_isOpen isOpen] at nothing

theorem hasStopped_step (left : line.far.hasLeft = true) : line.step.far.hasStopped = true := by
  cases far : line.far with
  | resting sink | gone sink => simp [far, FarEnd.hasLeft] at left
  | manned writer =>
      cases phase : writer.phase with
      | idle | writing payload => simp [far, FarEnd.hasLeft, Writer.hasLeft, phase] at left
      | finishing => simp [Line.step, far, Writer.step?, phase, Writer.stop, FarEnd.hasStopped]
      | stopped => simp [Line.step, far, Writer.step?, phase, FarEnd.hasStopped]

/-- The writes of a sink that takes everything do not fail. -/
theorem loses_steps_of_takesAll (takesAll : line.far.sink.TakesAll) :
    line.loses .steps = [] ∧ line.step.far.sink.TakesAll := by
  cases far : line.far with
  | resting sink | gone sink =>
      rw [far] at takesAll
      simp only [Line.step, loses, far]
      exact ⟨trivial, far ▸ takesAll⟩
  | manned writer =>
      rw [far] at takesAll
      simp only [Line.step, loses, far, Writer.failure?_of_takesAll takesAll]
      refine ⟨rfl, ?_⟩
      split
      · next moved => exact (Writer.stays_of_step? moved).2.2 takesAll
      · exact far ▸ takesAll

end Step

theorem holds_run (id : Identity) (secure : Bool) (remote : SocketAddress)
    (acts : List (Act κ)) :
    (run (fresh id secure remote) acts).Holds (accepted (fresh id secure remote) acts)
      (lost (fresh id secure remote) acts) := by
  induction acts using List.reverseRecOn with
  | nil => exact ⟨[], ⟨rfl, Nat.zero_le _, nofun⟩, .working rfl rfl rfl rfl⟩
  | append_singleton acts last induction =>
      rw [run_append, accepted_append, lost_append]
      exact induction.act last

theorem isOpen_run {start : Line κ} (closed : start.connection.isOpen = false)
    (acts : List (Act κ)) : (run start acts).connection.isOpen = false := by
  induction acts generalizing start with
  | nil => exact closed
  | cons act acts induction => exact induction (isOpen_act closed act)

/-- Left alone, a writer moves until it cannot. -/
theorem exists_still {line : Line κ} {writer : Writer} (far : line.far = .manned writer) :
    ∃ count last, (run line (List.replicate count .steps)).far = .manned last ∧
      last.step? (run line (List.replicate count .steps)).connection = none ∧
      last.sink.stalled = writer.sink.stalled := by
  induction same : writer.weight line.connection using Nat.strongRecOn
    generalizing line writer with
  | ind weight induction =>
      cases moved : writer.step? line.connection with
      | none => exact ⟨0, writer, far, moved, rfl⟩
      | some result =>
          obtain ⟨next, rest, due⟩ := result
          have lighter : next.weight rest < weight := same ▸ Writer.weight_of_step? moved
          have after : line.step = ⟨rest, .manned next⟩ := by simp only [Line.step, far, moved]
          obtain ⟨count, last, manned, still, stalled⟩ :=
            @induction _ lighter ⟨rest, .manned next⟩ next rfl rfl
          rw [← after] at manned still
          exact ⟨count + 1, last, manned, still,
            stalled.trans (Writer.stays_of_step? moved).2.1⟩

section Steps

variable {start : Line κ} {acts : List (Act κ)}

theorem run_append_list (start : Line κ) (acts more : List (Act κ)) :
    run start (acts ++ more) = run (run start acts) more := by
  simp [run]

theorem accepted_steps (count : Nat) :
    accepted start (acts ++ List.replicate count .steps) = accepted start acts := by
  induction count with
  | zero => simp
  | succ count induction =>
      rw [List.replicate_succ', ← List.append_assoc, accepted_append, induction, accepts,
        List.append_nil]

theorem lost_steps (takesAll : (run start acts).far.sink.TakesAll) (count : Nat) :
    lost start (acts ++ List.replicate count .steps) = lost start acts ∧
      (run start (acts ++ List.replicate count .steps)).far.sink.TakesAll := by
  induction count with
  | zero => simpa using takesAll
  | succ count induction =>
      obtain ⟨same, takesAll⟩ := induction
      obtain ⟨none, still⟩ := loses_steps_of_takesAll takesAll
      rw [List.replicate_succ', ← List.append_assoc, lost_append, run_append, same, none,
        List.append_nil]
      exact ⟨rfl, still⟩

/-- The writer of a closed connection stops after some steps, unless the sink makes it wait. -/
theorem exists_hasStopped {writer : Writer} (far : (run start acts).far = .manned writer)
    (closed : (run start acts).connection.isOpen = false) (free : writer.sink.stalled = false) :
    ∃ count, (run start (acts ++ List.replicate count .steps)).far.hasStopped = true := by
  obtain ⟨count, last, manned, still, stalled⟩ := exists_still far
  refine ⟨count, ?_⟩
  rw [run_append_list, manned]
  rcases Writer.rests_of_step?_eq_none still (stalled.trans free) with stopped | ⟨-, -, isOpen⟩
  · simp [FarEnd.hasStopped, stopped]
  · exact absurd ((isOpen_run closed _).symm.trans isOpen) nofun

/-- After some steps of its writer everything accepted is written, or a write has failed, unless the
sink makes the writer wait. -/
theorem exists_written {id : Identity} {secure : Bool} {remote : SocketAddress} {writer : Writer}
    (far : (run (fresh id secure remote) acts).far = .manned writer)
    (free : writer.sink.stalled = false) :
    ∃ count, lost (fresh id secure remote) (acts ++ List.replicate count .steps) = [] →
      (run (fresh id secure remote) (acts ++ List.replicate count .steps)).far.sink.written =
        accepted (fresh id secure remote) acts := by
  obtain ⟨count, last, manned, still, stalled⟩ := exists_still far
  refine ⟨count, fun none => ?_⟩
  rw [← run_append_list] at manned still
  have holds := holds_run id secure remote (acts ++ List.replicate count .steps)
  rw [none, accepted_steps] at holds
  exact holds.written_of_still manned still (stalled.trans free)

end Steps

/-- What goes out of a connection is what was accepted, in order, up to a failed write at most. -/
structure Orderly (start : Line κ) (acts : List (Act κ)) : Prop where
  /-- What is written was accepted, in this order and from the beginning. -/
  written : (run start acts).far.sink.written <+: accepted start acts
  /-- No more payloads wait than the queue has room for. -/
  bound : (run start acts).connection.waiting.length ≤ Outlet.capacity
  /-- Until the writer leaves, what is accepted and not written is held by the writer or waits. -/
  pending : (run start acts).far.hasLeft = false →
    accepted start acts = (run start acts).far.sink.written ++
      ((run start acts).far.held ++ (run start acts).connection.waiting)
  /-- An open connection with room accepts the next payload, as the last in its queue. -/
  accepts : (run start acts).connection.isOpen = true →
    (run start acts).connection.waiting.length < Outlet.capacity →
    ∀ payload, ((run start acts).send payload).1 = .ok () ∧
      (run start (acts ++ [.sends payload])).connection.waiting =
        (run start acts).connection.waiting ++ [payload] ∧
      accepted start (acts ++ [.sends payload]) = accepted start acts ++ [payload]
  /-- A full queue refuses the next payload, and stays as it is; the connection closes. -/
  full : (run start acts).connection.isOpen = true →
    (run start acts).connection.waiting.length = Outlet.capacity →
    ∀ payload, ((run start acts).send payload).1 = .error (.failed "outbound queue full") ∧
      ((run start acts).send payload).2.1.connection.isOpen = false ∧
      ((run start acts).send payload).2.1.connection.outlet =
        (run start acts).connection.outlet ∧
      ((run start acts).send payload).2.1.far = (run start acts).far
  /-- After a close the connection is closed. -/
  closes : .closes ∈ acts → (run start acts).connection.isOpen = false
  /-- What has closed, for whatever reason, stays closed. -/
  stays : ∀ earlier later, acts = earlier ++ later →
    (run start earlier).connection.isOpen = false → (run start acts).connection.isOpen = false
  /-- A closed connection refuses every payload, and nothing changes. -/
  refuses : (run start acts).connection.isOpen = false → ∀ payload,
    (run start acts).send payload =
      (.error (.closed (run start acts).connection.id), run start acts, [])
  /-- Nobody finishes the sink before the writer leaves. -/
  unfinished : (run start acts).far.hasLeft = false → (run start acts).far.sink.finishes = 0
  /-- A writer that has left has finished the sink once. -/
  finished : (run start acts).far.hasLeft = true → (run start acts).far.sink.finishes = 1
  /-- A writer that has left stops, and the connection of one that has stopped is closed. -/
  stops : (run start acts).far.hasLeft = true →
    (run start (acts ++ [.steps])).far.hasStopped = true
  stopped : (run start acts).far.hasStopped = true →
    (run start acts).far.hasLeft = true ∧ (run start acts).connection.isOpen = false
  /-- If no write failed, a writer that has left has written everything accepted, and left a closed
  connection. -/
  drained : (run start acts).far.hasLeft = true → lost start acts = [] →
    (run start acts).far.sink.written = accepted start acts ∧
      (run start acts).connection.isOpen = false
  /-- Only one write can fail, and with it the writer leaves. What is written then was accepted
  before the payload of that write. -/
  broken : lost start acts ≠ [] → (run start acts).far.hasLeft = true ∧
    ∃ payload later, lost start acts = [payload] ∧
      accepted start acts = (run start acts).far.sink.written ++ payload :: later
  /-- The writer of a closed connection stops after some steps, unless the sink makes it wait. -/
  ends : ∀ writer, (run start acts).far = .manned writer →
    (run start acts).connection.isOpen = false → writer.sink.stalled = false →
    ∃ count, (run start (acts ++ List.replicate count .steps)).far.hasStopped = true
  /-- After some steps everything accepted is written, or a write has failed, unless the sink makes
  the writer wait. -/
  progresses : ∀ writer, (run start acts).far = .manned writer → writer.sink.stalled = false →
    ∃ count, lost start (acts ++ List.replicate count .steps) = [] →
      (run start (acts ++ List.replicate count .steps)).far.sink.written = accepted start acts
  /-- Nothing gets lost on the way to a sink that takes everything. -/
  loses : (run start acts).far.sink.TakesAll → ∀ count,
    lost start (acts ++ List.replicate count .steps) = lost start acts

/-- Every run is orderly. -/
theorem orderly_run (id : Identity) (secure : Bool) (remote : SocketAddress)
    (acts : List (Act κ)) : Orderly (fresh id secure remote) acts := by
  have holds := holds_run id secure remote acts
  have queued := holds.account.1
  have stays (earlier later : List (Act κ)) (equal : acts = earlier ++ later)
      (closed : (run (fresh id secure remote) earlier).connection.isOpen = false) :
      (run (fresh id secure remote) acts).connection.isOpen = false := by
    rw [equal, run_append_list]
    exact isOpen_run closed later
  refine {
    written := holds.written_prefix
    bound := queued.bound
    pending := fun works => (holds.of_works works).1
    accepts := ?accepts
    full := ?full
    closes := ?closes
    stays
    refuses := queued.send_of_closed
    unfinished := fun works => (holds.of_works works).2
    finished := fun left => (holds.of_hasLeft left).1
    stops := ?stops
    stopped := fun stopped => ⟨FarEnd.hasLeft_of_hasStopped stopped, queued.closed stopped⟩
    drained := ?drained
    broken := holds.of_lost
    ends := fun writer => exists_hasStopped
    progresses := fun writer => exists_written
    loses := fun takesAll count => (lost_steps takesAll count).1 }
  case accepts =>
    intro isOpen room payload
    have taken := queued.send_of_room isOpen room payload
    rw [run_append, accepted_append, queued.accepts_of_room isOpen room payload, Line.act, taken]
    exact ⟨rfl, rfl, rfl⟩
  case full =>
    intro isOpen full payload
    rw [queued.send_of_full isOpen full payload]
    exact ⟨rfl, Connection.isOpen_close _, rfl, rfl⟩
  case closes =>
    intro member
    obtain ⟨earlier, later, equal⟩ := List.append_of_mem member
    refine stays (earlier ++ [.closes]) later (by simp [equal]) ?_
    rw [run_append]
    exact Connection.isOpen_close _
  case stops =>
    intro left
    rw [run_append]
    exact hasStopped_step left
  case drained =>
    intro left none
    obtain ⟨all, closed⟩ := (holds.of_hasLeft left).2 none
    exact ⟨all.symm, closed⟩

/-- A payload that an open connection with room is handed is the last one written after some steps
of a writer that the sink neither makes wait nor refuses anything. -/
theorem exists_written_send {id : Identity} {secure : Bool} {remote : SocketAddress}
    {acts : List (Act κ)} {writer : Writer} (payload : Bytes)
    (far : (run (fresh id secure remote) acts).far = .manned writer)
    (free : writer.sink.stalled = false) (takesAll : writer.sink.TakesAll)
    (none : lost (fresh id secure remote) acts = [])
    (isOpen : (run (fresh id secure remote) acts).connection.isOpen = true)
    (room : (run (fresh id secure remote) acts).connection.waiting.length < Outlet.capacity) :
    ∃ count, (run (fresh id secure remote)
        (acts ++ .sends payload :: List.replicate count .steps)).far.sink.written =
      accepted (fresh id secure remote) acts ++ [payload] := by
  have queued := (holds_run id secure remote acts).account.1
  have manned : (run (fresh id secure remote) (acts ++ [.sends payload])).far = .manned writer := by
    rw [run_append, Line.act, queued.send_of_room isOpen room payload, far]
  obtain ⟨count, written⟩ := exists_written manned free
  refine ⟨count, ?_⟩
  have same := (lost_steps (by rwa [manned]) count).1
  rw [same, lost_append, none, accepted_append, queued.accepts_of_room isOpen room] at written
  rw [List.append_cons]
  exact written rfl

/-- Four payloads are accepted before the connection closes. The sink takes two of them, and the
writer leaves at the third. -/
example :
    let acts : List (Act Unit) := [.sends [1], .sends [2, 2], .adjusts (some 2) none false, .starts,
      .steps, .sends [3], .sends [4], .closes, .sends [5], .steps, .steps, .steps]
    let start := fresh 1 false { ip := .loopback, port := 4711 }
    accepted start acts = [[1], [2, 2], [3], [4]] ∧ lost start acts = [[3]] ∧
      (run start acts).far.sink.written = [[1], [2, 2]] ∧
      (run start acts).far.sink.finishes = 1 := by
  decide

end Line

end PadRelay
