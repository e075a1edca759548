import PadRelay.Connection.Lifecycle

/-!
# Callbacks that use their own lifecycle

A callback is a finite program that may read the open flag, close again and register further
callbacks, on the very lifecycle that runs it, and that goes on as it is answered. The owner of the
lifecycle is such a program too. A machine performs them and keeps a log: whatever becomes due is
put in front of the rest of the program that made it due. Every step uses up a part of a program, so
the machine stops.
-/

namespace PadRelay

/-- A program on a lifecycle. -/
inductive Callback where
  /-- Nothing more to do. -/
  | done
  /-- Do something that leaves the lifecycle alone. -/
  | say (text : String) (rest : Callback)
  /-- Read the open flag. -/
  | ask (rest : (isOpen : Bool) → Callback)
  /-- Close the lifecycle; the answer tells whether this was the first close. -/
  | close (rest : (first : Bool) → Callback)
  /-- Register another callback. -/
  | register (callback rest : Callback)

namespace Callback

/-- A measure of what a program can still do. -/
def weight : Callback → Nat
  | .done => 1
  | .say _ rest => rest.weight + 1
  | .ask rest => max (rest true).weight (rest false).weight + 1
  | .close rest => max (rest true).weight (rest false).weight + 1
  | .register callback rest => callback.weight + rest.weight + 2

theorem weight_answered_le (rest : Bool → Callback) (answer : Bool) :
    (rest answer).weight ≤ max (rest true).weight (rest false).weight := by
  cases answer
  · exact Nat.le_max_right _ _
  · exact Nat.le_max_left _ _

/-- A callback with its number. Callbacks are numbered in the order of registration. -/
structure Registration where
  number : Nat
  callback : Callback

/-- Who does something. -/
inductive Actor where
  | owner
  | callback (number : Nat)
deriving DecidableEq

/-- What is done. -/
inductive Action where
  | begins
  | ends
  | tells (text : String)
  | sees (isOpen : Bool)
  | closes (first : Bool)
  | registers (registration : Registration)

/-- An entry of the log. -/
structure Entry where
  who : Actor
  what : Action

/-- A thing to do. -/
inductive Task where
  | start (registration : Registration)
  | resume (who : Actor) (rest : Callback)

def Task.weight : Task → Nat
  | .start registration => registration.callback.weight + 1
  | .resume _ rest => rest.weight

def Task.total : List Task → Nat
  | [] => 0
  | task :: tasks => task.weight + total tasks

@[simp]
theorem Task.total_append (front back : List Task) :
    total (front ++ back) = total front + total back := by
  induction front with
  | nil => simp [total]
  | cons task front induction => simp [total, induction, Nat.add_assoc]

/-- A lifecycle in use. -/
structure Performance where
  life : Lifecycle Registration := {}
  registered : Nat := 0
  agenda : List Task := []
  log : List Entry := []

namespace Performance

/-- The owner goes to work on a lifecycle that nobody has used yet. -/
def start (owner : Callback) : Performance := { agenda := [.resume .owner owner] }

/-- Write down what is done; the agenda is what is to be done after it. -/
def note (performance : Performance) (who : Actor) (what : Action) (agenda : List Task) :
    Performance :=
  { performance with agenda, log := performance.log ++ [⟨who, what⟩] }

/-- Do the first part of a task, in front of the rest of the agenda. -/
def advance (performance : Performance) (agenda : List Task) : Task → Performance
  | .start ⟨number, callback⟩ =>
      performance.note (.callback number) .begins (.resume (.callback number) callback :: agenda)
  | .resume who .done => performance.note who .ends agenda
  | .resume who (.say text rest) =>
      performance.note who (.tells text) (.resume who rest :: agenda)
  | .resume who (.ask rest) =>
      let isOpen := performance.life.isOpen
      performance.note who (.sees isOpen) (.resume who (rest isOpen) :: agenda)
  | .resume who (.close rest) =>
      let (first, life, due) := performance.life.markClosed
      { performance with life }.note who (.closes first)
        (due.map Task.start ++ Task.resume who (rest first) :: agenda)
  | .resume who (.register callback rest) =>
      let registration : Registration := ⟨performance.registered, callback⟩
      let (life, due) := performance.life.onClose registration
      { performance with life, registered := performance.registered + 1 }.note who
        (.registers registration) (due.map Task.start ++ Task.resume who rest :: agenda)

/-- One step, if anything is left to do. -/
def step? (performance : Performance) : Option Performance :=
  match performance.agenda with
  | [] => none
  | task :: agenda => some (performance.advance agenda task)

/-- What can still be done. -/
def weight (performance : Performance) : Nat :=
  Task.total (performance.life.waiting.map Task.start ++ performance.agenda)

/-- Every step leaves less to do. -/
theorem weight_of_step? {performance next : Performance}
    (moved : performance.step? = some next) : next.weight < performance.weight := by
  obtain ⟨⟨closed, waiting⟩, registered, agenda, log⟩ := performance
  cases agenda with
  | nil => cases moved
  | cons task agenda =>
      cases moved
      cases task with
      | start registration => simp [weight, advance, note, Task.total, Task.weight]
      | resume who rest =>
          cases rest with
          | done => simp [weight, advance, note, Task.total, Task.weight, Callback.weight]
          | say text rest =>
              simp [weight, advance, note, Task.total, Task.weight, Callback.weight]
          | ask rest =>
              have less := weight_answered_le rest (Lifecycle.isOpen ⟨closed, waiting⟩)
              simp [weight, advance, note, Task.total, Task.weight, Callback.weight]
              omega
          | close rest =>
              -- What waits is due now, unless there was a close before.
              have less := weight_answered_le rest (!closed)
              cases closed <;>
                simp only [weight, advance, note, Lifecycle.markClosed, Task.total,
                  Task.total_append, Task.weight, Callback.weight, List.map_nil, List.nil_append,
                  Bool.false_eq_true, Bool.not_true, Bool.not_false, if_true, if_false]
                  at less ⊢ <;>
                omega
          | register callback rest =>
              -- The callback waits or is due now: it weighs the same.
              cases closed <;>
                simp only [weight, advance, note, Lifecycle.onClose, Task.total, Task.total_append,
                  Task.weight, Callback.weight, List.map_append, List.map_cons, List.map_nil,
                  Bool.false_eq_true, if_true, if_false] <;>
                omega

/-- Work until nothing is left to do. -/
def run (performance : Performance) : Performance :=
  match _moved : performance.step? with
  | none => performance
  | some next => run next
termination_by performance.weight
decreasing_by exact weight_of_step? ‹_›

end Performance

end Callback

end PadRelay
