import PadRelay.Connection

/-!
# What can become of a connection

Handing over a payload and closing have two results. Either the lifecycle stays as it is and nothing
comes due, or an open connection closes and hands over every callback that waits.
-/

namespace PadRelay.Connection

variable {κ : Type}

/-- A connection after an operation that registers nothing, with the callbacks that came due. -/
inductive Turns (before : Connection κ) : Connection κ → List κ → Prop
  | kept {after : Connection κ} (id : after.id = before.id) (life : after.life = before.life) :
      Turns before after []
  | closed {after : Connection κ} (id : after.id = before.id) (wasOpen : before.isOpen = true)
      (life : after.life = ⟨true, []⟩) : Turns before after before.life.waiting

theorem due_close {connection : Connection κ} (isOpen : connection.isOpen = true) :
    connection.close.2 = connection.life.waiting := by
  have open_life : connection.life.closed = false := by
    simpa [Connection.isOpen, Lifecycle.isOpen] using isOpen
  simp [close, Lifecycle.markClosed, open_life]

theorem turns_close (connection : Connection κ) :
    connection.Turns connection.close.1 connection.close.2 := by
  cases closed : connection.life.closed with
  | true =>
      have nothing := Lifecycle.markClosed_of_closed closed
      simp only [close, nothing]
      exact .kept rfl rfl
  | false =>
      have everything :
          connection.life.markClosed = (true, ⟨true, []⟩, connection.life.waiting) := by
        simp [Lifecycle.markClosed, closed]
      simp only [close, everything]
      exact .closed rfl (by simp [isOpen, Lifecycle.isOpen, closed]) rfl

theorem turns_send (connection : Connection κ) (payload : Bytes) :
    connection.Turns (connection.send payload).2.1 (connection.send payload).2.2 := by
  rw [send]
  split
  · split
    · exact .kept rfl rfl
    · split <;> exact .kept rfl rfl
  · split
    · exact .kept rfl rfl
    · split
      · exact .kept rfl rfl
      · exact turns_close connection

theorem due_of_send_isOk {connection : Connection κ} {payload : Bytes}
    (taken : (connection.send payload).1.isOk = true) : (connection.send payload).2.2 = [] := by
  rw [send] at taken ⊢
  split at taken
  · split
    · rfl
    · split <;> rfl
  · split
    · rfl
    · split
      · rfl
      · next attached full =>
          rw [if_neg attached, if_neg full] at taken
          cases taken

namespace Turns

variable {before after : Connection κ} {due : List κ}

theorem id_eq (turns : before.Turns after due) : after.id = before.id := by
  cases turns with
  | kept id life => exact id
  | closed id wasOpen life => exact id

theorem waiting_of_due (turns : before.Turns after due) {callback : κ} (member : callback ∈ due) :
    callback ∈ before.life.waiting := by
  cases turns with
  | kept id life => cases member
  | closed id wasOpen life => exact member

theorem isOpen_of_isOpen (turns : before.Turns after due) (isOpen : after.isOpen = true) :
    before.isOpen = true := by
  cases turns with
  | kept id life => simpa [Connection.isOpen, life] using isOpen
  | closed id wasOpen life => exact wasOpen

/-- What waits on a connection that stays open was waiting, and nothing of it has come due. -/
theorem life_of_isOpen (turns : before.Turns after due) (isOpen : after.isOpen = true) :
    after.life = before.life ∧ due = [] := by
  cases turns with
  | kept id life => exact ⟨life, rfl⟩
  | closed id wasOpen life => simp [Connection.isOpen, Lifecycle.isOpen, life] at isOpen

end Turns

theorem onClose_of_isOpen {connection : Connection κ} (isOpen : connection.isOpen = true)
    (callback : κ) :
    connection.onClose callback =
      ({ connection with
          life := { connection.life with waiting := connection.life.waiting ++ [callback] } },
        []) := by
  have open_life : connection.life.closed = false := by
    simpa [Connection.isOpen, Lifecycle.isOpen] using isOpen
  simp [onClose, Lifecycle.onClose, open_life]

/-- Registering on a closed connection makes the callback due at once. -/
theorem onClose_of_closed {connection : Connection κ} (closed : connection.isOpen = false)
    (callback : κ) : connection.onClose callback = (connection, [callback]) := by
  have closed_life : connection.life.closed = true := by
    simpa [Connection.isOpen, Lifecycle.isOpen] using closed
  simp [onClose, Lifecycle.onClose, closed_life]

end PadRelay.Connection
