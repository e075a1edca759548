/-!
# Lifecycles

An open flag with callbacks for the moment it falls. The flag falls once. Closing hands over every
waiting callback, in the order of registration; a callback that comes too late is handed back at
once. Whoever calls runs what it is handed.
-/

namespace PadRelay

/-- Whether something is still open, and what waits for its end. -/
structure Lifecycle (κ : Type) where
  closed : Bool := false
  waiting : List κ := []

namespace Lifecycle

variable {κ : Type}

/-- Whether it has not been closed. -/
def isOpen (life : Lifecycle κ) : Bool := !life.closed

/-- Register a callback. The list holds what is to run now: the callback itself after the close. -/
def onClose (life : Lifecycle κ) (callback : κ) : Lifecycle κ × List κ :=
  if life.closed then (life, [callback])
  else ({ life with waiting := life.waiting ++ [callback] }, [])

/-- Close. The list holds what is to run now; the flag tells whether this was the first close. -/
def markClosed (life : Lifecycle κ) : Bool × Lifecycle κ × List κ :=
  if life.closed then (false, life, []) else (true, ⟨true, []⟩, life.waiting)

/-- The text of a lifecycle in logs. -/
def describe (life : Lifecycle κ) : String :=
  s!"Lifecycle \x7b closed: {life.closed}, callbacks: {life.waiting.length} \x7d"

@[simp]
theorem isOpen_markClosed (life : Lifecycle κ) : life.markClosed.2.1.isOpen = false := by
  unfold markClosed
  split <;> simp_all [isOpen]

/-- Only the first close hands anything over. -/
theorem markClosed_of_closed {life : Lifecycle κ} (closed : life.closed = true) :
    life.markClosed = (false, life, []) := by
  simp [markClosed, closed]

end Lifecycle

end PadRelay
