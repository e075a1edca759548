import PadRelay.Gateway.Call

/-!
# Scripts

A handler is a script: a tree of calls, each followed by what depends on its answer. Run on the
gateway without interruption it is a plain function; since the calls are data, the same script can
also be run with other things happening in between.
-/

namespace PadRelay

/-- A handler that ends in a value. -/
inductive Script (α : Type) where
  | done (value : α)
  | call (request : Call) (next : request.Reply → Script α)

namespace Script

variable {α β σ : Type}

/-- One script after another. -/
def bind : Script α → (α → Script β) → Script β
  | done value, next => next value
  | call request rest, next => call request fun reply => (rest reply).bind next

instance : Monad Script where
  pure := done
  bind := bind

instance [Inhabited α] : Inhabited (Script α) := ⟨done default⟩

def ask (request : Call) : Script request.Reply := call request done

/-- Run a script with given answers to its calls. -/
def runWith (perform : σ → (request : Call) → request.Reply × σ) : Script α → σ → α × σ
  | done value, state => (value, state)
  | call request next, state =>
      let (reply, state) := perform state request
      (next reply).runWith perform state

def run (script : Script α) (gateway : Gateway) : α × Gateway :=
  script.runWith Gateway.perform gateway

theorem bind_assoc {γ : Type} (script : Script α) (next : α → Script β) (last : β → Script γ) :
    (script.bind next).bind last = script.bind fun value => (next value).bind last := by
  induction script with
  | done value => rfl
  | call request rest induction => simp [bind, induction]

theorem bind_done (script : Script α) : script.bind done = script := by
  induction script with
  | done value => rfl
  | call request rest induction => simp [bind, induction]

instance : LawfulMonad Script :=
  LawfulMonad.mk' Script bind_done (fun _ _ => rfl) bind_assoc

/-- Running one script after another carries the state over. -/
@[simp]
theorem runWith_bind (perform : σ → (request : Call) → request.Reply × σ) (script : Script α)
    (next : α → Script β) (state : σ) :
    (script >>= next).runWith perform state =
      (next (script.runWith perform state).1).runWith perform
        (script.runWith perform state).2 := by
  induction script generalizing state with
  | done value => rfl
  | call request rest induction => exact induction _ _

@[simp]
theorem run_pure (value : α) (gateway : Gateway) :
    (pure value : Script α).run gateway = (value, gateway) := rfl

@[simp]
theorem run_ask (request : Call) (gateway : Gateway) :
    (ask request).run gateway = gateway.perform request := rfl

@[simp]
theorem run_bind (script : Script α) (next : α → Script β) (gateway : Gateway) :
    (script >>= next).run gateway =
      (next (script.run gateway).1).run (script.run gateway).2 :=
  runWith_bind _ _ _ _

end Script

end PadRelay
