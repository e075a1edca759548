import PadRelay.Gateway.Script

/-!
# What scripts may call

Two views of a script beside its run. `Only` says that all its calls are of an allowed sort,
whatever they answer, so that what each allowed call respects is respected by the run. `advance`
stops a run after some calls, so that something else can happen to the gateway before the rest.
-/

namespace PadRelay.Script

variable {α β : Type}

theorem run_done (value : α) (gateway : Gateway) :
    (done value).run gateway = (value, gateway) := rfl

theorem run_call (request : Call) (next : request.Reply → Script α) (gateway : Gateway) :
    (call request next).run gateway =
      (next (gateway.perform request).1).run (gateway.perform request).2 := rfl

/-- Every call of a script is allowed, whatever the calls before it answer. -/
def Only (allowed : Call → Prop) : Script α → Prop
  | done _ => True
  | call request next => allowed request ∧ ∀ reply, (next reply).Only allowed

theorem Only.ask {allowed : Call → Prop} {request : Call} (permitted : allowed request) :
    (ask request).Only allowed :=
  ⟨permitted, fun _ => trivial⟩

theorem Only.mono {allowed permitted : Call → Prop} {script : Script α} (only : script.Only allowed)
    (weaker : ∀ request, allowed request → permitted request) : script.Only permitted := by
  induction script with
  | done value => trivial
  | call request next induction =>
      exact ⟨weaker request only.1, fun reply => induction reply (only.2 reply)⟩

theorem Only.bind {allowed : Call → Prop} {script : Script α} {next : α → Script β}
    (first : script.Only allowed) (second : ∀ value, (next value).Only allowed) :
    (script >>= next).Only allowed := by
  induction script with
  | done value => exact second value
  | call request rest induction => exact ⟨first.1, fun reply => induction reply (first.2 reply)⟩

/-- A preorder that every allowed call respects is respected by the whole run. -/
theorem Only.run {allowed : Call → Prop} (related : Gateway → Gateway → Prop)
    (refl : ∀ gateway, related gateway gateway)
    (trans : ∀ first second third, related first second → related second third →
      related first third)
    (step : ∀ request, allowed request → ∀ gateway, related gateway (gateway.perform request).2)
    {script : Script α} (only : script.Only allowed) (gateway : Gateway) :
    related gateway (script.run gateway).2 := by
  induction script generalizing gateway with
  | done value => exact refl gateway
  | call request rest induction =>
      exact trans _ _ _ (step request only.1 gateway) (induction _ (only.2 _) _)

theorem Only.preserves {allowed : Call → Prop} (holds : Gateway → Prop)
    (step : ∀ request, allowed request → ∀ gateway, holds gateway →
      holds (gateway.perform request).2)
    {script : Script α} (only : script.Only allowed) {gateway : Gateway} (before : holds gateway) :
    holds (script.run gateway).2 :=
  only.run (fun before after => holds before → holds after) (fun _ before => before)
    (fun _ _ _ first second before => second (first before)) step gateway before

/-- What is left of a script after its first calls, and the gateway by then. -/
def advance : Nat → Script α → Gateway → Script α × Gateway
  | 0, script, gateway => (script, gateway)
  | _ + 1, done value, gateway => (done value, gateway)
  | count + 1, call request next, gateway =>
      (next (gateway.perform request).1).advance count (gateway.perform request).2

theorem run_advance (count : Nat) (script : Script α) (gateway : Gateway) :
    (script.advance count gateway).1.run (script.advance count gateway).2 = script.run gateway := by
  induction count generalizing script gateway with
  | zero => rfl
  | succ count induction =>
      cases script with
      | done value => rfl
      | call request next => exact induction _ _

theorem Only.advance {allowed : Call → Prop} {script : Script α} (only : script.Only allowed)
    (count : Nat) (gateway : Gateway) : (script.advance count gateway).1.Only allowed := by
  induction count generalizing script gateway with
  | zero => exact only
  | succ count induction =>
      cases script with
      | done value => trivial
      | call request next => exact induction (only.2 _) _

theorem Only.preserves_advance {allowed : Call → Prop} (holds : Gateway → Prop)
    (step : ∀ request, allowed request → ∀ gateway, holds gateway →
      holds (gateway.perform request).2)
    {script : Script α} (only : script.Only allowed) (count : Nat) {gateway : Gateway}
    (before : holds gateway) : holds (script.advance count gateway).2 := by
  induction count generalizing script gateway with
  | zero => exact before
  | succ count induction =>
      cases script with
      | done value => exact before
      | call request next => exact induction (only.2 _) (step request only.1 gateway before)

def next? : Script α → Option Call
  | done _ => none
  | call request _ => some request

def stopsAt (script : Script α) (count : Nat) (gateway : Gateway) : Option Call :=
  (script.advance count gateway).1.next?

/-- Run a script, and close a connection after some of its calls. -/
def runClosing (script : Script α) (count : Nat) (handle : Handle) (gateway : Gateway) : Gateway :=
  ((script.advance count gateway).1.run ((script.advance count gateway).2.close handle)).2

end PadRelay.Script
