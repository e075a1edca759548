import PadRelay.Proofs.Transcript

/-!
# What a script is sure of

Some calls are answered as their caller can foresee, whatever happens to the gateway between them;
of other calls nothing is known. What a script is sure of holds for every choice of answers that
agrees with what can be foreseen: each call that it makes is allowed, and it ends as claimed. A run
on the gateway is one such choice.
-/

namespace PadRelay.Script

variable {α β : Type} {foreseen : (request : Call) → request.Reply → Prop} {allowed : Call → Prop}

/-- Whatever is answered within what is foreseen, calls are allowed and the end is as claimed. -/
def Assures (foreseen : (request : Call) → request.Reply → Prop) (allowed : Call → Prop)
    (ends : α → Prop) : Script α → Prop
  | done value => ends value
  | call request next => allowed request ∧
      ∀ reply, foreseen request reply → (next reply).Assures foreseen allowed ends

namespace Assures

theorem pure {ends : α → Prop} {value : α} (ended : ends value) :
    (Pure.pure value : Script α).Assures foreseen allowed ends := ended

theorem ask {request : Call} (permitted : allowed request) :
    (Script.ask request).Assures foreseen allowed (foreseen request) :=
  ⟨permitted, fun _ answer => answer⟩

theorem bind {script : Script α} {next : α → Script β} {middle : α → Prop} {ends : β → Prop}
    (first : script.Assures foreseen allowed middle)
    (rest : ∀ value, middle value → (next value).Assures foreseen allowed ends) :
    (script >>= next).Assures foreseen allowed ends := by
  induction script with
  | done value => exact rest value first
  | call request following induction =>
      exact ⟨first.1, fun reply answer => induction reply (first.2 reply answer)⟩

theorem of_only {script : Script α} (only : script.Only allowed) :
    script.Assures foreseen allowed fun _ => True := by
  induction script with
  | done value => trivial
  | call request next induction =>
      exact ⟨only.1, fun reply _ => induction reply (only.2 reply)⟩

variable {script : Script α} {ends : α → Prop}

/-- Whoever answers the calls as foreseen, the script ends as claimed. What makes the answers
foreseeable may be an invariant that allowed calls keep. -/
theorem runWith {σ : Type} {perform : σ → (request : Call) → request.Reply × σ} (holds : σ → Prop)
    (answers : ∀ state request, holds state → foreseen request (perform state request).1)
    (kept : ∀ state request, allowed request → holds state → holds (perform state request).2)
    (assures : script.Assures foreseen allowed ends) {state : σ} (before : holds state) :
    ends (script.runWith perform state).1 := by
  induction script generalizing state with
  | done value => exact assures
  | call request next induction =>
      exact induction _ (assures.2 _ (answers state request before))
        (kept state request assures.1 before)

/-- A run on the gateway makes allowed calls alone. -/
theorem of_mem_calls (holds : Gateway → Prop)
    (answers : ∀ gateway request, holds gateway → foreseen request (gateway.perform request).1)
    (kept : ∀ gateway request, allowed request → holds gateway →
      holds (gateway.perform request).2)
    (assures : script.Assures foreseen allowed ends) {gateway : Gateway} (before : holds gateway) :
    ∀ request ∈ script.calls gateway, allowed request := by
  induction script generalizing gateway with
  | done value => exact fun _ member => absurd member List.not_mem_nil
  | call request next induction =>
      exact List.forall_mem_cons.2 ⟨assures.1,
        induction _ (assures.2 _ (answers gateway request before))
          (kept gateway request assures.1 before)⟩

end Assures

end PadRelay.Script
