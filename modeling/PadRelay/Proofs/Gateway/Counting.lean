import PadRelay.Gateway.Metrics
import PadRelay.Proofs.Gateway.Hooks
import PadRelay.Proofs.Script

/-!
# What is counted

A call counts at most one event, and for one family. Connections that close and hooks that run count
nothing. So the calls of a script tell which counters its run can change.
-/

namespace PadRelay

def Call.Counts (family : Family) (event : Event) : Call → Prop
  | .count other counted => other = family ∧ counted = event
  | .sealFor other _ _ | .dress other _ _ => other = family ∧ event = .encrypted
  | _ => False

/-- A call that counts nothing of a family. -/
def Call.CountsNothing (family : Family) (request : Call) : Prop :=
  ∀ event, ¬ request.Counts family event

namespace Gateway

variable (gateway : Gateway) (family : Family)

def tally : Tally := (gateway.layer family).tally

theorem tally_modifyLayer (other : Family) (change : Layer → Layer) :
    (gateway.modifyLayer other change).tally family =
      if family = other then (change (gateway.layer family)).tally else gateway.tally family := by
  rw [tally, layer_modifyLayer]
  split <;> rfl

theorem tally_count (other : Family) (event : Event) :
    (gateway.count other event).tally family =
      if family = other then (gateway.tally family).count event else gateway.tally family :=
  gateway.tally_modifyLayer family other _

theorem tally_runHook (hook : Hook) : (gateway.runHook hook).tally family = gateway.tally family := by
  cases hook with
  | dropKeys identity => cases family <;> rfl
  | vacate other identity role connection =>
      rw [runHook, tally_modifyLayer]
      split <;> rfl
  | forget other connection =>
      rw [runHook, onDirectory_snd, tally_modifyLayer]
      split <;> rfl

theorem tally_settle (handle : Handle) (connection : Connection Hook) (due : List Hook) :
    (gateway.settle handle connection due).tally family = gateway.tally family := by
  have hooks (state : Gateway) : (state.runHooks due).tally family = state.tally family := by
    induction due generalizing state with
    | nil => rfl
    | cons hook rest induction =>
        exact (induction (state.runHook hook)).trans (state.tally_runHook family hook)
  refine (hooks _).trans ?_
  cases family <;> rfl

theorem tally_close (handle : Handle) :
    (gateway.close handle).tally family = gateway.tally family := by
  rw [close]
  split
  · rfl
  · exact gateway.tally_settle family handle _ _

theorem tally_onClose (handle : Handle) (hook : Hook) :
    (gateway.onClose handle hook).tally family = gateway.tally family := by
  rw [onClose]
  split
  · rfl
  · exact gateway.tally_settle family handle _ _

theorem tally_send (handle : Handle) (payload : Bytes) :
    (gateway.send handle payload).2.tally family = gateway.tally family := by
  rw [send]
  split
  · rfl
  · exact gateway.tally_settle family handle _ _

theorem tally_sealFor (other : Family) (identity : Identity) (payload : Bytes) :
    (gateway.sealFor other identity payload).2.tally family = gateway.tally family ∨
      other = family ∧
        (gateway.sealFor other identity payload).2.tally family =
          (gateway.tally family).count .encrypted := by
  rw [sealFor]
  split
  · rw [tally_count]
    split
    · next same => exact .inr ⟨same.symm, rfl⟩
    · exact .inl rfl
  · exact .inl rfl

/-- A call leaves the counters of a family as they are, or counts one event of that family. -/
theorem tally_perform (request : Call) :
    (gateway.perform request).2.tally family = gateway.tally family ∨
      ∃ event, request.Counts family event ∧
        (gateway.perform request).2.tally family = (gateway.tally family).count event := by
  have directory (other : Family) {α : Type}
      (work : Directory ChannelKey → α × Directory ChannelKey) :
      (gateway.onDirectory other work).2.tally family = gateway.tally family := by
    rw [onDirectory_snd, tally_modifyLayer]
    split <;> rfl
  cases request with
  | count other event =>
      simp only [perform, tally_count]
      split
      · next same => exact .inr ⟨event, ⟨same.symm, rfl⟩, rfl⟩
      · exact .inl rfl
  | sealFor other identity payload =>
      exact (gateway.tally_sealFor family other identity payload).imp_right
        fun ⟨same, counted⟩ => ⟨.encrypted, ⟨same, rfl⟩, counted⟩
  | dress other identity payload =>
      simp only [perform, dress]
      split
      · exact (gateway.tally_sealFor family other identity payload).imp_right
          fun ⟨same, counted⟩ => ⟨.encrypted, ⟨same, rfl⟩, counted⟩
      · exact .inl rfl
  | onClose handle hook => exact .inl (gateway.tally_onClose family handle hook)
  | send handle payload => exact .inl (gateway.tally_send family handle payload)
  | close handle => exact .inl (gateway.tally_close family handle)
  | place other identity role party =>
      refine .inl ?_
      simp only [perform, place, tally_modifyLayer]
      split <;> rfl
  | enter other key party => exact .inl (directory other _)
  | join other group party => exact .inl (directory other _)
  | watch other id => exact .inl (directory other _)
  | forget other id => exact .inl (directory other fun directory => directory.forget id)
  | generate policy size =>
      refine .inl ?_
      simp only [perform]
      split
      · cases family <;> rfl
      · rfl
  | _ => exact .inl (by cases family <;> rfl)

theorem tally_shutdown : gateway.shutdown.tally family = gateway.tally family := by
  have closed (parties : List Party) (state : Gateway) :
      (state.closeEach parties).tally family = state.tally family := by
    induction parties generalizing state with
    | nil => rfl
    | cons party rest induction =>
        exact (induction (state.close party.handle)).trans (state.tally_close family party.handle)
  have layer (state : Gateway) (other : Family) :
      (state.shutdownLayer other).tally family = state.tally family := by
    refine (closed _ _).trans ?_
    cases family <;> cases other <;> rfl
  rw [shutdown, ← layer gateway .socket, ← layer (gateway.shutdownLayer .socket) .webSocket]
  generalize (gateway.shutdownLayer .socket).shutdownLayer .webSocket = state
  cases family <;> rfl

theorem tally_run {α : Type} {script : Script α}
    (uncounted : script.Only (Call.CountsNothing family)) :
    (script.run gateway).2.tally family = gateway.tally family :=
  uncounted.run (fun before after => after.tally family = before.tally family) (fun _ => rfl)
    (fun _ _ _ first second => second.trans first)
    (fun request permitted gateway =>
      (gateway.tally_perform family request).resolve_right fun ⟨event, counts, _⟩ =>
        permitted event counts) gateway

end Gateway

end PadRelay
