import PadRelay.Proofs.Directory.Vacant
import PadRelay.Proofs.Gateway.Balance
import PadRelay.Proofs.Gateway.Sweep

/-!
# Gateways that keep nothing

Hooks only take things out of tables. So a table that has nothing for an identity keeps nothing
however many connections close, and a gateway without keys, pairs and entries stays without them
whatever happens around the handlers.
-/

namespace PadRelay

namespace Gateway

/-- A family has no pair. -/
def Unpaired (gateway : Gateway) (family : Family) : Prop :=
  ∀ identity, (gateway.layer family).pairs.get? identity = none

theorem unpaired_dropState (gateway : Gateway) (family : Family) :
    (gateway.dropState family).Unpaired family := by
  intro identity
  cases family <;> rfl

namespace Unpaired

variable {gateway : Gateway} {family : Family}

theorem of_pairs {before after : Gateway} (unpaired : before.Unpaired family)
    (same : (after.layer family).pairs = (before.layer family).pairs) : after.Unpaired family := by
  intro identity
  rw [same]
  exact unpaired identity

theorem dropState (unpaired : gateway.Unpaired family) (other : Family) :
    (gateway.dropState other).Unpaired family := by
  cases family <;> cases other <;> first | exact unpaired | exact fun _ => rfl

theorem runHook (unpaired : gateway.Unpaired family) (hook : Hook) :
    (gateway.runHook hook).Unpaired family := by
  cases hook with
  | dropKeys identity => exact unpaired.of_pairs (by cases family <;> rfl)
  | forget other connection =>
      refine unpaired.of_pairs ?_
      simp only [Gateway.runHook, onDirectory_snd, layer_modifyLayer]
      split <;> rfl
  | vacate other identity role connection =>
      by_cases same : family = other
      · subst same
        have nobody : ((gateway.layer family).pairs.vacate gateway.isOpen identity role
            connection) = (gateway.layer family).pairs := by
          rw [Pairs.vacate, unpaired identity]
        refine unpaired.of_pairs ?_
        rw [Gateway.runHook, layer_modifyLayer, if_pos rfl, nobody]
      · refine unpaired.of_pairs ?_
        rw [Gateway.runHook, layer_modifyLayer, if_neg same]

theorem runHooks (unpaired : gateway.Unpaired family) (hooks : List Hook) :
    (gateway.runHooks hooks).Unpaired family := by
  induction hooks generalizing gateway with
  | nil => exact unpaired
  | cons hook hooks induction => exact induction (unpaired.runHook hook)

theorem close (unpaired : gateway.Unpaired family) (handle : Handle) :
    (gateway.close handle).Unpaired family := by
  rw [Gateway.close]
  split
  · exact unpaired
  · next connection _ =>
      have replaced : { gateway with
          connections := gateway.connections.insert handle connection.close.1 }.Unpaired family :=
        unpaired.of_pairs (by cases family <;> rfl)
      exact replaced.runHooks _

theorem closeEach (unpaired : gateway.Unpaired family) (parties : List Party) :
    (gateway.closeEach parties).Unpaired family := by
  induction parties generalizing gateway with
  | nil => exact unpaired
  | cons party parties induction => exact induction (unpaired.close party.handle)

end Unpaired

/-- Nothing is kept for anybody. -/
structure Vacant (gateway : Gateway) : Prop where
  keyless : ∀ identity, gateway.Keyless identity
  unpaired : ∀ family, gateway.Unpaired family
  directory : ∀ family, (gateway.layer family).directory.Vacant

namespace Vacant

variable {gateway : Gateway}

theorem of_tables {before after : Gateway} (vacant : before.Vacant)
    (active : after.active = before.active) (staged : after.staged = before.staged)
    (layers : ∀ family, after.layer family = before.layer family) : after.Vacant where
  keyless identity := by
    rw [Keyless, active, staged]
    exact vacant.keyless identity
  unpaired family := (vacant.unpaired family).of_pairs (by rw [layers])
  directory family := by
    rw [layers]
    exact vacant.directory family

theorem runHook (vacant : gateway.Vacant) (hook : Hook) : (gateway.runHook hook).Vacant where
  keyless identity := (vacant.keyless identity).runHook hook
  unpaired family := (vacant.unpaired family).runHook hook
  directory family := by
    rcases gateway.directory_runHook hook family with ⟨connection, -, after⟩ | ⟨-, after⟩
    · rw [after]
      exact (vacant.directory family).forget connection
    · rw [after]
      exact vacant.directory family

theorem runHooks (vacant : gateway.Vacant) (hooks : List Hook) :
    (gateway.runHooks hooks).Vacant := by
  induction hooks generalizing gateway with
  | nil => exact vacant
  | cons hook hooks induction => exact induction (vacant.runHook hook)

theorem ring_eq (vacant : gateway.Vacant) (identity : Identity) (generation : Nat) :
    gateway.staged.ring gateway.now identity generation = gateway.staged := by
  rw [StagedKeys.ring, (vacant.keyless identity).2.1]

/-- Whatever happens around the handlers, nothing comes back and nothing expires. -/
theorem undergo (vacant : gateway.Vacant) (occurrence : Occurrence) :
    (gateway.undergo occurrence).Vacant ∧
      (gateway.undergo occurrence).staged.expired = gateway.staged.expired := by
  cases occurrence with
  | opens id secure remote outlet =>
      exact ⟨vacant.of_tables rfl rfl fun family => by cases family <;> rfl, rfl⟩
  | outlet handle outlet =>
      exact ⟨vacant.of_tables rfl rfl fun family => by cases family <;> rfl, rfl⟩
  | passes duration =>
      exact ⟨vacant.of_tables rfl rfl fun family => by cases family <;> rfl, rfl⟩
  | rings identity generation =>
      simp only [Gateway.undergo, vacant.ring_eq]
      exact ⟨vacant, trivial⟩
  | closes handle =>
      have balances : gateway.Balances (fun _ => .socket) [] (gateway.close handle) :=
        .close gateway handle
      refine ⟨?_, balances.expired⟩
      rw [Gateway.undergo, close]
      split
      · exact vacant
      · next connection _ =>
          have replaced : { gateway with
              connections := gateway.connections.insert handle connection.close.1 }.Vacant :=
            vacant.of_tables rfl rfl fun family => by cases family <;> rfl
          exact replaced.runHooks _

end Vacant

end Gateway

end PadRelay
