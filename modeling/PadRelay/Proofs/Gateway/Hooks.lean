import PadRelay.Gateway.Call
import PadRelay.Proofs.Key.Staged

/-!
# What hooks and closes leave behind

Hooks take things out of tables and touch no connection. So a close, a registration on a closed
connection and a send into a full queue, which all end in running hooks, change one connection and
otherwise only take keys away.
-/

namespace PadRelay.Gateway

variable (gateway : Gateway)

/-- The identity that a connection object carries. -/
def idOf? (handle : Handle) : Option Identity :=
  (gateway.connections.get? handle).map Connection.id

/-- A connection as it would be entered somewhere: the object with the identity that it carries. -/
def Knows (party : Party) : Prop := gateway.idOf? party.handle = some party.id

theorem Knows.exists_connection {gateway : Gateway} {party : Party}
    (known : gateway.Knows party) :
    ∃ connection, gateway.connections.get? party.handle = some connection ∧
      connection.id = party.id := by
  simpa [Knows, idOf?] using known

theorem Knows.eq_of_handle_eq {gateway : Gateway} {left right : Party} (one : gateway.Knows left)
    (two : gateway.Knows right) (same : left.handle = right.handle) : left = right := by
  obtain ⟨handle, id⟩ := left
  obtain ⟨other, another⟩ := right
  obtain rfl : handle = other := same
  have found : gateway.idOf? handle = some id := one
  obtain rfl : id = another := Option.some.inj (found.symm.trans two)
  rfl

/-- An identity has no active, no staged and no retired key. -/
def Keyless (identity : Identity) : Prop :=
  gateway.active.get? identity = none ∧ gateway.staged.entries.get? identity = none ∧
    gateway.staged.retired.get? identity = none

section Layer

variable (family : Family) (change : Layer → Layer)

@[simp]
theorem connections_modifyLayer :
    (gateway.modifyLayer family change).connections = gateway.connections := by
  cases family <;> rfl

@[simp]
theorem active_modifyLayer : (gateway.modifyLayer family change).active = gateway.active := by
  cases family <;> rfl

@[simp]
theorem staged_modifyLayer : (gateway.modifyLayer family change).staged = gateway.staged := by
  cases family <;> rfl

@[simp]
theorem now_modifyLayer : (gateway.modifyLayer family change).now = gateway.now := by
  cases family <;> rfl

@[simp]
theorem entropy_modifyLayer : (gateway.modifyLayer family change).entropy = gateway.entropy := by
  cases family <;> rfl

theorem layer_modifyLayer (other : Family) :
    (gateway.modifyLayer family change).layer other =
      if other = family then change (gateway.layer other) else gateway.layer other := by
  cases family <;> cases other <;> rfl

@[simp]
theorem onDirectory_fst {α : Type} (work : Directory ChannelKey → α × Directory ChannelKey) :
    (gateway.onDirectory family work).1 = (work (gateway.layer family).directory).1 := rfl

@[simp]
theorem onDirectory_snd {α : Type} (work : Directory ChannelKey → α × Directory ChannelKey) :
    (gateway.onDirectory family work).2 = gateway.modifyLayer family fun layer =>
      { layer with directory := (work (gateway.layer family).directory).2 } := rfl

end Layer

@[simp]
theorem onStaged_fst {α : Type} (work : StagedKeys → α × StagedKeys) :
    (gateway.onStaged work).1 = (work gateway.staged).1 := rfl

@[simp]
theorem onStaged_snd {α : Type} (work : StagedKeys → α × StagedKeys) :
    (gateway.onStaged work).2 = { gateway with staged := (work gateway.staged).2 } := rfl

@[simp]
theorem connections_dropState (family : Family) :
    (gateway.dropState family).connections = gateway.connections := by
  simp [dropState]

@[simp]
theorem connections_runHook (hook : Hook) :
    (gateway.runHook hook).connections = gateway.connections := by
  cases hook <;> simp [runHook, dropKeys]

@[simp]
theorem connections_runHooks (hooks : List Hook) :
    (gateway.runHooks hooks).connections = gateway.connections := by
  induction hooks generalizing gateway with
  | nil => rfl
  | cons hook hooks induction =>
      exact (induction (gateway.runHook hook)).trans (connections_runHook gateway hook)

theorem keys_runHook {hook : Hook} (harmless : ∀ identity, hook ≠ .dropKeys identity) :
    (gateway.runHook hook).active = gateway.active ∧
      (gateway.runHook hook).staged = gateway.staged := by
  cases hook with
  | dropKeys identity => exact absurd rfl (harmless identity)
  | vacate family identity role connection => simp [runHook]
  | forget family connection => simp [runHook]

theorem keys_runHooks {hooks : List Hook}
    (harmless : ∀ identity, Hook.dropKeys identity ∉ hooks) :
    (gateway.runHooks hooks).active = gateway.active ∧
      (gateway.runHooks hooks).staged = gateway.staged := by
  induction hooks generalizing gateway with
  | nil => exact ⟨rfl, rfl⟩
  | cons hook hooks induction =>
      have first : (gateway.runHook hook).active = gateway.active ∧
          (gateway.runHook hook).staged = gateway.staged :=
        keys_runHook gateway fun identity equal =>
          harmless identity (equal ▸ List.mem_cons_self)
      have rest := induction (gateway.runHook hook) fun identity member =>
        harmless identity (List.mem_cons_of_mem hook member)
      exact ⟨rest.1.trans first.1, rest.2.trans first.2⟩

theorem keyless_dropKeys (identity : Identity) : (gateway.dropKeys identity).Keyless identity := by
  simp [Keyless, dropKeys, StagedKeys.remove_snd]

theorem Keyless.runHook {gateway : Gateway} {identity : Identity}
    (keyless : gateway.Keyless identity) (hook : Hook) :
    (gateway.runHook hook).Keyless identity := by
  cases hook with
  | dropKeys other =>
      simp only [Keyless, Gateway.runHook, dropKeys, StagedKeys.remove_snd, Table.get?_erase]
      obtain ⟨active, staged, retired⟩ := keyless
      simp [active, staged, retired]
  | vacate family other role connection => simpa [Keyless, Gateway.runHook] using keyless
  | forget family connection => simpa [Keyless, Gateway.runHook] using keyless

theorem Keyless.runHooks {gateway : Gateway} {identity : Identity}
    (keyless : gateway.Keyless identity) (hooks : List Hook) :
    (gateway.runHooks hooks).Keyless identity := by
  induction hooks generalizing gateway with
  | nil => exact keyless
  | cons hook hooks induction => exact induction (keyless.runHook hook)

theorem Keyless.look {gateway : Gateway} {identity : Identity}
    (keyless : gateway.Keyless identity) (other : Identity) :
    { gateway with staged := gateway.staged.expireDue gateway.now other }.Keyless identity := by
  obtain ⟨active, entry, retired⟩ := keyless
  refine ⟨active, ?_, ?_⟩
  · rw [StagedKeys.get?_entries_expireDue]
    split
    · next same =>
        subst same
        rw [entry]
        rfl
    · exact entry
  · exact StagedKeys.retired_expireDue_of_absent _ _ _ _ entry retired

theorem keyless_runHooks {hooks : List Hook} {identity : Identity}
    (due : Hook.dropKeys identity ∈ hooks) : (gateway.runHooks hooks).Keyless identity := by
  induction hooks generalizing gateway with
  | nil => cases due
  | cons hook hooks induction =>
      rcases List.mem_cons.1 due with rfl | later
      · exact (keyless_dropKeys gateway identity).runHooks hooks
      · exact induction (gateway.runHook hook) later

@[simp]
theorem connections_settle (handle : Handle) (connection : Connection Hook) (due : List Hook) :
    (gateway.settle handle connection due).connections =
      gateway.connections.insert handle connection := by
  simp [settle]

theorem keys_settle (handle : Handle) (connection : Connection Hook) {due : List Hook}
    (harmless : ∀ identity, Hook.dropKeys identity ∉ due) :
    (gateway.settle handle connection due).active = gateway.active ∧
      (gateway.settle handle connection due).staged = gateway.staged :=
  keys_runHooks { gateway with connections := gateway.connections.insert handle connection }
    harmless

theorem close_eq {handle : Handle} {connection : Connection Hook}
    (found : gateway.connections.get? handle = some connection) :
    gateway.close handle = gateway.settle handle connection.close.1 connection.close.2 := by
  simp only [close, found]

theorem onClose_eq {handle : Handle} {connection : Connection Hook} (hook : Hook)
    (found : gateway.connections.get? handle = some connection) :
    gateway.onClose handle hook =
      gateway.settle handle (connection.onClose hook).1 (connection.onClose hook).2 := by
  simp only [onClose, found]

theorem send_eq {handle : Handle} {connection : Connection Hook} (payload : Bytes)
    (found : gateway.connections.get? handle = some connection) :
    (gateway.send handle payload).2 =
      gateway.settle handle (connection.send payload).2.1 (connection.send payload).2.2 := by
  simp only [send, found]

theorem Keyless.settle {gateway : Gateway} {identity : Identity}
    (keyless : gateway.Keyless identity) (handle : Handle) (connection : Connection Hook)
    (due : List Hook) : (gateway.settle handle connection due).Keyless identity := by
  have replaced : { gateway with
      connections := gateway.connections.insert handle connection }.Keyless identity := keyless
  exact replaced.runHooks due

theorem Keyless.onClose {gateway : Gateway} {identity : Identity}
    (keyless : gateway.Keyless identity) (handle : Handle) (hook : Hook) :
    (gateway.onClose handle hook).Keyless identity := by
  cases found : gateway.connections.get? handle with
  | none => simpa only [Gateway.onClose, found] using keyless
  | some connection =>
      rw [onClose_eq gateway hook found]
      exact keyless.settle handle _ _

end PadRelay.Gateway
