import PadRelay.Proofs.Gateway.Drift

/-!
# Attached channels

A clear channel is attached while it is open and the drop of its keys waits for its close. Steps
that move no key spare the keys that are in force and in time, unless they close an attached
channel.
-/

namespace PadRelay

/-- The keys of an identity that matter: the active one, and the staged one if it is in time. -/
structure Holding where
  active : Option Key
  staged : Option StagedKey
deriving DecidableEq

namespace Gateway

def holding (gateway : Gateway) (identity : Identity) : Holding :=
  ⟨gateway.active.get? identity, gateway.staged.live gateway.now identity⟩

/-- A connection is open, and its close will drop keys. -/
def IsAttached (gateway : Gateway) (handle : Handle) : Prop :=
  ∃ connection identity, gateway.connections.get? handle = some connection ∧
    connection.isOpen = true ∧ Hook.dropKeys identity ∈ connection.life.waiting

theorem isOpen_eq {gateway : Gateway} {handle : Handle} {connection : Connection Hook}
    (found : gateway.connections.get? handle = some connection) :
    gateway.isOpen handle = connection.isOpen := by
  simp [isOpen, found]

theorem isOpen_congr {before after : Gateway} (same : after.connections = before.connections)
    (handle : Handle) : after.isOpen handle = before.isOpen handle := by
  simp [isOpen, same]

theorem IsAttached.isOpen {gateway : Gateway} {handle : Handle}
    (attached : gateway.IsAttached handle) : gateway.isOpen handle = true := by
  obtain ⟨connection, identity, found, isOpen, -⟩ := attached
  rw [isOpen_eq found, isOpen]

theorem isAttached_congr {before after : Gateway} (same : after.connections = before.connections)
    (handle : Handle) : after.IsAttached handle ↔ before.IsAttached handle := by
  simp [IsAttached, same]

theorem isOpen_settle (gateway : Gateway) (handle other : Handle) (connection : Connection Hook)
    (due : List Hook) :
    (gateway.settle handle connection due).isOpen other =
      if other = handle then connection.isOpen else gateway.isOpen other := by
  simp only [isOpen, connections_settle, Table.get?_insert]
  split <;> simp

theorem isOpen_close (gateway : Gateway) (handle : Handle) :
    (gateway.close handle).isOpen handle = false := by
  cases found : gateway.connections.get? handle with
  | none => simp [close, isOpen, found]
  | some connection =>
      rw [close_eq gateway found, isOpen_settle, if_pos rfl]
      exact connection.isOpen_close

/-- A payload that a closed connection is handed changes no active key. -/
theorem active_send_of_closed {gateway : Gateway} {handle : Handle} (payload : Bytes)
    (closed : gateway.isOpen handle = false) :
    (gateway.send handle payload).2.isOpen handle = false ∧
      (gateway.send handle payload).2.active = gateway.active := by
  cases found : gateway.connections.get? handle with
  | none =>
      simp only [send, found, closed, and_self]
  | some connection =>
      rw [isOpen_eq found] at closed
      rw [send_eq gateway payload found, isOpen_settle, if_pos rfl]
      have turns := connection.turns_send payload
      generalize (connection.send payload).2.1 = turned at turns ⊢
      generalize (connection.send payload).2.2 = due at turns ⊢
      cases turns with
      | kept id life =>
          rw [Connection.isOpen, life]
          exact ⟨closed, rfl⟩
      | closed id wasOpen life =>
          rw [closed] at wasOpen
          cases wasOpen

theorem isAttached_settle_of_ne (gateway : Gateway) {handle other : Handle}
    (connection : Connection Hook) (due : List Hook) (different : other ≠ handle) :
    (gateway.settle handle connection due).IsAttached other ↔ gateway.IsAttached other := by
  simp [IsAttached, Table.get?_insert_of_ne _ _ different]

theorem isAttached_settle_self (gateway : Gateway) (handle : Handle)
    (connection : Connection Hook) (due : List Hook) :
    (gateway.settle handle connection due).IsAttached handle ↔
      connection.isOpen = true ∧ ∃ identity, Hook.dropKeys identity ∈ connection.life.waiting := by
  simp [IsAttached]

/-- Keys that matter have only gone, if any, with an attached channel that has closed. -/
structure Spares (before after : Gateway) : Prop where
  opened : ∀ handle, after.isOpen handle = true → before.isOpen handle = true
  attached : ∀ handle, after.IsAttached handle → before.IsAttached handle
  kept : ∀ handle, before.IsAttached handle → after.isOpen handle = true → after.IsAttached handle
  keys : (∀ handle, before.IsAttached handle → after.IsAttached handle) →
    ∀ identity, after.holding identity = before.holding identity

namespace Spares

theorem of_eq {before after : Gateway} (connections : after.connections = before.connections)
    (keys : ∀ identity, after.holding identity = before.holding identity) :
    before.Spares after where
  opened handle isOpen := by rwa [isOpen_congr connections] at isOpen
  attached handle attached := (isAttached_congr connections handle).1 attached
  kept handle attached _ := (isAttached_congr connections handle).2 attached
  keys _ := keys

theorem refl (gateway : Gateway) : gateway.Spares gateway := of_eq rfl fun _ => rfl

theorem trans {before middle after : Gateway} (first : before.Spares middle)
    (second : middle.Spares after) : before.Spares after where
  opened handle isOpen := first.opened handle (second.opened handle isOpen)
  attached handle attached := first.attached handle (second.attached handle attached)
  kept handle attached isOpen :=
    second.kept handle (first.kept handle attached (second.opened handle isOpen)) isOpen
  keys calm identity := by
    have calm_first : ∀ handle, before.IsAttached handle → middle.IsAttached handle :=
      fun handle attached => second.attached handle (calm handle attached)
    have calm_second : ∀ handle, middle.IsAttached handle → after.IsAttached handle :=
      fun handle attached => calm handle (first.attached handle attached)
    exact (second.keys calm_second identity).trans (first.keys calm_first identity)

/-- A connection changes and hooks run. If a drop of keys has come due, it was waiting on this
connection, which has closed. -/
theorem settle {gateway : Gateway} {handle : Handle} {connection turned : Connection Hook}
    {due : List Hook} (found : gateway.connections.get? handle = some connection)
    (opened : turned.isOpen = true → connection.isOpen = true)
    (drops : turned.isOpen = true → ∀ identity,
      Hook.dropKeys identity ∈ turned.life.waiting ↔
        Hook.dropKeys identity ∈ connection.life.waiting)
    (overdue : ∀ identity, Hook.dropKeys identity ∈ due →
      Hook.dropKeys identity ∈ connection.life.waiting ∧ connection.isOpen = true ∧
        turned.isOpen = false) :
    gateway.Spares (gateway.settle handle turned due) where
  opened other isOpen := by
    rw [isOpen_settle] at isOpen
    split at isOpen
    · next same =>
        subst same
        rw [isOpen_eq found]
        exact opened isOpen
    · exact isOpen
  attached other attached := by
    by_cases same : other = handle
    · subst same
      obtain ⟨isOpen, identity, waits⟩ :=
        (isAttached_settle_self gateway other turned due).1 attached
      exact ⟨connection, identity, found, opened isOpen, (drops isOpen identity).1 waits⟩
    · exact (isAttached_settle_of_ne gateway turned due same).1 attached
  kept other attached isOpen := by
    by_cases same : other = handle
    · subst same
      obtain ⟨held, identity, held_found, -, waits⟩ := attached
      cases found.symm.trans held_found
      rw [isOpen_settle, if_pos rfl] at isOpen
      exact (isAttached_settle_self gateway other turned due).2
        ⟨isOpen, identity, (drops isOpen identity).2 waits⟩
    · exact (isAttached_settle_of_ne gateway turned due same).2 attached
  keys calm identity := by
    have harmless : ∀ other, Hook.dropKeys other ∉ due := by
      intro other member
      obtain ⟨waits, isOpen, closed⟩ := overdue other member
      have attached := calm handle ⟨connection, other, found, isOpen, waits⟩
      have still_open := ((isAttached_settle_self gateway handle turned due).1 attached).1
      rw [closed] at still_open
      cases still_open
    obtain ⟨active, staged⟩ := keys_settle gateway handle turned harmless
    simp only [holding, active, staged, (Sheds.settle gateway handle turned due).now]

theorem turns {gateway : Gateway} {handle : Handle} {connection turned : Connection Hook}
    {due : List Hook} (found : gateway.connections.get? handle = some connection)
    (turns : connection.Turns turned due) :
    gateway.Spares (gateway.settle handle turned due) := by
  apply settle found turns.isOpen_of_isOpen
  · intro isOpen identity
    rw [(turns.life_of_isOpen isOpen).1]
  · intro identity member
    cases turns with
    | kept id life => cases member
    | closed id wasOpen life =>
        exact ⟨member, wasOpen, by simp [Connection.isOpen, Lifecycle.isOpen, life]⟩

theorem send (gateway : Gateway) (handle : Handle) (payload : Bytes) :
    gateway.Spares (gateway.send handle payload).2 := by
  cases found : gateway.connections.get? handle with
  | none => simpa only [Gateway.send, found] using refl gateway
  | some connection =>
      rw [send_eq gateway payload found]
      exact turns found (connection.turns_send payload)

theorem close (gateway : Gateway) (handle : Handle) : gateway.Spares (gateway.close handle) := by
  cases found : gateway.connections.get? handle with
  | none => simpa only [Gateway.close, found] using refl gateway
  | some connection =>
      rw [close_eq gateway found]
      exact turns found connection.turns_close

theorem onClose (gateway : Gateway) (handle : Handle) {hook : Hook}
    (harmless : ∀ identity, hook ≠ .dropKeys identity) :
    gateway.Spares (gateway.onClose handle hook) := by
  cases found : gateway.connections.get? handle with
  | none => simpa only [Gateway.onClose, found] using refl gateway
  | some connection =>
      rw [onClose_eq gateway hook found]
      cases isOpen : connection.isOpen with
      | true =>
          rw [Connection.onClose_of_isOpen isOpen]
          apply settle found (fun _ => isOpen)
          · intro _ identity
            simp [Ne.symm (harmless identity)]
          · intro identity member
            cases member
      | false =>
          rw [Connection.onClose_of_closed isOpen]
          apply settle found id (fun _ _ => Iff.rfl)
          intro identity member
          rw [List.mem_singleton] at member
          exact absurd member.symm (harmless identity)

theorem occupy (gateway : Gateway) (family : Family) (identity : Identity) (role : Role)
    (party : Party) :
    gateway.Spares ((Script.occupy family identity role party).run gateway).2 := by
  have placed : gateway.Spares (gateway.place family identity role party).2 := by
    apply of_eq <;> simp [place, holding]
  rcases occupy_cases gateway family identity role party with ⟨equal, -⟩ | ⟨equal, -⟩
  · rw [equal]
    exact placed
  · rw [equal]
    exact placed.trans (onClose _ _ fun _ => Hook.noConfusion)

end Spares

/-- Steps that move no key spare the keys that matter. -/
theorem Drifts.spares {before after : Gateway} (drifts : before.Drifts after) :
    before.Spares after := by
  apply drifts.respects Spares Spares.refl (fun _ _ _ => Spares.trans)
  intro before after stirs
  cases stirs with
  | count family event => apply Spares.of_eq <;> simp [Gateway.count, holding]
  | look identity => apply Spares.of_eq <;> simp [holding]
  | send handle payload => exact Spares.send before handle payload
  | close handle => exact Spares.close before handle
  | occupy family identity known => exact Spares.occupy before family identity .encrypted _

end Gateway

end PadRelay
