import PadRelay.Proofs.Exchange.Effect
import PadRelay.Proofs.Gateway.Ownership

/-!
# What an identity holds

The state of an identity in the exchange of keys depends on its active key and its staged key in
time. Moving a key of one identity leaves what the others hold as it is, and so do hooks that drop
the keys of others.
-/

namespace PadRelay

/-- Where an identity is in the exchange of keys. -/
def Holding.state : Holding → KeyState
  | ⟨none, none⟩ => .unencrypted
  | ⟨none, some _⟩ => .keyPending
  | ⟨some _, none⟩ => .encrypted
  | ⟨some _, some _⟩ => .rotating

namespace Gateway

variable (gateway : Gateway) (identity other : Identity)

theorem keyState_fst : (gateway.keyState identity).1 = (gateway.holding identity).state := by
  have looked : (gateway.stagedKey identity).1 = gateway.staged.live gateway.now identity := by
    rw [stagedKey, onStaged_fst, StagedKeys.get_fst]
  simp only [keyState, looked, holding, Table.contains]
  cases gateway.active.get? identity <;>
    cases gateway.staged.live gateway.now identity <;> rfl

theorem holding_of_keyless {gateway : Gateway} {identity : Identity}
    (keyless : gateway.Keyless identity) : gateway.holding identity = ⟨none, none⟩ := by
  rw [holding, keyless.1, StagedKeys.live_of_absent keyless.2.1]

theorem holding_congr {before after : Gateway} {identity : Identity}
    (now : after.now = before.now)
    (active : after.active.get? identity = before.active.get? identity)
    (entry : after.staged.entries.get? identity = before.staged.entries.get? identity) :
    after.holding identity = before.holding identity := by
  rw [holding, active, now, StagedKeys.live_congr entry, holding]

theorem holding_promote (staging : Staging) :
    (gateway.promote identity staging).holding other =
      if other = identity then ⟨some staging.held.key, none⟩ else gateway.holding other := by
  split
  · next same =>
      subst same
      have absent : (gateway.promote other staging).staged.entries.get? other = none :=
        Table.get?_erase_self _ _
      rw [holding, StagedKeys.live_of_absent absent]
      simp [promote]
  · next different =>
      exact holding_congr rfl (Table.get?_insert_of_ne _ _ different)
        (Table.get?_erase_of_ne _ different)

theorem holding_deactivate :
    (gateway.deactivate identity).holding other =
      if other = identity then ⟨none, (gateway.holding identity).staged⟩
      else gateway.holding other := by
  split
  · next same =>
      subst same
      simp [holding, deactivate]
  · next different => exact holding_congr rfl (Table.get?_erase_of_ne _ different) rfl

/-- A key that is staged is in time as long as keys live at all. -/
theorem holding_stageNew (positive : 0 < gateway.staged.expiry) (key : Key) (entropy : Entropy) :
    (gateway.stageNew identity key entropy).holding other =
      if other = identity then
        ⟨(gateway.holding identity).active, some ⟨key, gateway.staged.generation⟩⟩
      else gateway.holding other := by
  have entry := gateway.staged.get?_entries_put gateway.now identity other key
  split
  · next same =>
      subst same
      rw [if_pos rfl] at entry
      have live : (gateway.staged.put gateway.now other key).live gateway.now other =
          some ⟨key, gateway.staged.generation⟩ := by
        refine StagedKeys.live_of_entry entry (decide_eq_true ?_)
        exact Nat.lt_add_of_pos_right positive
      simp [holding, stageNew, live]
  · next different =>
      rw [if_neg different] at entry
      exact holding_congr rfl rfl entry

theorem holding_runHook {hook : Hook} (spared : hook ≠ .dropKeys identity) :
    (gateway.runHook hook).holding identity = gateway.holding identity := by
  cases hook with
  | dropKeys other =>
      have different : identity ≠ other := fun same => spared (by rw [same])
      refine holding_congr rfl (Table.get?_erase_of_ne _ different) ?_
      simp only [runHook, dropKeys, StagedKeys.remove_snd]
      exact Table.get?_erase_of_ne _ different
  | vacate family subject role connection => apply holding_congr <;> simp [runHook]
  | forget family connection => apply holding_congr <;> simp [runHook]

theorem holding_runHooks {hooks : List Hook} (spared : Hook.dropKeys identity ∉ hooks) :
    (gateway.runHooks hooks).holding identity = gateway.holding identity := by
  induction hooks generalizing gateway with
  | nil => rfl
  | cons hook hooks induction =>
      rw [List.mem_cons, not_or] at spared
      have first := gateway.holding_runHook identity (Ne.symm spared.1)
      exact (induction (gateway.runHook hook) spared.2).trans first

theorem holding_settle (handle : Handle) (connection : Connection Hook) {due : List Hook}
    (spared : Hook.dropKeys identity ∉ due) :
    (gateway.settle handle connection due).holding identity = gateway.holding identity :=
  holding_runHooks { gateway with connections := gateway.connections.insert handle connection }
    identity spared

/-- The keys of an identity are spared, unless a connection closes that waits to drop them. -/
theorem holding_turns {gateway : Gateway} (own : gateway.OwnHooks) {handle : Handle}
    {connection turned : Connection Hook} {due : List Hook}
    (found : gateway.connections.get? handle = some connection)
    (turns : connection.Turns turned due) (identity : Identity) :
    (gateway.settle handle turned due).holding identity = gateway.holding identity ∨
      gateway.Waits handle (.dropKeys identity) ∧ turned.isOpen = false := by
  cases turns with
  | kept id life => exact .inl (gateway.holding_settle identity handle turned List.not_mem_nil)
  | closed id wasOpen life =>
      by_cases waiting : Hook.dropKeys identity ∈ connection.life.waiting
      · have owner := own handle connection found _ waiting
        refine .inr ⟨⟨connection, found, owner.symm, wasOpen, waiting⟩, ?_⟩
        simp [Connection.isOpen, Lifecycle.isOpen, life]
      · exact .inl (gateway.holding_settle identity handle turned waiting)

theorem holding_close_of_not_waits {gateway : Gateway} (own : gateway.OwnHooks) {handle : Handle}
    {identity : Identity} (spared : ¬ gateway.Waits handle (.dropKeys identity)) :
    (gateway.close handle).holding identity = gateway.holding identity := by
  cases found : gateway.connections.get? handle with
  | none => simp only [close, found]
  | some connection =>
      rw [close_eq gateway found]
      exact (holding_turns own found connection.turns_close identity).resolve_right
        fun gone => spared gone.1

theorem holding_occupy (family : Family) (subject : Identity) (role : Role) (party : Party) :
    ((Script.occupy family subject role party).run gateway).2.holding identity =
      gateway.holding identity := by
  have spares := Spares.occupy gateway family subject role party
  refine spares.keys (fun handle attached => spares.kept handle attached ?_) identity
  rw [isOpen_occupy]
  exact attached.isOpen

/-- Registering the drop of keys spares all keys, if the connection is open or there are none. -/
theorem holding_onClose_dropKeys {gateway : Gateway} {handle : Handle} {identity : Identity}
    (keyless : gateway.isOpen handle = false → gateway.Keyless identity) (other : Identity) :
    (gateway.onClose handle (.dropKeys identity)).holding other = gateway.holding other := by
  cases found : gateway.connections.get? handle with
  | none => simp only [onClose, found]
  | some connection =>
      rw [isOpen_eq found] at keyless
      rw [onClose_eq gateway _ found]
      cases isOpen : connection.isOpen with
      | true =>
          rw [Connection.onClose_of_isOpen isOpen]
          exact gateway.holding_settle other handle _ List.not_mem_nil
      | false =>
          rw [Connection.onClose_of_closed isOpen]
          by_cases same : other = identity
          · subst same
            have gone := keyless isOpen
            rw [holding_of_keyless gone, holding_of_keyless (gone.settle handle connection _)]
          · refine gateway.holding_settle other handle connection fun member => same ?_
            cases List.mem_singleton.1 member
            rfl

/-- While the attached channels stay open, drifting before and after a move of keys leaves what
every identity holds as it is. -/
theorem holding_of_spares {before middle moved after : Gateway} (first : before.Spares middle)
    (last : moved.Spares after) (same : moved.connections = middle.connections)
    (calm : ∀ handle, before.IsAttached handle → after.isOpen handle = true) (identity : Identity) :
    middle.holding identity = before.holding identity ∧
      after.holding identity = moved.holding identity := by
  have open_middle (handle : Handle) (attached : before.IsAttached handle) :
      middle.isOpen handle = true := by
    have open_moved := last.opened handle (calm handle attached)
    rwa [isOpen_congr same] at open_moved
  have stays_first (handle : Handle) (attached : before.IsAttached handle) :
      middle.IsAttached handle := first.kept handle attached (open_middle handle attached)
  have stays_last (handle : Handle) (attached : moved.IsAttached handle) :
      after.IsAttached handle := by
    have attached_before := first.attached handle ((isAttached_congr same handle).1 attached)
    exact last.kept handle attached (calm handle attached_before)
  exact ⟨first.keys stays_first identity, last.keys stays_last identity⟩

end Gateway

end PadRelay
