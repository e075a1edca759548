import PadRelay.Proofs.Gateway.Realm
import PadRelay.Proofs.Transcript

/-!
# Hooks that stay at home

A hook waits only where it was registered, and until its connection closes. Between the acts of the
exchange the open connections have no hooks but those of clear channels, which drop the keys and
empty the clear slot of their own identity. Then every realm is sheltered: what belongs to it leads
nowhere else, and no encrypted slot is occupied.
-/

namespace PadRelay

namespace Gateway

variable {gateway : Gateway} {handle other : Handle} {hook registered : Hook}

theorem waits_of_settle {turned : Connection Hook} {due : List Hook}
    (waits : (gateway.settle handle turned due).Waits other hook) :
    (other = handle ∧ turned.id = hook.owner ∧ turned.isOpen = true ∧
        hook ∈ turned.life.waiting) ∨ gateway.Waits other hook := by
  obtain ⟨connection, found, owner, isOpen, member⟩ := waits
  rw [connections_settle, Table.get?_insert] at found
  split at found
  · next same =>
      obtain rfl := Option.some.inj found
      exact .inl ⟨same, owner, isOpen, member⟩
  · exact .inr ⟨connection, found, owner, isOpen, member⟩

theorem waits_of_turns {connection turned : Connection Hook} {due : List Hook}
    (found : gateway.connections.get? handle = some connection)
    (turns : connection.Turns turned due)
    (waits : (gateway.settle handle turned due).Waits other hook) :
    gateway.Waits other hook := by
  rcases waits_of_settle waits with ⟨rfl, owner, isOpen, member⟩ | before
  · have was_open := turns.isOpen_of_isOpen isOpen
    rw [(turns.life_of_isOpen isOpen).1] at member
    exact ⟨connection, found, turns.id_eq.symm.trans owner, was_open, member⟩
  · exact before

theorem waits_of_send {payload : Bytes} (waits : (gateway.send handle payload).2.Waits other hook) :
    gateway.Waits other hook := by
  cases found : gateway.connections.get? handle with
  | none => simpa only [send, found] using waits
  | some connection =>
      rw [send_eq gateway payload found] at waits
      exact waits_of_turns found (connection.turns_send payload) waits

theorem waits_of_close (waits : (gateway.close handle).Waits other hook) :
    gateway.Waits other hook := by
  cases found : gateway.connections.get? handle with
  | none => simpa only [close, found] using waits
  | some connection =>
      rw [close_eq gateway found] at waits
      exact waits_of_turns found connection.turns_close waits

theorem waits_of_onClose (waits : (gateway.onClose handle registered).Waits other hook) :
    gateway.Waits other hook ∨ other = handle ∧ hook = registered := by
  cases found : gateway.connections.get? handle with
  | none => exact .inl (by simpa only [onClose, found] using waits)
  | some connection =>
      rw [onClose_eq gateway registered found] at waits
      rcases waits_of_settle waits with ⟨rfl, owner, isOpen, member⟩ | before
      · cases was_open : connection.isOpen with
        | true =>
            rw [Connection.onClose_of_isOpen was_open] at owner member
            rcases List.mem_append.1 member with early | last
            · exact .inl ⟨connection, found, owner, was_open, early⟩
            · exact .inr ⟨rfl, List.mem_singleton.1 last⟩
        | false =>
            rw [Connection.onClose_of_closed was_open] at isOpen
            rw [was_open] at isOpen
            cases isOpen
      · exact .inl before

/-- Whatever waits after a call waited before, or was registered by it. -/
theorem waits_of_perform {request : Call} (waits : (gateway.perform request).2.Waits handle hook) :
    gateway.Waits handle hook ∨ request = .onClose handle hook := by
  have kept (same : (gateway.perform request).2.connections = gateway.connections) :
      gateway.Waits handle hook := (waits_congr same handle hook).1 waits
  cases request with
  | send other payload => exact .inl (waits_of_send waits)
  | close other => exact .inl (waits_of_close waits)
  | onClose other registered =>
      apply (waits_of_onClose waits).imp_right
      rintro ⟨rfl, rfl⟩
      rfl
  | sealFor family identity payload =>
      refine .inl (kept ?_)
      simp only [perform, sealFor]
      split <;> simp [count]
  | dress family recipient payload =>
      refine .inl (kept ?_)
      simp only [perform, dress, sealFor]
      split
      · split <;> simp [count]
      · rfl
  | generate policy size =>
      refine .inl (kept ?_)
      simp only [perform]
      split <;> rfl
  | _ => exact .inl (kept (by simp [perform, count, place, stagedKey]))

/-- Whatever waits after a run waited before, or was registered by one of its calls. -/
theorem waits_of_run {α : Type} {script : Script α}
    (waits : (script.run gateway).2.Waits handle hook) :
    gateway.Waits handle hook ∨ .onClose handle hook ∈ script.calls gateway := by
  induction script generalizing gateway with
  | done value => exact .inl waits
  | call request next induction =>
      rw [Script.run_call] at waits
      rcases induction _ waits with before | later
      · apply (waits_of_perform before).imp_right
        intro same
        exact List.mem_cons.2 (.inl same.symm)
      · exact .inr (List.mem_cons_of_mem _ later)

theorem waits_of_undergo {occurrence : Occurrence}
    (waits : (gateway.undergo occurrence).Waits handle hook) : gateway.Waits handle hook := by
  obtain ⟨connection, found, owner, isOpen, member⟩ := waits
  obtain ⟨old, held, id, was_open, waiting⟩ := exists_waiting_of_undergo found isOpen member
  exact ⟨old, held, id.trans owner, was_open, waiting⟩

end Gateway

/-- A hook of a clear channel takes what its connection has under its own identity. -/
def Hook.IsHome : Hook → Prop
  | .dropKeys _ => True
  | .vacate _ identity role connection => role = .clear ∧ identity = connection
  | .forget _ _ => False

namespace Gateway

variable {gateway : Gateway}

/-- Nothing waits but the hooks of clear channels. -/
def Homely (gateway : Gateway) : Prop := ∀ handle hook, gateway.Waits handle hook → hook.IsHome

/-- In a sound gateway where nothing else waits, no encrypted slot is occupied. -/
theorem Homely.slot_encrypted (homely : gateway.Homely) (sound : gateway.Sound [] none)
    (family : Family) (identity : Identity) :
    gateway.slot family identity .encrypted = none := by
  refine Option.eq_none_iff_forall_ne_some.2 fun party slotted => ?_
  obtain ⟨handle, waits⟩ := sound.exists_waits
    (.vacate family identity .encrypted party.id) ⟨party, slotted, rfl⟩
  cases (homely handle _ waits).1

theorem Homely.sheltered (homely : gateway.Homely) (sound : gateway.Sound [] none)
    (realm : Realm) : gateway.Sheltered realm where
  connection handle connection found own isOpen hook member := by
    have owner := sound.own handle connection found hook member
    have home := homely handle hook ⟨connection, found, owner.symm, isOpen, member⟩
    cases hook with
    | dropKeys identity =>
        obtain rfl : identity = connection.id := owner
        exact own
    | vacate family identity role id =>
        obtain rfl : id = connection.id := owner
        obtain ⟨-, rfl⟩ := home
        exact own
    | forget family id => exact home.elim
  pair family identity pair own found role party held := by
    have slotted : gateway.slot family identity role = some party := by
      rw [slot, Pairs.slot, found, Option.bind_some, held]
    refine ⟨sound.knows party (.slot slotted), ?_⟩
    cases role with
    | clear => rwa [(sound.welcomed family identity party slotted).1]
    | encrypted =>
        rw [homely.slot_encrypted sound] at slotted
        cases slotted

end Gateway

end PadRelay
