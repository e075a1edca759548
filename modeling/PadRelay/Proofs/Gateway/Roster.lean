import PadRelay.Gateway.Script
import PadRelay.Proofs.Connection
import PadRelay.Proofs.Gateway.Hooks
import PadRelay.Proofs.Script

/-!
# The roster of connections

Handles count connections, and a connection carries one identity as long as it is remembered. No
call changes the roster; only a new connection adds a line to it.
-/

namespace PadRelay.Gateway

/-- The same connections exist, under the same identities. -/
structure Keeps (before after : Gateway) : Prop where
  idOf? : ∀ handle, after.idOf? handle = before.idOf? handle
  size : after.connections.size = before.connections.size

namespace Keeps

theorem of_eq {before after : Gateway} (same : after.connections = before.connections) :
    before.Keeps after where
  idOf? handle := by rw [Gateway.idOf?, same, Gateway.idOf?]
  size := by rw [same]

theorem refl (gateway : Gateway) : gateway.Keeps gateway := of_eq rfl

theorem trans {before middle after : Gateway} (first : before.Keeps middle)
    (second : middle.Keeps after) : before.Keeps after where
  idOf? handle := (second.idOf? handle).trans (first.idOf? handle)
  size := second.size.trans first.size

theorem knows {before after : Gateway} (keeps : before.Keeps after) (party : Party) :
    after.Knows party ↔ before.Knows party := by
  rw [Knows, keeps.idOf?, Knows]

theorem settle {gateway : Gateway} {handle : Handle} {connection turned : Connection Hook}
    (found : gateway.connections.get? handle = some connection) (id : turned.id = connection.id)
    (due : List Hook) : gateway.Keeps (gateway.settle handle turned due) where
  idOf? other := by
    simp only [Gateway.idOf?, connections_settle, Table.get?_insert]
    split
    · next same =>
        subst same
        simp [found, id]
    · rfl
  size := by
    rw [connections_settle, Table.size_insert]
    exact Table.size_erase_of_get? _ found

theorem close (gateway : Gateway) (handle : Handle) : gateway.Keeps (gateway.close handle) := by
  cases found : gateway.connections.get? handle with
  | none => simpa only [Gateway.close, found] using refl gateway
  | some connection =>
      rw [close_eq gateway found]
      exact settle found connection.id_close _

theorem onClose (gateway : Gateway) (handle : Handle) (hook : Hook) :
    gateway.Keeps (gateway.onClose handle hook) := by
  cases found : gateway.connections.get? handle with
  | none => simpa only [Gateway.onClose, found] using refl gateway
  | some connection =>
      have id : (connection.onClose hook).1.id = connection.id := rfl
      rw [onClose_eq gateway hook found]
      exact settle found id _

theorem send (gateway : Gateway) (handle : Handle) (payload : Bytes) :
    gateway.Keeps (gateway.send handle payload).2 := by
  cases found : gateway.connections.get? handle with
  | none => simpa only [Gateway.send, found] using refl gateway
  | some connection =>
      rw [send_eq gateway payload found]
      exact settle found (connection.turns_send payload).id_eq _

theorem perform (gateway : Gateway) (request : Call) :
    gateway.Keeps (gateway.perform request).2 := by
  cases request with
  | onClose handle hook => exact onClose gateway handle hook
  | send handle payload => exact send gateway handle payload
  | close handle => exact close gateway handle
  | sealFor family identity payload =>
      apply of_eq
      simp only [Gateway.perform, sealFor]
      split
      · simp [count]
      · rfl
  | dress family recipient payload =>
      apply of_eq
      simp only [Gateway.perform, dress, sealFor]
      split
      · split
        · simp [count]
        · rfl
      · rfl
  | generate policy size =>
      apply of_eq
      simp only [Gateway.perform]
      split <;> rfl
  | _ => apply of_eq; simp [Gateway.perform, count, place, stagedKey]

theorem closeEach (gateway : Gateway) (parties : List Party) :
    gateway.Keeps (gateway.closeEach parties) := by
  induction parties generalizing gateway with
  | nil => exact refl gateway
  | cons party parties induction => exact (close gateway party.handle).trans (induction _)

end Keeps

theorem keeps_run {α : Type} (script : Script α) (gateway : Gateway) :
    gateway.Keeps (script.run gateway).2 := by
  have every : script.Only fun _ => True := by
    induction script with
    | done value => trivial
    | call request next induction => exact ⟨trivial, induction⟩
  exact every.run Keeps Keeps.refl (fun _ _ _ => Keeps.trans)
    (fun request _ gateway => Keeps.perform gateway request) gateway

/-- The identities of the connections, in the order in which they were made. -/
structure Lists (gateway : Gateway) (ids : List Identity) : Prop where
  idOf? : ∀ handle, gateway.idOf? handle = ids[handle]?
  size : gateway.connections.size = ids.length

namespace Lists

variable {gateway : Gateway} {ids : List Identity}

theorem keeps {after : Gateway} (lists : gateway.Lists ids) (keeps : gateway.Keeps after) :
    after.Lists ids where
  idOf? handle := (keeps.idOf? handle).trans (lists.idOf? handle)
  size := keeps.size.trans lists.size

theorem absent (lists : gateway.Lists ids) :
    gateway.connections.get? gateway.connections.size = none := by
  have beyond := lists.idOf? gateway.connections.size
  rw [lists.size, List.getElem?_eq_none (Nat.le_refl _), Gateway.idOf?,
    Option.map_eq_none_iff] at beyond
  rwa [lists.size]

/-- A new connection adds a line. -/
theorem enroll (lists : gateway.Lists ids) (connection : Connection Hook) :
    (gateway.enroll connection).2.Lists (ids ++ [connection.id]) where
  idOf? handle := by
    have before := lists.idOf? handle
    simp only [Gateway.enroll, Gateway.idOf?, Table.get?_insert, lists.size] at before ⊢
    split
    · next last =>
        subst last
        simp
    · next other =>
        rw [before]
        by_cases inside : handle < ids.length
        · rw [List.getElem?_append_left inside]
        · have beyond : ids.length < handle :=
            Nat.lt_of_le_of_ne (Nat.le_of_not_lt inside) (Ne.symm other)
          rw [List.getElem?_eq_none (Nat.le_of_lt beyond), List.getElem?_eq_none]
          rw [List.length_append, List.length_singleton]
          exact beyond
  size := by
    rw [List.length_append, ← lists.size]
    simp only [Gateway.enroll, Table.size_insert, List.length_singleton]
    rw [Table.erase_of_get?_eq_none _ lists.absent]

theorem handle_eq (lists : gateway.Lists ids) (distinct : ids.Nodup) {left right : Handle}
    {id : Identity} (one : gateway.idOf? left = some id) (two : gateway.idOf? right = some id) :
    left = right := by
  rw [lists.idOf?] at one two
  obtain ⟨inside, -⟩ := List.getElem?_eq_some_iff.1 one
  exact (List.getElem?_inj inside distinct).1 (one.trans two.symm)

theorem party_eq (lists : gateway.Lists ids) (distinct : ids.Nodup) {left right : Party}
    (one : gateway.Knows left) (two : gateway.Knows right) (same : left.id = right.id) :
    left = right := by
  obtain ⟨handle, id⟩ := left
  obtain rfl : id = right.id := same
  obtain rfl : handle = right.handle := lists.handle_eq distinct one two
  rfl

end Lists

end PadRelay.Gateway
