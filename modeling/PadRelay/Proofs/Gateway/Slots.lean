import PadRelay.Proofs.Gateway.Attached
import PadRelay.Proofs.Pairs

/-!
# Slots that stay

Letting a connection into one slot of a pair, with the hook that takes it out again, leaves what the
other slot shows as it is.
-/

namespace PadRelay.Gateway

variable (gateway : Gateway) (family other : Family) (identity : Identity)

@[simp]
theorem isOpen_onClose (handle : Handle) (hook : Hook) :
    (gateway.onClose handle hook).isOpen = gateway.isOpen := by
  funext subject
  cases found : gateway.connections.get? handle with
  | none => simp only [onClose, found]
  | some connection =>
      have same : (connection.onClose hook).1.isOpen = connection.isOpen := by
        cases isOpen : connection.isOpen with
        | true => rw [Connection.onClose_of_isOpen isOpen]; exact isOpen
        | false => rw [Connection.onClose_of_closed isOpen]; exact isOpen
      rw [onClose_eq gateway hook found, isOpen_settle, same]
      split
      · next equal => rw [equal, isOpen_eq found]
      · rfl

@[simp]
theorem isOpen_occupy (role : Role) (party : Party) :
    ((Script.occupy family identity role party).run gateway).2.isOpen = gateway.isOpen := by
  have placed : (gateway.place family identity role party).2.isOpen = gateway.isOpen := by
    funext handle
    simp [place, isOpen]
  rcases occupy_cases gateway family identity role party with ⟨equal, -⟩ | ⟨equal, -⟩
  · rw [equal, placed]
  · rw [equal, isOpen_onClose, placed]

theorem connectionOf_modifyLayer (change : Layer → Layer) (subject : Identity) (side : Role) :
    (gateway.modifyLayer family change).connectionOf other subject side =
      (if other = family then change (gateway.layer other)
        else gateway.layer other).pairs.connectionOf gateway.isOpen subject side := by
  have same : (gateway.modifyLayer family change).isOpen = gateway.isOpen := by
    funext handle
    simp [isOpen]
  rw [connectionOf, same, layer_modifyLayer]

theorem connectionOf_place_of_ne (role side : Role) (party : Party) (subject : Identity)
    (different : side ≠ role) :
    (gateway.place family identity role party).2.connectionOf other subject side =
      gateway.connectionOf other subject side := by
  simp only [place, connectionOf_modifyLayer]
  split
  · simp [connectionOf, Pairs.connectionOf_eq, Pairs.slot_place, different]
  · rfl

theorem connectionOf_runHook_vacate_of_ne (role side : Role) (id subject : Identity)
    (different : side ≠ role) :
    (gateway.runHook (.vacate family identity role id)).connectionOf other subject side =
      gateway.connectionOf other subject side := by
  simp only [runHook, connectionOf_modifyLayer]
  split
  · exact Pairs.connectionOf_vacate_of_ne _ _ _ _ _ _ _ different
  · rfl

theorem connectionOf_onClose_vacate_of_ne (role side : Role) (handle : Handle)
    (id subject : Identity) (different : side ≠ role) :
    (gateway.onClose handle (.vacate family identity role id)).connectionOf other subject side =
      gateway.connectionOf other subject side := by
  have shown (turned : Connection Hook)
      (same : (gateway.settle handle turned []).isOpen = gateway.isOpen) :
      (gateway.settle handle turned []).connectionOf other subject side =
        gateway.connectionOf other subject side :=
    congrArg (fun isLive => (gateway.layer other).pairs.connectionOf isLive subject side) same
  have same := isOpen_onClose gateway handle (.vacate family identity role id)
  cases found : gateway.connections.get? handle with
  | none => simp only [onClose, found]
  | some connection =>
      rw [onClose_eq gateway _ found] at same ⊢
      cases isOpen : connection.isOpen with
      | true =>
          rw [Connection.onClose_of_isOpen isOpen] at same ⊢
          exact shown _ same
      | false =>
          rw [Connection.onClose_of_closed isOpen]
          have still : (gateway.settle handle connection []).isOpen = gateway.isOpen := by
            funext subject
            rw [isOpen_settle]
            split
            · next equal => rw [equal, isOpen_eq found]
            · rfl
          exact (connectionOf_runHook_vacate_of_ne (gateway.settle handle connection []) family
            other identity role side id subject different).trans (shown connection still)

/-- A connection that enters the encrypted slot of a pair leaves the clear slots as they are. -/
theorem connectionOf_occupy_of_ne (role side : Role) (party : Party) (subject : Identity)
    (different : side ≠ role) :
    ((Script.occupy family identity role party).run gateway).2.connectionOf other subject side =
      gateway.connectionOf other subject side := by
  rcases occupy_cases gateway family identity role party with ⟨equal, -⟩ | ⟨equal, -⟩
  · rw [equal, connectionOf_place_of_ne gateway family other identity role side party subject
      different]
  · rw [equal, connectionOf_onClose_vacate_of_ne _ family other identity role side _ _ _ different,
      connectionOf_place_of_ne gateway family other identity role side party subject different]

end PadRelay.Gateway
