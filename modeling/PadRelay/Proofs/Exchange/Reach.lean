import Mathlib.Data.List.Induction
import PadRelay.Proofs.Exchange.Provenance
import PadRelay.Proofs.Gateway.Channel
import PadRelay.Proofs.Gateway.Surroundings
import PadRelay.Proofs.Gateway.Upkeep

/-!
# What every run of the exchange keeps

Between the acts of a run handles count the connections that were made, the gateway is sound, and
staged keys live as long as they did. When no two connections share an identity, an open connection
that was taken in is the clear channel of its identity.
-/

namespace PadRelay

/-- What holds between the acts of every run of the exchange, in which connections with the given
identities were made. -/
structure Gateway.Reached (gateway : Gateway) (ids : List Identity) (expiry : Nat) : Prop where
  lists : gateway.Lists ids
  sound : gateway.Sound [] none
  expiry : gateway.staged.expiry = expiry

namespace Desk

variable (desk : Desk)

theorem lists_act {gateway : Gateway} {ids : List Identity} (lists : gateway.Lists ids)
    (act : Act) : (desk.act gateway act).2.Lists (ids ++ act.opened?.toList) := by
  cases act with
  | occurs occurrence => exact lists.undergo occurrence
  | attach | clear | encrypted =>
      simpa [Act.opened?, Desk.act] using lists.keeps (gateway.keeps_attend _ _)
  | shutdown =>
      simpa [Act.opened?, Desk.act] using lists.keeps (gateway.keeps_dropState desk.family)

theorem sound_act {gateway : Gateway} {ids : List Identity} (sound : gateway.Sound [] none)
    (lists : gateway.Lists ids) (act : Act) : (desk.act gateway act).2.Sound [] none := by
  cases act with
  | occurs occurrence => exact sound.undergo lists occurrence
  | attach handle =>
      exact Gateway.attend_cases (motive := fun after => after.Sound [] none) handle desk.attach
        sound fun party known _ => sound.attach desk known
  | clear handle payload =>
      exact Gateway.attend_cases (motive := fun after => after.Sound [] none) handle
        (fun party => desk.handleClear party payload) sound fun party _ _ =>
          sound.handleClear desk party payload
  | encrypted handle payload =>
      exact Gateway.attend_cases (motive := fun after => after.Sound [] none) handle
        (fun party => desk.handleEncrypted party payload) sound fun party known _ =>
          sound.handleEncrypted desk known payload
  | shutdown => exact sound.dropState desk.family

theorem reached_act {gateway : Gateway} {ids : List Identity} {expiry : Nat}
    (reached : gateway.Reached ids expiry) (act : Act) :
    (desk.act gateway act).2.Reached (ids ++ act.opened?.toList) expiry where
  lists := desk.lists_act reached.lists act
  sound := desk.sound_act reached.sound reached.lists act
  expiry := (desk.moves_act gateway act).expiry.trans reached.expiry

theorem knows_act {gateway : Gateway} {ids : List Identity} {expiry : Nat}
    (reached : gateway.Reached ids expiry) (act : Act) {party : Party}
    (known : gateway.Knows party) : (desk.act gateway act).2.Knows party := by
  have after := desk.lists_act reached.lists act
  rw [Gateway.Knows, reached.lists.idOf?] at known
  rw [Gateway.Knows, after.idOf?]
  exact List.getElem?_append_left (List.getElem?_eq_some_iff.1 known).1 ▸ known

theorem reached_run (entropy : Entropy) (expiry : Nat) (acts : List Act) :
    (desk.run (.fresh entropy expiry) acts).Reached (acts.filterMap Act.opened?) expiry := by
  induction acts using List.reverseRecOn with
  | nil => exact ⟨Gateway.lists_fresh entropy expiry, Gateway.sound_fresh entropy expiry, rfl⟩
  | append_singleton acts last induction =>
      rw [run_append, List.filterMap_append]
      have step := desk.reached_act induction last
      cases opened : last.opened? <;> simpa [opened] using step

end Desk

namespace Gateway.Reached

variable {gateway : Gateway} {ids : List Identity} {expiry : Nat}

/-- An open connection whose close drops its keys is the clear channel of its identity. -/
theorem channel (reached : gateway.Reached ids expiry) (distinct : ids.Nodup) (family : Family)
    (party : Party) (waits : gateway.Waits party.handle (.dropKeys party.id)) :
    gateway.Channel family party where
  waits := waits
  sole other found := by
    have known : gateway.idOf? party.handle = some party.id := waits.idOf?_eq
    have own := (reached.sound.welcomed family party.id other found).1
    have known_other := reached.sound.knows other (.slot found)
    rw [Knows, own] at known_other
    exact reached.lists.handle_eq distinct known_other known

theorem keyless_of_closed (reached : gateway.Reached ids expiry) (distinct : ids.Nodup)
    {party : Party} (known : gateway.Knows party) (closed : gateway.isOpen party.handle = false) :
    gateway.Keyless party.id := by
  by_contra needs
  have isOpen := reached.sound.isOpen_of_needs reached.lists distinct known (.dropKeys party.id)
    needs rfl
  rw [closed] at isOpen
  cases isOpen

end Gateway.Reached

end PadRelay
