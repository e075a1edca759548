import Mathlib.Data.List.Induction
import PadRelay.Proofs.Exchange.Run
import PadRelay.Proofs.Gateway.Tenancy

/-!
# Runs of the pairs

Connections are put into slots of pairs, again and again, one into several slots and one in the
place of another, open or closed; pairs are dropped one by one or all at once; and connections close
at any time, perhaps long after they lost their slots. All the while the pairs tell of open
connections only.
-/

namespace PadRelay

namespace Pairing

/-- What is asked of the pairs, or happens around them. -/
inductive Act where
  /-- Something happens around the pairs. -/
  | occurs (occurrence : Occurrence)
  /-- A connection becomes the clear channel of an identity. -/
  | setClear (identity : Identity) (handle : Handle)
  /-- A connection becomes the encrypted channel of an identity, if it has transport security. -/
  | setEncrypted (identity : Identity) (handle : Handle)
  /-- The pair of an identity is dropped. -/
  | remove (identity : Identity)
  /-- Every pair is dropped. -/
  | clear

/-- The identity of the connection that is made. -/
def Act.opened? : Act → Option Identity
  | .occurs occurrence => occurrence.opened?
  | _ => none

/-- Perform an act. A handle without a connection is ignored. -/
def act (family : Family) (gateway : Gateway) : Act → Gateway
  | .occurs occurrence => gateway.undergo occurrence
  | .setClear identity handle => (gateway.attend handle (Script.setClear family identity)).2
  | .setEncrypted identity handle =>
      (gateway.attend handle (Script.setEncrypted family identity)).2
  | .remove identity => (gateway.unpair family identity).2
  | .clear => gateway.modifyLayer family fun layer => { layer with pairs := ∅ }

/-- Perform acts one after the other. -/
def run (family : Family) (start : Gateway) (acts : List Act) : Gateway :=
  acts.foldl (act family) start

theorem run_append (family : Family) (start : Gateway) (acts : List Act) (last : Act) :
    run family start (acts ++ [last]) = act family (run family start acts) last := by
  simp [run]

/-- What every run keeps: the connections made so far are those of the list, and whoever stands in a
slot may stand there. -/
structure Kept (family : Family) (ids : List Identity) (gateway : Gateway) : Prop where
  lists : gateway.Lists ids
  tenanted : gateway.Tenanted family []

/-- Every act keeps what runs keep. -/
theorem Kept.act {family : Family} {ids : List Identity} {gateway : Gateway}
    (kept : Kept family ids gateway) (act : Act) :
    Kept family (ids ++ act.opened?.toList) (Pairing.act family gateway act) := by
  obtain ⟨lists, tenanted⟩ := kept
  cases act with
  | occurs occurrence =>
      exact ⟨lists.undergo occurrence, tenanted.undergo lists occurrence⟩
  | setClear identity handle =>
      simp only [Act.opened?, Option.toList_none, List.append_nil]
      refine ⟨lists.keeps (Gateway.keeps_attend gateway handle _), ?_⟩
      exact Gateway.attend_cases (motive := (·.Tenanted family [])) handle _ tenanted
        fun party known _ => tenanted.occupy known Role.noConfusion identity
  | setEncrypted identity handle =>
      simp only [Act.opened?, Option.toList_none, List.append_nil]
      refine ⟨lists.keeps (Gateway.keeps_attend gateway handle _), ?_⟩
      refine Gateway.attend_cases (motive := (·.Tenanted family [])) handle _ tenanted ?_
      intro party known _
      cases secure : gateway.isSecure party.handle with
      | true =>
          rw [Gateway.setEncrypted_of_isSecure secure]
          exact tenanted.occupy known (fun _ => secure) identity
      | false =>
          rw [Gateway.setEncrypted_of_not_isSecure secure]
          exact tenanted
  | remove identity =>
      simp only [Act.opened?, Option.toList_none, List.append_nil]
      exact ⟨lists.keeps (.of_eq (by simp [Pairing.act, Gateway.unpair])),
        tenanted.unpair identity⟩
  | clear =>
      simp only [Act.opened?, Option.toList_none, List.append_nil]
      exact ⟨lists.keeps (.of_eq (Gateway.connections_modifyLayer _ _ _)), tenanted.clear⟩

theorem kept_run (family : Family) (entropy : Entropy) (expiry : Nat) (acts : List Act) :
    Kept family (acts.filterMap Act.opened?) (run family (.fresh entropy expiry) acts) := by
  induction acts using List.reverseRecOn with
  | nil =>
      exact ⟨Gateway.lists_fresh entropy expiry, Gateway.tenanted_fresh entropy expiry family⟩
  | append_singleton acts last induction =>
      have ids : (acts ++ [last]).filterMap Act.opened? =
          acts.filterMap Act.opened? ++ last.opened?.toList := List.filterMap_append
      rw [ids, run_append]
      exact induction.act last

/-- The pairs of a family tell of open connections only, and every question about them has the
answer that the slots give. -/
structure Faithful (gateway : Gateway) (family : Family) : Prop where
  /-- A pair that is stored has a slot that is not empty. -/
  occupied : ∀ identity, (gateway.layer family).pairs.contains identity = true →
    ∃ role party, gateway.slot family identity role = some party
  /-- Every connection in a slot exists, with the identity under which it stands, and is open. -/
  stands : ∀ identity role party, gateway.slot family identity role = some party →
    gateway.Knows party ∧ gateway.isOpen party.handle = true
  /-- Every connection in an encrypted slot has transport security. -/
  secure : ∀ identity party, gateway.slot family identity .encrypted = some party →
    gateway.isSecure party.handle = true
  /-- A slot shows the connection that it holds. -/
  shows : ∀ identity role,
    gateway.connectionOf family identity role = gateway.slot family identity role
  /-- There is a pair exactly if there is a clear or an encrypted channel. -/
  contains : ∀ identity, (gateway.layer family).pairs.contains identity = true ↔
    (gateway.connectionOf family identity .clear).isSome = true ∨
      (gateway.connectionOf family identity .encrypted).isSome = true
  /-- A pair is active exactly if there are both. -/
  active : ∀ identity, (gateway.layer family).pairs.isActive gateway.isOpen identity = true ↔
    (gateway.connectionOf family identity .clear).isSome = true ∧
      (gateway.connectionOf family identity .encrypted).isSome = true
  /-- A slot is found for a connection exactly if some slot holds it. -/
  found : ∀ id, ((gateway.layer family).pairs.slotOf id).isSome = true ↔
    ∃ identity role party, gateway.slot family identity role = some party ∧ party.id = id
  /-- A slot that is found for a connection holds it. -/
  holds : ∀ id identity role, (gateway.layer family).pairs.slotOf id = some (identity, role) →
    ∃ party, gateway.slot family identity role = some party ∧ party.id = id
  /-- A connection that is put into a slot stands there if it is open, and leaves the slot empty
  otherwise. No other slot changes. -/
  sets : ∀ party, gateway.Knows party → ∀ identity other role side,
    ((Script.occupy family identity role party).run gateway).2.slot family other side =
      if other = identity ∧ side = role then
        if gateway.isOpen party.handle then some party else none
      else gateway.slot family other side
  /-- A close empties the slots that hold the connection, and no others. -/
  close : ∀ handle identity role, (gateway.close handle).slot family identity role =
    (gateway.slot family identity role).filter fun party => party.handle ≠ handle
  /-- The close of a connection that no slot holds any more changes no pair. -/
  late : ∀ handle,
    (∀ identity role party, gateway.slot family identity role = some party →
      party.handle ≠ handle) →
    ∀ identity, ((gateway.close handle).layer family).pairs.get? identity =
      (gateway.layer family).pairs.get? identity
  /-- A connection without transport security becomes no encrypted channel, and nothing changes. -/
  refuses : ∀ identity party, gateway.isSecure party.handle = false →
    (Script.setEncrypted family identity party).run gateway =
      (.error (.notEncrypted party.id), gateway)

/-- Over connections with distinct identities every run leaves the pairs faithful. -/
theorem faithful_run (family : Family) (entropy : Entropy) (expiry : Nat) (acts : List Act)
    (distinct : (acts.filterMap Act.opened?).Nodup) :
    Faithful (run family (.fresh entropy expiry) acts) family := by
  have kept := kept_run family entropy expiry acts
  generalize run family (.fresh entropy expiry) acts = gateway at kept ⊢
  obtain ⟨lists, tenanted⟩ := kept
  have shows := tenanted.connectionOf_eq_slot lists distinct
  refine ⟨?_, ?_, ?_, shows, ?_, ?_, ?_, ?_, ?_, tenanted.slot_close lists distinct, ?_, ?_⟩
  · exact fun identity => (tenanted.occupied.contains_iff identity).1
  · intro identity role party found
    exact ⟨(tenanted.tenant identity role party found).knows,
      tenanted.isOpen_of_slot lists distinct found⟩
  · exact fun identity party found => (tenanted.tenant identity .encrypted party found).secure rfl
  · intro identity
    rw [tenanted.occupied.contains_iff, shows, shows]
    simp only [Option.isSome_iff_exists]
    constructor
    · rintro ⟨role, party, found⟩
      cases role with
      | clear => exact .inl ⟨party, found⟩
      | encrypted => exact .inr ⟨party, found⟩
    · rintro (⟨party, found⟩ | ⟨party, found⟩)
      · exact ⟨.clear, party, found⟩
      · exact ⟨.encrypted, party, found⟩
  · exact fun identity => Bool.and_eq_true_iff
  · exact (gateway.layer family).pairs.isSome_slotOf_iff
  · exact fun id identity role found => (gateway.layer family).pairs.exists_slot_of_slotOf found
  · exact fun party known => tenanted.slot_occupy lists distinct known
  · exact fun handle absent => tenanted.get?_close_of_absent lists distinct absent
  · exact fun identity party insecure => Gateway.setEncrypted_of_not_isSecure insecure

/-- One connection stands in two slots, and another takes the place of a third. The third closes
late, the first closes, and then enters once more. -/
def sampleActs : List Act :=
  [.occurs (.opens 1 false Sample.remote (.record [] false)),
    .occurs (.opens 2 false Sample.remote (.record [] false)),
    .occurs (.opens 3 true Sample.remote (.record [] false)),
    .setClear 1 0, .setEncrypted 1 2, .setClear 7 2, .setClear 1 1, .setEncrypted 1 1,
    .occurs (.closes 0), .occurs (.closes 2), .setEncrypted 9 2]

/-- In the sample the late close leaves the pair to the connection that took over, and the other
close drops the pair that it leaves vacant. -/
theorem sample_pair_is_kept :
    (sampleActs.filterMap Act.opened?).Nodup ∧
      (run .socket Sample.start sampleActs).connectionOf .socket 1 .clear = some ⟨1, 2⟩ ∧
      (run .socket Sample.start sampleActs).connectionOf .socket 1 .encrypted = none ∧
      ((run .socket Sample.start sampleActs).layer .socket).pairs.contains 7 = false := by
  have distinct : (sampleActs.filterMap Act.opened?).Nodup := by decide
  have pairs := faithful_run .socket (.arithmetic 1 1) 30 sampleActs distinct
  refine ⟨distinct, (pairs.shows _ _).trans ?_, (pairs.shows _ _).trans ?_, ?_⟩
  · decide +kernel
  · decide +kernel
  · rw [Bool.eq_false_iff, ne_eq, Sample.start, pairs.contains]
    decide +kernel

end Pairing

end PadRelay
