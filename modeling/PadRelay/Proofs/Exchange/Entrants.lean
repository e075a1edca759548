import PadRelay.Proofs.Exchange.Reach
import PadRelay.Proofs.Gateway.Idle
import PadRelay.Proofs.Gateway.Sweep
import PadRelay.Proofs.Gather

/-!
# The clear channels of a run

A clear channel is a connection that an act took in and that has not closed since. Just these
connections are attached: their close, and no other, drops the keys of an identity.
-/

namespace PadRelay

/-- The connection that an act takes in. -/
def Act.entrant? (gateway : Gateway) : Act → Option Party
  | .attach handle => (gateway.idOf? handle).map fun id => ⟨handle, id⟩
  | _ => none

namespace Desk

variable (desk : Desk)

/-- The connections that the acts of a run take in, in this order. -/
def entrants : Gateway → List Act → List Party :=
  gather (fun gateway act => (desk.act gateway act).2) fun gateway act =>
    (act.entrant? gateway).toList

theorem entrants_append (start : Gateway) (acts : List Act) (last : Act) :
    desk.entrants start (acts ++ [last]) =
      desk.entrants start acts ++ (last.entrant? (desk.run start acts)).toList :=
  gather_append _ _ _ _ _

section Act

variable {gateway : Gateway} {handle : Handle} {party : Party}

theorem isAttached_of_attach
    (attached : ((desk.attach party).run gateway).2.IsAttached handle) :
    gateway.IsAttached handle ∨ handle = party.handle := by
  rw [attach] at attached
  simp only [Script.run_bind] at attached
  have registered := (Gateway.drifts_run (desk.plain_reply party (.welcome party.id))
    _).spares.attached handle attached
  exact (Gateway.isAttached_of_onClose registered).imp_left fun paired =>
    (Gateway.Spares.occupy gateway desk.family party.id .clear party).attached handle paired

theorem isAttached_attach (known : gateway.Knows party)
    (isOpen : ((desk.attach party).run gateway).2.isOpen party.handle = true) :
    ((desk.attach party).run gateway).2.IsAttached party.handle := by
  let paired := ((Script.setClear desk.family party.id party).run gateway).2
  let watched := paired.onClose party.handle (.dropKeys party.id)
  have ran : ((desk.attach party).run gateway).2 =
      ((desk.reply party (.welcome party.id)).run watched).2 := by
    rw [attach, Script.run_bind, Script.run_bind]
    rfl
  rw [ran] at isOpen ⊢
  have was_open : watched.isOpen party.handle = true := by
    refine eq_true_of_ne_false fun closed => ?_
    rw [Gateway.isOpen_run_of_closed closed] at isOpen
    cases isOpen
  have listed : paired.Knows party := ((Gateway.keeps_run _ gateway).knows party).2 known
  exact (Gateway.waits_onClose listed rfl was_open).isAttached.run _ isOpen

theorem knows_of_entrant? {act : Act} (enters : act.entrant? gateway = some party) :
    gateway.Knows party := by
  cases act with
  | attach handle =>
      obtain ⟨id, found, rfl⟩ := Option.map_eq_some_iff.1 enters
      exact found
  | occurs | clear | encrypted | shutdown => cases enters

theorem isAttached_of_act {act : Act} (attached : (desk.act gateway act).2.IsAttached handle) :
    gateway.IsAttached handle ∨ ∃ party, act.entrant? gateway = some party ∧
      party.handle = handle := by
  cases act with
  | occurs occurrence => exact .inl (Gateway.isAttached_of_undergo attached)
  | attach other =>
      refine Gateway.attend_cases (motive := fun after => after.IsAttached handle → _) other
        desk.attach .inl ?_ attached
      rintro party known rfl attached
      refine (desk.isAttached_of_attach attached).imp_right fun same => ⟨party, ?_, same.symm⟩
      have found : gateway.idOf? party.handle = some party.id := known
      rw [Act.entrant?, found]
      rfl
  | clear other payload =>
      refine .inl (Gateway.attend_cases (motive := fun after => after.IsAttached handle → _) other
        (fun party => desk.handleClear party payload) id ?_ attached)
      intro party _ _ attached
      exact (desk.effect_handleClear party gateway payload).attached attached
  | encrypted other payload =>
      refine .inl (Gateway.attend_cases (motive := fun after => after.IsAttached handle → _) other
        (fun party => desk.handleEncrypted party payload) id ?_ attached)
      intro party known _ attached
      exact (desk.effect_handleEncrypted party payload gateway known).attached attached
  | shutdown =>
      exact .inl ((Gateway.isAttached_congr (gateway.connections_dropState desk.family) _).1
        attached)

/-- No act detaches a channel that it leaves open. -/
theorem isAttached_act {ids : List Identity} (lists : gateway.Lists ids)
    (attached : gateway.IsAttached handle) (act : Act)
    (isOpen : (desk.act gateway act).2.isOpen handle = true) :
    (desk.act gateway act).2.IsAttached handle := by
  have attending {α : Type} (other : Handle) (handler : Party → Script α) :
      (gateway.attend other handler).2.isOpen handle = true →
        (gateway.attend other handler).2.IsAttached handle :=
    Gateway.attend_cases (motive := fun after => after.isOpen handle = true →
      after.IsAttached handle) other handler (fun _ => attached) fun party _ _ isOpen =>
        attached.run (handler party) isOpen
  cases act with
  | occurs occurrence => exact attached.undergo lists occurrence isOpen
  | attach other => exact attending other desk.attach isOpen
  | clear other payload =>
      exact attending other (fun party => desk.handleClear party payload) isOpen
  | encrypted other payload =>
      exact attending other (fun party => desk.handleEncrypted party payload) isOpen
  | shutdown =>
      exact (Gateway.isAttached_congr (gateway.connections_dropState desk.family) _).2 attached

theorem isOpen_of_act {ids : List Identity} (sound : gateway.Sound [] none)
    (lists : gateway.Lists ids) (known : gateway.Knows party) {act : Act}
    (isOpen : (desk.act gateway act).2.isOpen party.handle = true) :
    gateway.isOpen party.handle = true := by
  have attending {α : Type} (other : Handle) (handler : Party → Script α) :
      (gateway.attend other handler).2.isOpen party.handle = true →
        gateway.isOpen party.handle = true :=
    Gateway.attend_cases (motive := fun after => after.isOpen party.handle = true →
      gateway.isOpen party.handle = true) other handler id fun entering _ _ isOpen =>
        eq_true_of_ne_false fun closed => by
          rw [Gateway.isOpen_run_of_closed closed] at isOpen
          cases isOpen
  cases act with
  | occurs occurrence =>
      have revises : gateway.Revises desk.family (fun directory => directory)
          (gateway.undergo occurrence) :=
        .undergo sound lists occurrence
      exact revises.opened party known isOpen
  | attach other => exact attending other desk.attach isOpen
  | clear other payload =>
      exact attending other (fun party => desk.handleClear party payload) isOpen
  | encrypted other payload =>
      exact attending other (fun party => desk.handleEncrypted party payload) isOpen
  | shutdown =>
      rwa [Desk.act, Gateway.isOpen_congr (gateway.connections_dropState desk.family)] at isOpen

theorem isAttached_of_entrant? {act : Act} (enters : act.entrant? gateway = some party)
    (isOpen : (desk.act gateway act).2.isOpen party.handle = true) :
    (desk.act gateway act).2.IsAttached party.handle := by
  cases act with
  | attach handle =>
      have known := knows_of_entrant? enters
      obtain ⟨id, -, rfl⟩ := Option.map_eq_some_iff.1 enters
      simp only [Desk.act, Gateway.attend_of_knows known] at isOpen ⊢
      exact desk.isAttached_attach known isOpen
  | occurs | clear | encrypted | shutdown => cases enters

end Act

variable (entropy : Entropy) (expiry : Nat) (acts : List Act)

theorem knows_of_mem_entrants {party : Party}
    (member : party ∈ desk.entrants (.fresh entropy expiry) acts) :
    (desk.run (.fresh entropy expiry) acts).Knows party := by
  induction acts using List.reverseRecOn with
  | nil => cases member
  | append_singleton acts last induction =>
      rw [entrants_append, List.mem_append, Option.mem_toList] at member
      rw [run_append]
      exact desk.knows_act (desk.reached_run entropy expiry acts) last
        (member.elim induction knows_of_entrant?)

/-- The attached connections are those that were taken in and are open. -/
theorem isAttached_run_iff (handle : Handle) :
    (desk.run (.fresh entropy expiry) acts).IsAttached handle ↔
      (∃ party ∈ desk.entrants (.fresh entropy expiry) acts, party.handle = handle) ∧
        (desk.run (.fresh entropy expiry) acts).isOpen handle = true := by
  constructor
  · refine fun attached => ⟨?_, attached.isOpen⟩
    induction acts using List.reverseRecOn with
    | nil =>
        obtain ⟨connection, -, found, -⟩ := attached
        cases found
    | append_singleton acts last induction =>
        rw [run_append] at attached
        rw [entrants_append]
        rcases desk.isAttached_of_act attached with before | ⟨party, enters, same⟩
        · obtain ⟨party, member, same⟩ := induction before
          exact ⟨party, List.mem_append_left _ member, same⟩
        · exact ⟨party, List.mem_append_right _ (Option.mem_toList.2 enters), same⟩
  · rintro ⟨⟨party, member, rfl⟩, isOpen⟩
    induction acts using List.reverseRecOn with
    | nil => cases member
    | append_singleton acts last induction =>
        have reached := desk.reached_run entropy expiry acts
        rw [run_append] at isOpen ⊢
        rw [entrants_append, List.mem_append, Option.mem_toList] at member
        rcases member with before | enters
        · have known := desk.knows_of_mem_entrants entropy expiry acts before
          have was_open := desk.isOpen_of_act reached.sound reached.lists known isOpen
          exact desk.isAttached_act reached.lists (induction before was_open) last isOpen
        · exact desk.isAttached_of_entrant? enters isOpen

/-- Just the close of the clear channel of an identity drops its keys. -/
theorem waits_run_iff (party : Party) :
    (desk.run (.fresh entropy expiry) acts).Waits party.handle (.dropKeys party.id) ↔
      party ∈ desk.entrants (.fresh entropy expiry) acts ∧
        (desk.run (.fresh entropy expiry) acts).isOpen party.handle = true := by
  have attached_iff := desk.isAttached_run_iff entropy expiry acts party.handle
  have own := (desk.reached_run entropy expiry acts).sound.own
  have knows := @knows_of_mem_entrants desk entropy expiry acts
  generalize desk.run (.fresh entropy expiry) acts = gateway at *
  constructor
  · intro waits
    obtain ⟨⟨entrant, member, same⟩, isOpen⟩ := attached_iff.1 waits.isAttached
    have known : gateway.idOf? entrant.handle = some entrant.id := knows member
    rw [same, waits.idOf?_eq] at known
    obtain ⟨handle, id⟩ := entrant
    cases same
    cases known
    exact ⟨member, isOpen⟩
  · rintro ⟨member, isOpen⟩
    obtain ⟨connection, identity, found, still_open, waiting⟩ :=
      attached_iff.2 ⟨⟨party, member, rfl⟩, isOpen⟩
    have known : gateway.idOf? party.handle = some party.id := knows member
    rw [Gateway.idOf?, found, Option.map_some, Option.some.injEq] at known
    -- a connection that is attached drops the keys of its own identity
    have same : identity = party.id := (own _ _ found _ waiting).trans known
    subst same
    exact ⟨connection, found, known, still_open, waiting⟩

end Desk

end PadRelay
