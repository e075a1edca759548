import Mathlib.Data.List.Induction
import PadRelay.Proofs.Exchange.Entrants
import PadRelay.Proofs.Relay.Run

/-!
# Nothing outlives its connection

In every run of the relay the gateway is sound between acts, and a connection is attached only by
being taken in. So whatever is still kept, a key or an entry in some table, belongs to a connection
that is open.
-/

namespace PadRelay

namespace Script

section Entering

variable (family : Family) (party : Party)

theorem EntryCall.attachesNothing {family : Family} {party : Party} {request : Call}
    (call : EntryCall family party request) : request.AttachesNothing := by
  intro handle identity equal
  cases call <;> cases equal

theorem enter_attaches_nothing (key : ChannelKey) :
    (enter family key party).Only Call.AttachesNothing :=
  (entryCalls_enter family party key).mono fun _ => EntryCall.attachesNothing

theorem join_attaches_nothing (group : String) :
    (join family group party).Only Call.AttachesNothing :=
  (entryCalls_join family party group).mono fun _ => EntryCall.attachesNothing

end Entering

end Script

namespace Desk

section Attaching

variable (desk : Desk) {gateway : Gateway} {handle : Handle}

theorem isAttached_of_accept {party : Party}
    (attached : ((desk.accept party).run gateway).2.IsAttached handle) :
    gateway.IsAttached handle ∨ handle = party.handle := by
  rw [accept] at attached
  simp only [Script.run_bind] at attached
  apply (desk.isAttached_of_attach attached).imp_left
  intro joined
  have entered := Gateway.isAttached_of_run (Script.join_attaches_nothing _ _ _) joined
  exact Gateway.isAttached_of_run (Script.enter_attaches_nothing _ _ _) entered

theorem isAttached_of_bind {key : ChannelKey} {identity : Identity}
    (attached : ((desk.bind key identity).run gateway).2.IsAttached handle) :
    gateway.IsAttached handle := by
  have harmless : (desk.bind key identity).Only Call.AttachesNothing := by
    apply Script.Only.bind (.ask fun _ _ => Call.noConfusion)
    intro party
    cases party with
    | some party =>
        exact .bind (Script.enter_attaches_nothing desk.family party key) fun _ => trivial
    | none => trivial
  exact Gateway.isAttached_of_run harmless attached

end Attaching

end Desk

namespace Gateway

theorem isAttached_of_closeEach {parties : List Party} {gateway : Gateway} {handle : Handle}
    (attached : (gateway.closeEach parties).IsAttached handle) : gateway.IsAttached handle := by
  induction parties generalizing gateway with
  | nil => exact attached
  | cons party parties induction =>
      exact (Spares.close gateway party.handle).attached handle (induction attached)

theorem isAttached_of_shutdown {gateway : Gateway} {handle : Handle}
    (attached : gateway.shutdown.IsAttached handle) : gateway.IsAttached handle := by
  have layers {state : Gateway} (family : Family)
      (attached : (state.shutdownLayer family).IsAttached handle) : state.IsAttached handle :=
    (isAttached_congr (connections_dropState state family) handle).1
      (isAttached_of_closeEach attached)
  refine layers .socket (layers .webSocket ?_)
  rw [shutdown] at attached
  generalize (gateway.shutdownLayer .socket).shutdownLayer .webSocket = state at *
  exact (isAttached_congr rfl handle).1 attached

theorem keeps_shutdown (gateway : Gateway) : gateway.Keeps gateway.shutdown := by
  have layers (state : Gateway) (family : Family) : state.Keeps (state.shutdownLayer family) :=
    (keeps_dropState state family).trans (.closeEach _ _)
  have both := (layers gateway .socket).trans (layers _ .webSocket)
  rw [shutdown]
  generalize (gateway.shutdownLayer .socket).shutdownLayer .webSocket = state at *
  exact both.trans (.of_eq rfl)

/-- Every connection that stands in some table is open. -/
structure Tidy (gateway : Gateway) : Prop where
  /-- A connection under a key is open. -/
  key : ∀ family key party, (gateway.layer family).directory.byKey.get? key = some party →
    gateway.isOpen party.handle = true
  /-- A connection with a list of keys is open. -/
  list : ∀ family id keys, (gateway.layer family).directory.byConnection.get? id = some keys →
    ∃ handle, gateway.idOf? handle = some id ∧ gateway.isOpen handle = true
  /-- A member of a group is open. -/
  member : ∀ family group party, party ∈ (gateway.layer family).directory.members group →
    gateway.isOpen party.handle = true
  /-- A connection in a slot of a pair is open. -/
  slot : ∀ family identity role party, gateway.slot family identity role = some party →
    gateway.isOpen party.handle = true

/-- Only taking a connection in attaches it. -/
theorem isAttached_of_relay {policy : SizePolicy} {gateway : Gateway} {act : Relay.Act}
    {handle : Handle} (attached : (Relay.act policy gateway act).IsAttached handle) :
    gateway.IsAttached handle ∨
      ∃ family, act = .accept family handle ∧ (gateway.idOf? handle).isSome = true := by
  have attending {α : Type} {other : Handle} {handler : Party → Script α}
      (handled : ∀ party, gateway.Knows party →
        ((handler party).run gateway).2.IsAttached handle → gateway.IsAttached handle)
      (attached : (gateway.attend other handler).2.IsAttached handle) :
      gateway.IsAttached handle := by
    refine attend_cases (motive := fun after =>
      after.IsAttached handle → gateway.IsAttached handle) other handler (fun attached => attached)
      (fun party known _ => handled party known) attached
  cases act with
  | occurs occurrence => exact .inl (isAttached_of_undergo attached)
  | accept family other =>
      refine attend_cases (motive := fun after => after.IsAttached handle → _) other
        (Relay.deskOf policy family).accept .inl ?_ attached
      intro party known same attached
      apply (Desk.isAttached_of_accept _ attached).imp_right
      intro equal
      subst same
      subst equal
      have found : gateway.idOf? party.handle = some party.id := known
      exact ⟨family, rfl, by rw [found]; rfl⟩
  | receive family other payload =>
      refine .inl (attending ?_ attached)
      intro party _ attached
      have handled := (Desk.drifts_receive _ party payload gateway).spares.attached handle attached
      exact (Desk.effect_handleClear _ party gateway payload).attached handled
  | request family other payload =>
      exact .inl (attending (fun party known attached =>
        (Desk.effect_handleEncrypted _ party payload gateway known).attached attached) attached)
  | bind family key identity => exact .inl (Desk.isAttached_of_bind _ attached)
  | sendTo family key payload =>
      exact .inl ((drifts_run (Desk.plain_sendTo _ _ _) gateway).spares.attached handle attached)
  | broadcast family group payload except =>
      exact .inl
        ((drifts_run (Desk.plain_broadcast _ _ _ _) gateway).spares.attached handle attached)
  | shutdown => exact .inl (isAttached_of_shutdown attached)

end Gateway

namespace Relay

theorem lists_act {gateway : Gateway} {ids : List Identity} (lists : gateway.Lists ids)
    (policy : SizePolicy) (act : Act) :
    (Relay.act policy gateway act).Lists (ids ++ act.opened?.toList) := by
  cases act with
  | occurs occurrence => exact lists.undergo occurrence
  | accept | receive | request =>
      simpa [Act.opened?, Relay.act] using lists.keeps (gateway.keeps_attend _ _)
  | bind | sendTo | broadcast =>
      simpa [Act.opened?, Relay.act] using lists.keeps (Gateway.keeps_run _ gateway)
  | shutdown => simpa [Act.opened?, Relay.act] using lists.keeps gateway.keeps_shutdown

/-- Acts have taken a connection in: it was there, and one of them accepted it. -/
def Accepted (policy : SizePolicy) (start : Gateway) (acts : List Act) (handle : Handle) : Prop :=
  ∃ before family after, acts = before ++ .accept family handle :: after ∧
    ((run policy start before).idOf? handle).isSome = true

theorem Accepted.append {policy : SizePolicy} {start : Gateway} {acts : List Act}
    {handle : Handle} (accepted : Accepted policy start acts handle) (last : Act) :
    Accepted policy start (acts ++ [last]) handle := by
  obtain ⟨before, family, after, rfl, present⟩ := accepted
  exact ⟨before, family, after ++ [last], by simp, present⟩

/-- What holds between the acts of every run: handles count the connections that were made, the
gateway is sound, and what is attached was accepted. -/
structure Kept (policy : SizePolicy) (start : Gateway) (acts : List Act) : Prop where
  lists : (run policy start acts).Lists (acts.filterMap Act.opened?)
  sound : (run policy start acts).Sound [] none
  accepted : ∀ handle, (run policy start acts).IsAttached handle →
    Accepted policy start acts handle

theorem kept_fresh (policy : SizePolicy) (entropy : Entropy) (expiry : Nat) (acts : List Act) :
    Kept policy (.fresh entropy expiry) acts := by
  induction acts using List.reverseRecOn with
  | nil =>
      refine ⟨Gateway.lists_fresh entropy expiry, Gateway.sound_fresh entropy expiry, ?_⟩
      intro handle attached
      obtain ⟨connection, -, found, -⟩ := attached
      cases found
  | append_singleton acts last induction =>
      refine ⟨?_, ?_, ?_⟩
      · rw [run_append, List.filterMap_append]
        have step := lists_act induction.lists policy last
        cases opened : last.opened? <;> simpa [opened] using step
      · rw [run_append]
        exact induction.sound.relay induction.lists policy last
      · intro handle attached
        rw [run_append] at attached
        rcases Gateway.isAttached_of_relay attached with before | ⟨family, rfl, present⟩
        · exact (induction.accepted handle before).append last
        · exact ⟨acts, family, [], rfl, present⟩

theorem Kept.isOpen {policy : SizePolicy} {start : Gateway} {acts : List Act}
    (kept : Kept policy start acts) (distinct : (acts.filterMap Act.opened?).Nodup)
    {party : Party} (names : (run policy start acts).Names party) (hook : Hook)
    (needs : (run policy start acts).Needs hook) (own : hook.owner = party.id) :
    (run policy start acts).isOpen party.handle = true := by
  have known := kept.sound.knows party names
  exact kept.sound.isOpen_of_needs kept.lists distinct known hook needs own

/-- Nothing outlives its connection. In every run of the relay over connections with distinct
identities, an identity with a key is that of an open connection that was accepted, and every
connection that stands anywhere is open. -/
theorem nothing_outlives_its_connection (policy : SizePolicy) (entropy : Entropy) (expiry : Nat)
    (acts : List Act) (distinct : (acts.filterMap Act.opened?).Nodup) :
    (run policy (.fresh entropy expiry) acts).Tidy ∧
      ∀ identity, ¬ (run policy (.fresh entropy expiry) acts).Keyless identity →
        ∃ handle, (run policy (.fresh entropy expiry) acts).idOf? handle = some identity ∧
          (run policy (.fresh entropy expiry) acts).isOpen handle = true ∧
          Accepted policy (.fresh entropy expiry) acts handle := by
  have kept := kept_fresh policy entropy expiry acts
  refine ⟨⟨?_, ?_, ?_, ?_⟩, ?_⟩
  · intro family key party found
    exact kept.isOpen distinct (.directory (.key found)) (.forget family party.id)
      (.key found rfl) rfl
  · intro family id keys found
    obtain ⟨handle, waits⟩ := kept.sound.exists_waits (.forget family id) (.keys found)
    exact ⟨handle, waits.idOf?_eq, waits.isOpen⟩
  · intro family group party member
    obtain ⟨id, found⟩ := (Directory.mem_members_iff _ _ _).1 member
    have own := (kept.sound.linked family).member found
    exact kept.isOpen distinct (.directory (.member found)) (.forget family party.id)
      (.member (own ▸ found)) rfl
  · intro family identity role party found
    exact kept.isOpen distinct (.slot found)
      (.vacate family identity role party.id) ⟨party, found, rfl⟩ rfl
  · intro identity needs
    obtain ⟨handle, waits⟩ := kept.sound.exists_waits (.dropKeys identity) needs
    exact ⟨handle, waits.idOf?_eq, waits.isOpen, kept.accepted handle waits.isAttached⟩

/-- A client that was accepted and has asked for a key. -/
def sampleActs : List Act :=
  [.occurs (.opens 1 false Sample.remote (.record [] false)),
    .occurs (.opens 2 true Sample.remote (.record [] false)),
    .accept .socket 0,
    .request .socket 1 (Codec.json.encode (.keyRequest (.newKey 1 (some 1))))]

/-- The client of the sample is open. -/
theorem sample_client_isOpen :
    (sampleActs.filterMap Act.opened?).Nodup ∧
      ¬ (run .standard Sample.start sampleActs).Keyless 1 ∧
      ∃ handle, (run .standard Sample.start sampleActs).idOf? handle = some 1 ∧
        (run .standard Sample.start sampleActs).isOpen handle = true ∧
        Accepted .standard Sample.start sampleActs handle := by
  have distinct : (sampleActs.filterMap Act.opened?).Nodup := by decide
  have staged : ¬ (run .standard Sample.start sampleActs).Keyless 1 := by
    rintro ⟨-, absent, -⟩
    have present : (run .standard Sample.start sampleActs).staged.entries.contains 1 = true := by
      decide +kernel
    rw [Table.contains, absent] at present
    cases present
  exact ⟨distinct, staged,
    (nothing_outlives_its_connection .standard _ _ sampleActs distinct).2 1 staged⟩

end Relay

end PadRelay
