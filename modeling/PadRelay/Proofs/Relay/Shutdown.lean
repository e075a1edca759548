import PadRelay.Proofs.Exchange.Phases
import PadRelay.Proofs.Gateway.Vacant
import PadRelay.Proofs.Relay.Audience
import PadRelay.Proofs.Relay.Delivery

/-!
# The shutdown is complete

The shutdown clears the keys and the pairs of one family, closes every connection in the directory
of that family, and then does the same for the other family. In every run of the relay a connection
stands in the directory of the family that accepted it for as long as it is open, so the closes
reach all of them, and a connection that closes takes everything of its own with it. Hence nothing
is left, nothing comes back, and an identity whose clear connection was closed gets no key again.
-/

namespace PadRelay

namespace Gateway

variable {gateway : Gateway} {handle : Handle}

theorem HasClosed.of_keeps {id : Identity} {after : Gateway} (closed : gateway.HasClosed id)
    (keeps : gateway.Keeps after)
    (shut : ∀ handle, gateway.isOpen handle = false → after.isOpen handle = false) :
    after.HasClosed id := by
  obtain ⟨handle, found, closed⟩ := closed
  exact ⟨handle, (keeps.idOf? handle).trans found, shut handle closed⟩

theorem HasClosed.run {α : Type} {id : Identity} (closed : gateway.HasClosed id)
    (script : Script α) : (script.run gateway).2.HasClosed id :=
  closed.of_keeps (keeps_run script gateway) fun _ shut => isOpen_run_of_closed shut script

theorem HasClosed.attend {α : Type} {id : Identity} (closed : gateway.HasClosed id)
    (handle : Handle) (handler : Party → Script α) :
    (gateway.attend handle handler).2.HasClosed id :=
  attend_cases (motive := fun after => after.HasClosed id) handle handler closed
    fun party _ _ => closed.run (handler party)

theorem HasClosed.relay {id : Identity} {ids : List Identity} (closed : gateway.HasClosed id)
    (sound : gateway.Sound [] none) (lists : gateway.Lists ids) (policy : SizePolicy)
    (act : Relay.Act) : (Relay.act policy gateway act).HasClosed id := by
  cases act with
  | occurs occurrence =>
      have revises : gateway.Revises .socket (fun directory => directory)
          (gateway.undergo occurrence) :=
        .undergo sound lists occurrence
      exact revises.hasClosed closed
  | accept family handle => exact closed.attend handle _
  | receive family handle payload => exact closed.attend handle _
  | request family handle payload => exact closed.attend handle _
  | bind family key identity => exact closed.run _
  | sendTo family key payload => exact closed.run _
  | broadcast family group payload except => exact closed.run _
  | shutdown =>
      have revises : gateway.Revises .socket (fun directory => directory)
          gateway.shutdown := .shutdown sound
      exact revises.hasClosed closed

theorem isOpen_close_of_closed (closed : gateway.isOpen handle = false) (other : Handle) :
    (gateway.close other).isOpen handle = false :=
  isOpen_perform_of_closed closed (.close other)

theorem isOpen_closeEach_of_closed (closed : gateway.isOpen handle = false)
    (parties : List Party) : (gateway.closeEach parties).isOpen handle = false := by
  induction parties generalizing gateway with
  | nil => exact closed
  | cons party parties induction => exact induction (isOpen_close_of_closed closed party.handle)

theorem isOpen_closeEach_of_mem {party : Party} {parties : List Party} (member : party ∈ parties) :
    (gateway.closeEach parties).isOpen party.handle = false := by
  induction parties generalizing gateway with
  | nil => cases member
  | cons first parties induction =>
      rcases List.mem_cons.1 member with rfl | later
      · exact isOpen_closeEach_of_closed (gateway.isOpen_close party.handle) parties
      · exact induction later

end Gateway

theorem Directory.Sweeps.names_of_names {κ : Type} [DecidableEq κ] {gone : Identity → Prop}
    {before after : Directory κ} (sweeps : Sweeps gone before after) {party : Party}
    (names : after.Names party) : before.Names party := by
  cases names with
  | key found => exact .key (sweeps.get?.1 found)
  | member found => exact .member (sweeps.member?.1 found)

namespace Gateway

variable {gateway : Gateway} {ids : List Identity}

/-- Closing everyone in a directory leaves nobody there. -/
theorem not_names_closeEach (sound : gateway.Sound [] none) (lists : gateway.Lists ids)
    (distinct : ids.Nodup) (family : Family) (party : Party) :
    ¬ ((gateway.closeEach (gateway.layer family).directory.connections).layer
      family).directory.Names party := by
  intro names
  have revises : gateway.Revises family id
      (gateway.closeEach (gateway.layer family).directory.connections) := .closeEach sound _
  have isOpen := (sound.closeEach _).isOpen_of_names (lists.keeps (.closeEach _ _)) distinct names
  have before : (gateway.layer family).directory.Names party := revises.sweeps.names_of_names names
  obtain ⟨other, listed, same⟩ := Directory.exists_mem_connections before
  -- the one that is closed in its stead has the same identity, so it is the same connection
  have known := sound.knows party (.directory before)
  have known_other :=
    sound.knows other (.directory (Directory.names_of_mem_connections listed))
  obtain rfl := lists.party_eq distinct known_other known same
  rw [isOpen_closeEach_of_mem listed] at isOpen
  cases isOpen

theorem revises_shutdownLayer (sound : gateway.Sound [] none) (family other : Family) :
    gateway.Revises family id (gateway.shutdownLayer other) :=
  (Revises.dropState gateway family other).trans (.closeEach (sound.dropState other) _)

theorem not_names_shutdown (sound : gateway.Sound [] none) (lists : gateway.Lists ids)
    (distinct : ids.Nodup) (family : Family) (party : Party) :
    ¬ (gateway.shutdown.layer family).directory.Names party := by
  have first_sound : (gateway.shutdownLayer .socket).Sound [] none :=
    (sound.dropState .socket).closeEach _
  have first_lists : (gateway.shutdownLayer .socket).Lists ids :=
    lists.keeps ((keeps_dropState gateway .socket).trans (.closeEach _ _))
  have layer : ∀ {state : Gateway} (family : Family), state.Sound [] none → state.Lists ids →
      ¬ ((state.shutdownLayer family).layer family).directory.Names party :=
    fun {state} family sound lists => not_names_closeEach (sound.dropState family)
      (lists.keeps (keeps_dropState state family)) distinct family party
  have both : ¬ (((gateway.shutdownLayer .socket).shutdownLayer .webSocket).layer
      family).directory.Names party := by
    cases family with
    | socket =>
        intro names
        have second := revises_shutdownLayer first_sound .socket .webSocket
        exact layer .socket sound lists (second.sweeps.names_of_names names)
    | webSocket => exact layer .webSocket first_sound first_lists
  rw [shutdown]
  generalize (gateway.shutdownLayer .socket).shutdownLayer .webSocket = state at both
  cases family <;> exact both

theorem unpaired_shutdown (gateway : Gateway) (family : Family) :
    gateway.shutdown.Unpaired family := by
  have layers (state : Gateway) (family : Family) : (state.shutdownLayer family).Unpaired family :=
    (unpaired_dropState state family).closeEach _
  have both : ((gateway.shutdownLayer .socket).shutdownLayer .webSocket).Unpaired family := by
    cases family with
    | socket => exact ((layers gateway .socket).dropState .webSocket).closeEach _
    | webSocket => exact layers _ .webSocket
  rw [shutdown]
  generalize (gateway.shutdownLayer .socket).shutdownLayer .webSocket = state at both
  exact both.of_pairs (by cases family <;> rfl)

theorem keyless_shutdown (gateway : Gateway) (identity : Identity) :
    gateway.shutdown.Keyless identity := by
  rw [shutdown]
  generalize (gateway.shutdownLayer .socket).shutdownLayer .webSocket = state
  exact ⟨rfl, rfl, rfl⟩

theorem Drifts.keeps {before after : Gateway} (drifts : before.Drifts after) :
    before.Keeps after := by
  apply drifts.respects Keeps Keeps.refl (fun _ _ _ => Keeps.trans)
  intro before after stirs
  cases stirs with
  | count family event => exact .of_eq (by simp [count])
  | look identity => exact .of_eq rfl
  | send handle payload => exact .send before handle payload
  | close handle => exact .close before handle
  | occupy family identity known => exact keeps_run _ before

/-- Nobody who has closed is handed a key or loses one. -/
theorem isFailure_of_hasClosed (sound : gateway.Sound [] none) (lists : gateway.Lists ids)
    (distinct : ids.Nodup) (desk : Desk) {party : Party} (known : gateway.Knows party)
    {payload : Bytes} {identity : Identity} (about : desk.target? payload = some identity)
    (closed : gateway.HasClosed identity) :
    ((desk.handleEncrypted party payload).run gateway).1.isFailure = true := by
  -- a key that is there, or that could be handed out, needs a hook on an open connection
  have unpromised {middle : Gateway} (first : gateway.Drifts middle) :
      ¬ middle.Promises [] (.dropKeys identity) := by
    rintro (impossible | ⟨handle, waits⟩)
    · cases impossible
    · have revises : gateway.Revises .socket id middle := .drifts sound first
      obtain ⟨other, found, shut⟩ := closed
      have still : middle.idOf? other = some identity := revises.knows ⟨other, identity⟩ found
      have same := (lists.keeps first.keeps).handle_eq distinct waits.idOf?_eq still
      have isOpen := revises.opened ⟨other, identity⟩ found (same ▸ waits.isOpen)
      rw [shut] at isOpen
      cases isOpen
  have effect := desk.effect_handleEncrypted party payload gateway known
  generalize (desk.handleEncrypted party payload).run gateway = result at effect
  cases effect with
  | idle failure rest => exact failure
  | @issued middle after target requested size key entropy asked allowed first attached drawn last =>
      have own : target = identity := by
        simpa only [Desk.target?, asked, KeyRequest.newKey, Option.some.injEq] using about
      subst own
      exact absurd ((sound.drifts first).promises_of_connectionOf attached) (unpromised first)
  | @deleted middle after target requested key asked first active last =>
      have own : target = identity := by
        simpa only [Desk.target?, asked, Option.some.injEq] using about
      subst own
      refine absurd ((sound.drifts first).promises (.dropKeys target) fun keyless => ?_)
        (unpromised first)
      rw [keyless.1] at active
      cases active

end Gateway

namespace Relay

theorem AcceptedBy.append {policy : SizePolicy} {family : Family} {start : Gateway}
    {acts : List Act} {party : Party} (accepted : AcceptedBy policy family start acts party)
    (later : List Act) : AcceptedBy policy family start (acts ++ later) party := by
  obtain ⟨earlier, rest, rfl, known⟩ := accepted
  exact ⟨earlier, rest ++ later, by simp, known⟩

/-- What becomes of a request that comes over a connection of a family. -/
def requested (policy : SizePolicy) (gateway : Gateway) (family : Family) (handle : Handle)
    (payload : Bytes) : Option EncryptedOutcome :=
  (gateway.attend handle fun party => (deskOf policy family).handleEncrypted party payload).1

/-- The relay has come to an end with a shutdown after some acts. -/
structure Ends (policy : SizePolicy) (start : Gateway) (acts : List Act) : Prop where
  /-- There is no active, staged or retired key, no pair, no registered key and no group. -/
  vacant : (run policy start (acts ++ [.shutdown])).Vacant
  /-- Every connection that was ever accepted is closed. -/
  closed : ∀ family party, AcceptedBy policy family start acts party →
    (run policy start (acts ++ [.shutdown])).isOpen party.handle = false
  /-- Whatever happens around the handlers, nothing comes back and no key expires. -/
  still : ∀ occurrences : List Occurrence,
    (run policy start (acts ++ .shutdown :: occurrences.map .occurs)).Vacant ∧
      (run policy start (acts ++ .shutdown :: occurrences.map .occurs)).staged.expired =
        (run policy start (acts ++ [.shutdown])).staged.expired
  /-- Whatever comes later, no request for an identity that was accepted is granted. -/
  refused : ∀ later : List Act, ((acts ++ .shutdown :: later).filterMap Act.opened?).Nodup →
    ∀ home party, AcceptedBy policy home start acts party →
      ∀ family payload, (deskOf policy family).target? payload = some party.id →
        ∀ handle,
          requested policy (run policy start (acts ++ .shutdown :: later)) family handle payload ≠
              some .keyIssued ∧
            requested policy (run policy start (acts ++ .shutdown :: later)) family handle
              payload ≠ some .keyDeleted

theorem isFailure_of_requested {policy : SizePolicy} {gateway : Gateway} {ids : List Identity}
    (sound : gateway.Sound [] none) (lists : gateway.Lists ids) (distinct : ids.Nodup)
    {family : Family} {handle : Handle} {payload : Bytes} {identity : Identity}
    (about : (deskOf policy family).target? payload = some identity)
    (closed : gateway.HasClosed identity) {outcome : EncryptedOutcome}
    (result : requested policy gateway family handle payload = some outcome) :
    outcome.isFailure = true := by
  rw [requested] at result
  cases found : gateway.idOf? handle with
  | none =>
      rw [Gateway.attend_of_absent found] at result
      cases result
  | some id =>
      have known : gateway.Knows ⟨handle, id⟩ := found
      rw [Gateway.attend_of_knows known] at result
      obtain rfl := Option.some.inj result
      exact Gateway.isFailure_of_hasClosed sound lists distinct _ known about closed

section Ends

theorem nodup_opened_shutdown {acts : List Act} (distinct : (acts.filterMap Act.opened?).Nodup) :
    ((acts ++ [Act.shutdown]).filterMap Act.opened?).Nodup := by
  have same : (acts ++ [Act.shutdown]).filterMap Act.opened? = acts.filterMap Act.opened? := by
    rw [List.filterMap_append]
    exact List.append_nil _
  rwa [same]

variable (policy : SizePolicy) (entropy : Entropy) (expiry : Nat) (acts : List Act)

theorem not_names_run_shutdown (distinct : (acts.filterMap Act.opened?).Nodup) (family : Family)
    (party : Party) :
    ¬ ((run policy (.fresh entropy expiry) (acts ++ [.shutdown])).layer
      family).directory.Names party := by
  have before := kept_fresh policy entropy expiry acts
  rw [run_append]
  exact Gateway.not_names_shutdown before.sound before.lists distinct family party

theorem vacant_run_shutdown (distinct : (acts.filterMap Act.opened?).Nodup) :
    (run policy (.fresh entropy expiry) (acts ++ [.shutdown])).Vacant where
  keyless identity := by
    rw [run_append]
    exact Gateway.keyless_shutdown _ identity
  unpaired family := by
    rw [run_append]
    exact Gateway.unpaired_shutdown _ family
  directory family := by
    have listed := nodup_opened_shutdown distinct
    exact (logged_run policy family entropy expiry _ listed).indexed.vacant fun party =>
      not_names_run_shutdown policy entropy expiry acts distinct family party

variable {policy entropy expiry acts}

theorem isOpen_run_shutdown (distinct : (acts.filterMap Act.opened?).Nodup) {family : Family}
    {party : Party} (accepted : AcceptedBy policy family (.fresh entropy expiry) acts party) :
    (run policy (.fresh entropy expiry) (acts ++ [.shutdown])).isOpen party.handle = false := by
  by_contra isOpen
  have member := (mem_everyone_iff (nodup_opened_shutdown distinct)).2
    ⟨eq_true_of_ne_false isOpen, accepted.append [.shutdown]⟩
  obtain ⟨id, found⟩ := (Directory.mem_members_iff _ _ _).1 member
  exact not_names_run_shutdown policy entropy expiry acts distinct family party (.member found)

/-- An identity whose connection a shutdown closed has closed for good. -/
theorem hasClosed_run (distinct : (acts.filterMap Act.opened?).Nodup) {family : Family}
    {party : Party} (accepted : AcceptedBy policy family (.fresh entropy expiry) acts party)
    (later : List Act) :
    (run policy (.fresh entropy expiry) (acts ++ .shutdown :: later)).HasClosed party.id := by
  induction later using List.reverseRecOn with
  | nil =>
      have listed := nodup_opened_shutdown distinct
      exact ⟨party.handle, (accepted.append [.shutdown]).knows listed,
        isOpen_run_shutdown distinct accepted⟩
  | append_singleton later last induction =>
      have before := kept_fresh policy entropy expiry (acts ++ .shutdown :: later)
      rw [← List.cons_append, ← List.append_assoc, run_append]
      exact induction.relay before.sound before.lists policy last

theorem vacant_run_occurs {start : Gateway} (vacant : start.Vacant)
    (occurrences : List Occurrence) :
    (run policy start (occurrences.map .occurs)).Vacant ∧
      (run policy start (occurrences.map .occurs)).staged.expired = start.staged.expired := by
  induction occurrences generalizing start with
  | nil => exact ⟨vacant, rfl⟩
  | cons occurrence occurrences induction =>
      obtain ⟨first, same⟩ := vacant.undergo occurrence
      obtain ⟨rest, still⟩ := induction first
      exact ⟨rest, still.trans same⟩

/-- Shutdown is complete. After every run of the relay over connections with distinct identities it
leaves no key, no pair, no registered key and no group, and every connection that was accepted is
closed; later timers, clocks and closes bring nothing back and let nothing expire, and later
requests for those connections are not granted. -/
theorem ends_of_shutdown (policy : SizePolicy) (entropy : Entropy) (expiry : Nat)
    (acts : List Act) (distinct : (acts.filterMap Act.opened?).Nodup) :
    Ends policy (.fresh entropy expiry) acts where
  vacant := vacant_run_shutdown policy entropy expiry acts distinct
  closed family party accepted := isOpen_run_shutdown distinct accepted
  still occurrences := by
    have split : run policy (.fresh entropy expiry) (acts ++ .shutdown :: occurrences.map .occurs) =
        run policy (run policy (.fresh entropy expiry) (acts ++ [.shutdown]))
          (occurrences.map .occurs) := by
      simp [run]
    rw [split]
    exact vacant_run_occurs (vacant_run_shutdown policy entropy expiry acts distinct) occurrences
  refused later distinct_later home party accepted family payload about handle := by
    have kept := kept_fresh policy entropy expiry (acts ++ .shutdown :: later)
    have closed := hasClosed_run distinct accepted later
    have failing {outcome : EncryptedOutcome} (result : requested policy
        (run policy (.fresh entropy expiry) (acts ++ .shutdown :: later)) family handle payload =
          some outcome) : outcome.isFailure = true :=
      isFailure_of_requested kept.sound kept.lists distinct_later about closed result
    constructor
    · intro issued
      cases failing issued
    · intro deleted
      cases failing deleted

end Ends

/-- The client of the sample has a staged key until the shutdown. -/
theorem sample_ends :
    (sampleActs.filterMap Act.opened?).Nodup ∧
      AcceptedBy .standard .socket Sample.start sampleActs ⟨0, 1⟩ ∧
      ¬ (run .standard Sample.start sampleActs).Keyless 1 ∧
      Ends .standard Sample.start sampleActs := by
  have distinct : (sampleActs.filterMap Act.opened?).Nodup := by decide
  have accepted : AcceptedBy .standard .socket Sample.start sampleActs ⟨0, 1⟩ :=
    ⟨sampleActs.take 2, sampleActs.drop 3, rfl, rfl⟩
  refine ⟨distinct, accepted, ?_, ends_of_shutdown .standard _ _ sampleActs distinct⟩
  rintro ⟨-, absent, -⟩
  have present : (run .standard Sample.start sampleActs).staged.entries.contains 1 = true := by
    decide +kernel
  rw [Table.contains, absent] at present
  cases present

end Relay

end PadRelay
