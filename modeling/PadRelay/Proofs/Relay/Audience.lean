import PadRelay.Proofs.Gateway.Log
import PadRelay.Proofs.Gather
import PadRelay.Proofs.Relay.Cleanup

/-!
# The audience

Taking a connection in enters it under its identity and puts it into the group of everyone, and
binding enters it under further keys; nothing else that the relay does is an edit of a directory. So
the members of that group are the connections that were accepted and are open, and each of them is
found under its identity.
-/

namespace PadRelay

open Directory (Edit)

namespace Gateway.Revises

variable {gateway : Gateway} {family : Family} {party : Party}

theorem attach (sound : gateway.Sound [] none) (desk : Desk) (known : gateway.Knows party) :
    gateway.Revises family id ((desk.attach party).run gateway).2 := by
  have paired : gateway.Revises family id
      ((Script.setClear desk.family party.id party).run gateway).2 := occupy known _ _ _
  have registered : gateway.Revises family id
      (((Script.setClear desk.family party.id party).run gateway).2.onClose party.handle
        (.dropKeys party.id)) := paired.trans (onClose (paired.knows party known) rfl)
  rw [Desk.attach]
  simp only [Script.run_bind]
  exact registered.trans (drifts (sound.pair desk.family known)
    (drifts_run (desk.plain_reply party (.welcome party.id)) _))

theorem moved {before middle after : Gateway} (sound : before.Sound [] none)
    (first : before.Drifts middle) {changed : Gateway} (keys : changed.Sound [] none)
    (connections : changed.connections = middle.connections)
    (layers : ∀ family, changed.layer family = middle.layer family)
    (last : changed.Drifts after) : before.Revises family id after :=
  have same : middle.Revises family id changed :=
    of_same connections (by rw [layers]) (by rw [layers]; rfl)
  ((drifts sound first).trans same).trans (drifts keys last)

theorem handleClear (sound : gateway.Sound [] none) (desk : Desk) (party : Party)
    (payload : Bytes) :
    gateway.Revises family id ((desk.handleClear party payload).run gateway).2 := by
  have effect := desk.effect_handleClear party gateway payload
  generalize (desk.handleClear party payload).run gateway = result at effect
  cases effect with
  | idle quiet rest => exact drifts sound rest
  | activated first found inTime last =>
      exact moved sound first ((sound.drifts first).promote found) rfl
        (fun family => by cases family <;> rfl) last
  | deleted first active last =>
      exact moved sound first ((sound.drifts first).deactivate party.id) rfl
        (fun family => by cases family <;> rfl) last

theorem receive (sound : gateway.Sound [] none) (desk : Desk) (party : Party) (payload : Bytes) :
    gateway.Revises family id ((desk.receive party payload).run gateway).2 :=
  (handleClear sound desk party payload).trans
    (drifts (sound.handleClear desk party payload) (desk.drifts_receive party payload gateway))

theorem handleEncrypted (sound : gateway.Sound [] none) (desk : Desk)
    (known : gateway.Knows party) (payload : Bytes) :
    gateway.Revises family id ((desk.handleEncrypted party payload).run gateway).2 := by
  have effect := desk.effect_handleEncrypted party payload gateway known
  generalize (desk.handleEncrypted party payload).run gateway = result at effect
  cases effect with
  | idle failure rest => exact drifts sound rest
  | issued asked allowed first attached drawn last =>
      have middle := sound.drifts first
      exact moved sound first (middle.stageNew (middle.promises_of_connectionOf attached) _ _) rfl
        (fun family => by cases family <;> rfl) last
  | deleted asked first active last =>
      exact moved sound first ((sound.drifts first).deactivate _) rfl
        (fun family => by cases family <;> rfl) last

theorem dropState (gateway : Gateway) (family other : Family) :
    gateway.Revises family id (gateway.dropState other) := by
  refine of_same (connections_dropState gateway other) ?_ ?_
  · simp only [Gateway.dropState, layer_modifyLayer]
    split <;> cases family <;> rfl
  · simp only [Gateway.dropState, layer_modifyLayer]
    split <;> cases family <;> rfl

theorem shutdown (sound : gateway.Sound [] none) : gateway.Revises family id gateway.shutdown := by
  have layers {state : Gateway} (sound : state.Sound [] none) (other : Family) :
      state.Revises family id (state.shutdownLayer other) :=
    (dropState state family other).trans (closeEach (sound.dropState other) _)
  have first : (gateway.shutdownLayer .socket).Sound [] none :=
    (sound.dropState .socket).closeEach _
  have both := (layers sound .socket).trans (layers first .webSocket)
  rw [Gateway.shutdown]
  generalize (gateway.shutdownLayer .socket).shutdownLayer .webSocket = state at both
  exact both.trans (of_same rfl (by cases family <;> rfl) (by cases family <;> rfl))

end Gateway.Revises

namespace Relay

/-- The edits that an act asks of the directory of a family. -/
def edits (family : Family) (gateway : Gateway) : Act → List (Edit ChannelKey)
  | .accept other handle =>
      if other = family then
        match gateway.idOf? handle with
        | some id => [.put (.identity id) ⟨handle, id⟩, .join everyone ⟨handle, id⟩]
        | none => []
      else []
  | .bind other key identity =>
      if other = family then
        match (gateway.layer family).directory.get? (.identity identity) with
        | some party => [.put key party]
        | none => []
      else []
  | _ => []

/-- The edits that the acts of a run ask of the directory of a family, in order. -/
def log (policy : SizePolicy) (family : Family) : Gateway → List Act → List (Edit ChannelKey) :=
  gather (act policy) (edits family)

section Step

variable {gateway : Gateway} {family : Family} {ids : List Identity}
  {log : List (Edit ChannelKey)}

theorem revises_accept_of_ne {other : Family} (different : family ≠ other) (policy : SizePolicy)
    (sound : gateway.Sound [] none) {party : Party} (known : gateway.Knows party) :
    gateway.Revises family id (((deskOf policy other).accept party).run gateway).2 := by
  rw [Desk.accept]
  simp only [Script.run_bind]
  have entered : gateway.Revises family id
      ((Script.enter other (.identity party.id) party).run gateway).2 :=
    .enter_of_ne different known _
  have entered_sound := sound.enter other (.identity party.id) known
  have known_entered := entered.knows party known
  have joined := entered.trans (.join_of_ne different known_entered everyone)
  exact joined.trans (.attach (entered_sound.join other everyone known_entered)
    (deskOf policy other) (joined.knows party known))

theorem revises_bind_of_ne {other : Family} (different : family ≠ other) (policy : SizePolicy)
    (sound : gateway.Sound [] none) (key : ChannelKey) (identity : Identity) :
    gateway.Revises family id (((deskOf policy other).bind key identity).run gateway).2 := by
  rw [Desk.bind, Script.run_bind, Script.run_ask]
  split
  · next party found =>
      have known := sound.knows party (.directory (.key found))
      rw [Script.run_bind, Script.run_pure]
      exact .enter_of_ne different known key
  · exact .refl gateway

theorem logged_accept (logged : gateway.Logged family log) (policy : SizePolicy)
    (sound : gateway.Sound [] none) (lists : gateway.Lists ids) (distinct : ids.Nodup)
    {party : Party} (known : gateway.Knows party) :
    (((deskOf policy family).accept party).run gateway).2.Logged family
      (log ++ [.put (.identity party.id) party, .join everyone party]) := by
  rw [Desk.accept]
  simp only [Script.run_bind]
  have entered := sound.enter family (.identity party.id) known
  have entered_lists := lists.keeps
    (Gateway.keeps_run (Script.enter family (.identity party.id) party) gateway)
  have put := logged.edit (.put (.identity party.id) party)
    (fun other found => Option.some.inj found ▸ known) (.enter known _) entered entered_lists
    distinct
  have known_entered := put.knows _ (List.mem_append_right _ List.mem_cons_self) party rfl
  have joined := entered.join family everyone known_entered
  have joined_lists := entered_lists.keeps
    (Gateway.keeps_run (Script.join family everyone party) _)
  have member := put.edit (.join everyone party)
    (fun other found => Option.some.inj found ▸ known_entered) (.join known_entered _) joined
    joined_lists distinct
  have known_joined := member.knows _ (List.mem_append_right _ List.mem_cons_self) party rfl
  rw [List.append_assoc] at member
  exact member.keep (.attach joined (deskOf policy family) known_joined)
    (joined.attach (deskOf policy family) known_joined)
    (joined_lists.keeps (Gateway.keeps_run ((deskOf policy family).attach party) _)) distinct

/-- Binding a connection enters it under the key, if it is found under its identity. -/
theorem logged_bind (logged : gateway.Logged family log) (policy : SizePolicy)
    (sound : gateway.Sound [] none) (lists : gateway.Lists ids) (distinct : ids.Nodup)
    (key : ChannelKey) (identity : Identity) :
    (((deskOf policy family).bind key identity).run gateway).2.Logged family
      (log ++ edits family gateway (.bind family key identity)) := by
  rw [edits, if_pos rfl, Desk.bind, Script.run_bind, Script.run_ask]
  have looked : (gateway.perform (.lookup family (.identity identity))) =
      ((gateway.layer family).directory.get? (.identity identity), gateway) := rfl
  simp only [deskOf, looked]
  cases found : (gateway.layer family).directory.get? (.identity identity) with
  | none =>
      rw [List.append_nil]
      exact logged
  | some party =>
      have known := sound.knows party (.directory (.key found))
      dsimp only
      rw [Script.run_bind, Script.run_pure]
      exact logged.edit (.put key party) (fun other same => Option.some.inj same ▸ known)
        (.enter known key) (sound.enter family key known)
        (lists.keeps (Gateway.keeps_run _ gateway)) distinct

theorem revises_attend {α : Type} (handle : Handle) {handler : Party → Script α}
    (handled : ∀ party, gateway.Knows party →
      gateway.Revises family id ((handler party).run gateway).2) :
    gateway.Revises family id (gateway.attend handle handler).2 :=
  Gateway.attend_cases (motive := fun after => gateway.Revises family id after) handle handler
    (.refl gateway) fun party known _ => handled party known

/-- Every act adds the edits that it asks for to the log. -/
theorem logged_act (logged : gateway.Logged family log) (policy : SizePolicy)
    (sound : gateway.Sound [] none) (lists : gateway.Lists ids) (act : Act)
    (distinct : (ids ++ act.opened?.toList).Nodup) :
    (Relay.act policy gateway act).Logged family (log ++ edits family gateway act) := by
  have keep (unasked : edits family gateway act = [])
      (revises : gateway.Revises family id (Relay.act policy gateway act)) :
      (Relay.act policy gateway act).Logged family (log ++ edits family gateway act) := by
    rw [unasked, List.append_nil]
    exact logged.keep revises (sound.relay lists policy act) (lists_act lists policy act) distinct
  have distinct_before := distinct.sublist (List.sublist_append_left ids _)
  cases act with
  | occurs occurrence => exact keep rfl (.undergo sound lists occurrence)
  | accept other handle =>
      by_cases same : other = family
      · subst same
        cases found : gateway.idOf? handle with
        | none =>
            simp only [edits, found, if_true, List.append_nil]
            rw [Relay.act, Gateway.attend_of_absent found]
            exact logged
        | some id =>
            have known : gateway.Knows ⟨handle, id⟩ := found
            simp only [edits, found, if_true]
            rw [Relay.act, Gateway.attend_of_knows known]
            exact logged_accept logged policy sound lists distinct_before known
      · exact keep (if_neg same) (revises_attend handle fun party known =>
          revises_accept_of_ne (Ne.symm same) policy sound known)
  | receive other handle payload =>
      exact keep rfl (revises_attend handle fun party _ => .receive sound _ party payload)
  | request other handle payload =>
      exact keep rfl (revises_attend handle fun party known =>
        .handleEncrypted sound _ known payload)
  | bind other key identity =>
      by_cases same : other = family
      · subst same
        exact logged_bind logged policy sound lists distinct_before key identity
      · exact keep (if_neg same) (revises_bind_of_ne (Ne.symm same) policy sound key identity)
  | sendTo other key payload =>
      exact keep rfl (.drifts sound (Gateway.drifts_run (Desk.plain_sendTo _ key payload) gateway))
  | broadcast other group payload except =>
      exact keep rfl (.drifts sound
        (Gateway.drifts_run (Desk.plain_broadcast _ group payload except) gateway))
  | shutdown => exact keep rfl (.shutdown sound)

end Step

variable (policy : SizePolicy) (family : Family) (entropy : Entropy) (expiry : Nat)

/-- In every run of the relay the directory of a family holds what its log says. -/
theorem logged_run (acts : List Act) (distinct : (acts.filterMap Act.opened?).Nodup) :
    (run policy (.fresh entropy expiry) acts).Logged family
      (log policy family (.fresh entropy expiry) acts) := by
  induction acts using List.reverseRecOn with
  | nil => exact .fresh entropy expiry family
  | append_singleton acts last induction =>
      have ids : (acts ++ [last]).filterMap Act.opened? =
          acts.filterMap Act.opened? ++ last.opened?.toList := List.filterMap_append
      rw [ids] at distinct
      have before := kept_fresh policy entropy expiry acts
      have earlier := induction (distinct.sublist (List.sublist_append_left _ _))
      rw [run_append, log, gather_append]
      exact logged_act earlier policy before.sound before.lists last distinct

/-- A connection was taken in by the listeners of a family. -/
def AcceptedBy (start : Gateway) (acts : List Act) (party : Party) : Prop :=
  ∃ earlier later, acts = earlier ++ .accept family party.handle :: later ∧
    (run policy start earlier).Knows party

/-- No connection is entered under an identity but by being taken in. -/
def Act.NamesUsers : Act → Prop
  | .bind _ (.identity _) _ => False
  | _ => True

section Edits

variable {gateway : Gateway} {act : Act} {edit : Edit ChannelKey}

/-- Whatever is asked for is to enter a connection or to make it one of everyone. -/
theorem edits_cases (member : edit ∈ edits family gateway act) :
    (∃ party, gateway.Knows party ∧ act = .accept family party.handle ∧
        (edit = .put (.identity party.id) party ∨ edit = .join everyone party)) ∨
      ∃ key identity party, act = .bind family key identity ∧ edit = .put key party := by
  cases act with
  | accept other handle =>
      by_cases same : other = family
      · subst same
        cases found : gateway.idOf? handle with
        | none => simp [edits, found] at member
        | some id =>
            simp only [edits, found, if_true, List.mem_cons, List.not_mem_nil, or_false] at member
            exact .inl ⟨⟨handle, id⟩, found, rfl, member⟩
      · simp [edits, same] at member
  | bind other key identity =>
      by_cases same : other = family
      · subst same
        simp only [edits, if_true] at member
        split at member
        · next party found => exact .inr ⟨key, identity, party, rfl, List.mem_singleton.1 member⟩
        · cases member
      · simp [edits, same] at member
  | _ => cases member

theorem edits_accept {party : Party} (known : gateway.Knows party) :
    edits family gateway (.accept family party.handle) =
      [.put (.identity party.id) party, .join everyone party] := by
  have found : gateway.idOf? party.handle = some party.id := known
  simp [edits, found]

end Edits

section Log

variable {policy family} {start : Gateway} {acts : List Act} {party : Party}

/-- The connections that a log makes some of everyone are those that were accepted. -/
theorem join_mem_log :
    .join everyone party ∈ log policy family start acts ↔
      AcceptedBy policy family start acts party := by
  rw [log, mem_gather]
  constructor
  · rintro ⟨earlier, act, later, rfl, member⟩
    rcases edits_cases family member with
      ⟨joined, known, rfl, impossible | same⟩ | ⟨key, identity, other, -, impossible⟩
    · cases impossible
    · cases same
      exact ⟨earlier, later, rfl, known⟩
    · cases impossible
  · rintro ⟨earlier, later, rfl, known⟩
    refine ⟨earlier, _, later, rfl, ?_⟩
    have asked := edits_accept family known
    rw [run] at asked
    rw [asked]
    exact List.mem_cons_of_mem _ List.mem_cons_self

theorem put_mem_log (accepted : AcceptedBy policy family start acts party) :
    .put (.identity party.id) party ∈ log policy family start acts := by
  obtain ⟨earlier, later, rfl, known⟩ := accepted
  rw [log, mem_gather]
  refine ⟨earlier, _, later, rfl, ?_⟩
  have asked := edits_accept family known
  rw [run] at asked
  rw [asked]
  exact List.mem_cons_self

theorem not_expels_of_mem_log {edit : Edit ChannelKey}
    (member : edit ∈ log policy family start acts) (group : String) (id : Identity) :
    ¬ edit.Expels group id := by
  rw [log, mem_gather] at member
  obtain ⟨earlier, act, later, -, asked⟩ := member
  rcases edits_cases family asked with
    ⟨party, -, -, rfl | rfl⟩ | ⟨key, identity, party, -, rfl⟩ <;> exact not_false

/-- An identity is taken as a key only for the connection that carries it. -/
theorem eq_put_of_frees (named : ∀ act ∈ acts, act.NamesUsers) {edit : Edit ChannelKey}
    (member : edit ∈ log policy family start acts) {id owner : Identity}
    (frees : edit.Frees (.identity id) owner) :
    ∃ party, edit = .put (.identity id) party ∧ party.id = id := by
  rw [log, mem_gather] at member
  obtain ⟨earlier, act, later, rfl, asked⟩ := member
  rcases edits_cases family asked with
    ⟨party, -, -, rfl | rfl⟩ | ⟨key, identity, party, rfl, rfl⟩
  · have same : party.id = id := ChannelKey.identity.inj frees
    exact ⟨party, by rw [same], same⟩
  · cases frees
  · obtain rfl : key = .identity id := frees
    exact (named (.bind family (.identity id) identity) (by simp)).elim

end Log

/-- A connection hears what another one says in a family: it was accepted there, it is open, and it
is not the one that speaks. -/
def Hears (start : Gateway) (acts : List Act) (speaker party : Party) : Prop :=
  AcceptedBy policy family start acts party ∧ (run policy start acts).isOpen party.handle = true ∧
    party.handle ≠ speaker.handle

section Standing

variable {policy family entropy expiry} {acts : List Act} {party : Party}

theorem mem_everyone_iff (distinct : (acts.filterMap Act.opened?).Nodup) :
    party ∈ ((run policy (.fresh entropy expiry) acts).layer family).directory.members everyone ↔
      (run policy (.fresh entropy expiry) acts).isOpen party.handle = true ∧
        AcceptedBy policy family (.fresh entropy expiry) acts party := by
  have logged := logged_run policy family entropy expiry acts distinct
  rw [logged.indexed.mem_members, logged.member, ← join_mem_log]
  refine and_congr_right fun _ => ⟨Since.mem, fun member => ?_⟩
  exact since_of_mem member fun other listed => not_expels_of_mem_log listed everyone party.id

theorem AcceptedBy.knows (accepted : AcceptedBy policy family (.fresh entropy expiry) acts party)
    (distinct : (acts.filterMap Act.opened?).Nodup) :
    (run policy (.fresh entropy expiry) acts).Knows party :=
  (logged_run policy family entropy expiry acts distinct).knows _ (put_mem_log accepted) party rfl

/-- An accepted connection that is open is found under its identity. -/
theorem get?_identity (distinct : (acts.filterMap Act.opened?).Nodup)
    (named : ∀ act ∈ acts, act.NamesUsers)
    (accepted : AcceptedBy policy family (.fresh entropy expiry) acts party)
    (isOpen : (run policy (.fresh entropy expiry) acts).isOpen party.handle = true) :
    ((run policy (.fresh entropy expiry) acts).layer family).directory.get? (.identity party.id) =
      some party := by
  have logged := logged_run policy family entropy expiry acts distinct
  have lists := (kept_fresh policy entropy expiry acts).lists
  have entered := put_mem_log accepted
  have known := accepted.knows distinct
  have own_key : Edit.Frees (ChannelKey.identity party.id) party.id
      (.put (.identity party.id) party) := rfl
  obtain ⟨last, frees, since⟩ := exists_since entered own_key
  obtain ⟨holder, rfl, own⟩ := eq_put_of_frees named since.mem frees
  have known_holder := logged.knows _ since.mem holder rfl
  obtain rfl := lists.party_eq distinct known_holder known own
  exact (logged.key _ _).2 ⟨isOpen, since⟩

variable (party) in
theorem mem_audience_iff (distinct : (acts.filterMap Act.opened?).Nodup)
    (named : ∀ act ∈ acts, act.NamesUsers) {speaker : Party}
    (accepted : AcceptedBy policy family (.fresh entropy expiry) acts speaker)
    (isOpen : (run policy (.fresh entropy expiry) acts).isOpen speaker.handle = true) :
    party ∈ ((run policy (.fresh entropy expiry) acts).layer family).directory.audience everyone
        [.identity speaker.id] ↔
      Hears policy family (.fresh entropy expiry) acts speaker party := by
  have lists := (kept_fresh policy entropy expiry acts).lists
  have found := get?_identity distinct named accepted isOpen
  have known := accepted.knows distinct
  simp only [Directory.audience, List.filterMap_cons, found, Option.map_some, List.filterMap_nil,
    List.mem_filter, mem_everyone_iff distinct, List.mem_singleton, decide_eq_true_eq]
  rw [Hears, and_assoc, and_left_comm]
  refine and_congr_right fun joined => and_congr_right fun _ => not_congr ⟨fun same => ?_, ?_⟩
  · rw [lists.party_eq distinct (joined.knows distinct) known same]
  · intro same
    rw [(joined.knows distinct).eq_of_handle_eq known same]

end Standing

end Relay

end PadRelay
