import PadRelay.Proofs.Relay.Delivery
import PadRelay.Proofs.Relay.Reach

/-!
# Who gets a broadcast

A payload to a group goes to a snapshot of its members, one after the other. A member that is handed
its copy may refuse it, or close and be swept out of every directory while others still wait. None
of this reaches another member: each is handed what the directory made of the payload for it at the
start, whatever the order in which the members are visited.
-/

namespace PadRelay

/-- The connections of a list whose identities no connection under an excluded key has. -/
def Directory.spare {κ : Type} [DecidableEq κ] (directory : Directory κ) (except : List κ)
    (parties : List Party) : List Party :=
  let excluded := except.filterMap fun key => (directory.get? key).map Party.id
  parties.filter fun party => party.id ∉ excluded

theorem Directory.mem_spare {κ : Type} [DecidableEq κ] {directory : Directory κ} {except : List κ}
    {parties : List Party} {party : Party} :
    party ∈ directory.spare except parties ↔ party ∈ parties ∧
      ∀ key ∈ except, (directory.get? key).map Party.id ≠ some party.id := by
  simp [spare]

/-- What a dressing makes of a payload for a recipient, with the keys that it has. -/
def Dressing.apply (dressing : Dressing) (gateway : Gateway) (recipient : Identity)
    (payload : Bytes) : Bytes :=
  match dressing with
  | .sealed => (gateway.stock recipient).wrap payload
  | .custom change => change recipient payload

theorem Gateway.dress_fst (gateway : Gateway) (family : Family) (recipient : Identity)
    (payload : Bytes) : (gateway.dress family recipient payload).1 =
      (gateway.layer family).dressing.apply gateway recipient payload := by
  cases dressing : (gateway.layer family).dressing with
  | sealed => exact (dress_of_sealed dressing recipient payload).1
  | custom change => simp only [dress, dressing, Dressing.apply]

namespace Desk

/-- Hand a connection its copy of a payload: whether it took it. -/
def handOver (desk : Desk) (gateway : Gateway) (plain : Bytes) (party : Party) : Bool × Gateway :=
  gateway.send party.handle (desk.copy gateway plain party.id)

/-- Send a payload to the members of a group in the order in which they are visited, except the
connections under some keys: how many took it. -/
def visit (desk : Desk) (gateway : Gateway) (plain : Bytes) (except : List ChannelKey)
    (members : List Party) : Script Nat :=
  desk.deliverEach plain ((gateway.layer desk.family).directory.spare except members)

variable {desk : Desk} {gateway : Gateway} {plain : Bytes}

theorem copy_congr {before after : Gateway} {recipient : Identity}
    (dressing : (after.layer desk.family).dressing = (before.layer desk.family).dressing)
    (holding : after.holding recipient = before.holding recipient) :
    desk.copy after plain recipient = desk.copy before plain recipient := by
  rw [copy, Gateway.dress_fst, dressing, copy, Gateway.dress_fst]
  cases (before.layer desk.family).dressing with
  | sealed => rw [Dressing.apply, Gateway.stock, holding, Dressing.apply, Gateway.stock]
  | custom change => rfl

section One

variable {party other : Party}

theorem perform_isOpen (isOpen : gateway.isOpen party.handle = true) :
    gateway.perform (.isOpen party.handle) = (true, gateway) := by
  simp [Gateway.perform, isOpen]

theorem sent_deliverTo (isOpen : gateway.isOpen party.handle = true) :
    (desk.deliverTo party plain).sent gateway =
      [(party.handle, desk.copy gateway plain party.id)] := by
  rw [deliverTo, Script.sent_bind, Script.run_ask, perform_isOpen isOpen, if_pos rfl,
    Script.sent_bind]
  rfl

theorem deliverTo_fst (isOpen : gateway.isOpen party.handle = true) :
    ((desk.deliverTo party plain).run gateway).1 = (desk.handOver gateway plain party).1 := by
  have glances := gateway.glances_dress desk.family party.id plain
  rw [deliverTo, Script.run_bind, Script.run_ask, perform_isOpen isOpen, if_pos rfl,
    Script.run_bind, Script.run_ask, Script.run_ask]
  simp only [Gateway.perform, handOver, Gateway.send_fst]
  rw [Gateway.mouthOf?_congr _ glances.connections]

/-- Another connection finds everything as it was: its outlet, and what is made of payloads for
it. -/
structure LeavesAlone (desk : Desk) (before : Gateway) (party : Party) (after : Gateway) :
    Prop where
  mouth : after.mouthOf? party.handle = before.mouthOf? party.handle
  copy : ∀ plain, desk.copy after plain party.id = desk.copy before plain party.id

theorem LeavesAlone.isOpen_eq {after : Gateway} (left : desk.LeavesAlone gateway party after) :
    after.isOpen party.handle = gateway.isOpen party.handle := by
  rw [Gateway.isOpen_eq_mouthOf?, left.mouth, Gateway.isOpen_eq_mouthOf?]

/-- It takes its copy if it would have taken it before. -/
theorem LeavesAlone.handOver_fst {after : Gateway} (left : desk.LeavesAlone gateway party after) :
    (desk.handOver after plain party).1 = (desk.handOver gateway plain party).1 := by
  rw [handOver, handOver, Gateway.send_fst, Gateway.send_fst, left.mouth]

theorem unclosed {α : Type} {script : Script α} (relays : script.Only desk.RelayCall)
    (gateway : Gateway) (handle : Handle) : .close handle ∉ script.calls gateway := by
  intro closed
  cases relays.of_mem_calls gateway _ closed

theorem leavesAlone_deliverTo (sound : gateway.Sound [] none) (known : gateway.Knows party)
    (handles : party.handle ≠ other.handle) (ids : party.id ≠ other.id) (payload : Bytes) :
    desk.LeavesAlone gateway other ((desk.deliverTo party payload).run gateway).2 where
  mouth := by
    rw [mouthOf?_deliverTo]
    simp [handles]
  copy plain := by
    have revises : gateway.Revises desk.family id ((desk.deliverTo party payload).run gateway).2 :=
      .drifts sound (Gateway.drifts_run (desk.plain_deliverTo party payload) gateway)
    exact copy_congr revises.dressing
      ((holding_deliverTo sound.own known payload other.id).resolve_right fun gone => ids gone.1)

end One

/-- A script hands one copy each to some connections, in order, and tells how many took theirs. -/
structure Serves (desk : Desk) (gateway : Gateway) (plain : Bytes) (parties : List Party)
    (script : Script Nat) : Prop where
  relays : script.Only desk.RelayCall
  sent : script.sent gateway =
    parties.map fun party => (party.handle, desk.copy gateway plain party.id)
  taken : (script.run gateway).1 =
    parties.countP fun party => (desk.handOver gateway plain party).1

/-- Each of several open connections is handed what it would have been handed at the start. -/
theorem serves_deliverEach (sound : gateway.Sound [] none) {parties : List Party}
    (known : ∀ party ∈ parties, gateway.Knows party)
    (isOpen : ∀ party ∈ parties, gateway.isOpen party.handle = true)
    (distinct : (parties.map Party.id).Nodup) :
    desk.Serves gateway plain parties (desk.deliverEach plain parties) := by
  induction parties generalizing gateway with
  | nil => exact ⟨desk.relayCalls_deliverEach plain [], rfl, rfl⟩
  | cons party parties induction =>
      rw [List.map_cons, List.nodup_cons, List.mem_map] at distinct
      obtain ⟨alone, others⟩ := distinct
      have known_party := known party List.mem_cons_self
      have open_party := isOpen party List.mem_cons_self
      have drifts := Gateway.drifts_run (desk.plain_deliverTo party plain) gateway
      have revises : gateway.Revises desk.family id ((desk.deliverTo party plain).run gateway).2 :=
        .drifts sound drifts
      -- Those who still wait notice nothing of the first delivery.
      have apart (other : Party) (member : other ∈ parties) :
          desk.LeavesAlone gateway other ((desk.deliverTo party plain).run gateway).2 := by
        have different : party.id ≠ other.id := fun same => alone ⟨other, member, same.symm⟩
        have known_other := known other (List.mem_cons_of_mem _ member)
        refine leavesAlone_deliverTo sound known_party (fun same => ?_) different plain
        exact different (congrArg Party.id (known_party.eq_of_handle_eq known_other same))
      obtain ⟨-, sent, taken⟩ := induction (sound.drifts drifts)
        (fun other member => revises.knows other (known other (List.mem_cons_of_mem _ member)))
        (fun other member =>
          (apart other member).isOpen_eq.trans (isOpen other (List.mem_cons_of_mem _ member)))
        others
      refine ⟨desk.relayCalls_deliverEach plain (party :: parties), ?_, ?_⟩
      · rw [deliverEach, Script.sent_bind, Script.sent_bind, Script.sent_pure, List.append_nil,
          sent_deliverTo open_party, sent, List.map_cons, List.singleton_append]
        congr 1
        refine List.map_congr_left fun other member => ?_
        rw [(apart other member).copy]
      · have same : parties.countP
            (fun other =>
              (desk.handOver ((desk.deliverTo party plain).run gateway).2 plain other).1) =
            parties.countP fun other => (desk.handOver gateway plain other).1 :=
          List.countP_congr fun other member => by rw [(apart other member).handOver_fst]
        rw [deliverEach, Script.run_bind, Script.run_bind, Script.run_pure,
          deliverTo_fst open_party, taken, same, List.countP_cons, Nat.add_comm]

/-- A payload to a group is for a connection: it is an open member, and no connection under an
excluded key has its identity. -/
def IsFor (desk : Desk) (gateway : Gateway) (group : String) (except : List ChannelKey)
    (party : Party) : Prop :=
  party ∈ (gateway.layer desk.family).directory.members group ∧
    gateway.isOpen party.handle = true ∧
    ∀ key ∈ except,
      ((gateway.layer desk.family).directory.get? key).map Party.id ≠ some party.id

instance (desk : Desk) (gateway : Gateway) (group : String) (except : List ChannelKey) :
    DecidablePred (desk.IsFor gateway group except) :=
  fun _ => inferInstanceAs (Decidable (_ ∧ _ ∧ ∀ _ ∈ _, _))

/-- A connection that a payload is for closes when it is handed its copy. -/
def Chokes (desk : Desk) (gateway : Gateway) (group : String) (plain : Bytes)
    (except : List ChannelKey) (party : Party) : Prop :=
  desk.IsFor gateway group except party ∧
    (desk.handOver gateway plain party).2.isOpen party.handle = false

instance (desk : Desk) (gateway : Gateway) (group : String) (plain : Bytes)
    (except : List ChannelKey) : DecidablePred (desk.Chokes gateway group plain except) :=
  fun _ => inferInstanceAs (Decidable (_ ∧ _))

/-- A payload reaches the members of a group that it is for, and nobody else. -/
structure Reaches (desk : Desk) (gateway : Gateway) (group : String) (plain : Bytes)
    (except : List ChannelKey) (script : Script Nat) : Prop where
  /-- Whom it is for is handed exactly one payload: what the directory made of it at the start. -/
  reached : ∀ party, desk.IsFor gateway group except party →
    script.sentTo party.handle gateway = [desk.copy gateway plain party.id]
  /-- Nobody else is handed anything. -/
  passed : ∀ handle, (∀ party, desk.IsFor gateway group except party → party.handle ≠ handle) →
    script.sentTo handle gateway = []
  /-- So many took it as would have taken it alone. -/
  taken : (script.run gateway).1 =
    ((gateway.layer desk.family).directory.members group).countP fun party =>
      desk.IsFor gateway group except party ∧ (desk.handOver gateway plain party).1 = true
  /-- Whom it is for ends as if nobody else had been handed anything. -/
  alone : ∀ party, desk.IsFor gateway group except party →
    (script.run gateway).2.mouthOf? party.handle =
      (desk.handOver gateway plain party).2.mouthOf? party.handle
  /-- The outlet of everyone else is as it was, and nobody else closes. -/
  spared : ∀ handle, (∀ party, desk.IsFor gateway group except party → party.handle ≠ handle) →
    (script.run gateway).2.mouthOf? handle = gateway.mouthOf? handle
  /-- A key that leads nowhere excludes nobody. -/
  unbound : ∀ key, (gateway.layer desk.family).directory.get? key = none → ∀ party,
    (desk.IsFor gateway group (key :: except) party ↔ desk.IsFor gateway group except party)
  /-- Every key still leads where it led, unless that connection has closed on its copy. -/
  keys : ∀ family key party, ((script.run gateway).2.layer family).directory.get? key = some party ↔
    (gateway.layer family).directory.get? key = some party ∧
      ¬ desk.Chokes gateway group plain except party
  /-- Every group still has its members, but for those that have closed on their copy. -/
  members : ∀ family name party,
    party ∈ ((script.run gateway).2.layer family).directory.members name ↔
      party ∈ (gateway.layer family).directory.members name ∧
        ¬ desk.Chokes gateway group plain except party

section Audience

variable {group : String} {except : List ChannelKey} {script : Script Nat}
  {parties : List Party} {ids : List Identity}

theorem mouthOf?_handOver (party : Party) (handle : Handle) :
    (desk.handOver gateway plain party).2.mouthOf? handle =
      (gateway.mouthOf? handle).map fun mouth =>
        if party.handle = handle then mouth.push (desk.copy gateway plain party.id) else mouth :=
  gateway.mouthOf?_perform handle (.send party.handle (desk.copy gateway plain party.id))

theorem Serves.sentTo_of_mem (serves : desk.Serves gateway plain parties script)
    (distinct : (parties.map Party.handle).Nodup) {party : Party} (member : party ∈ parties) :
    script.sentTo party.handle gateway = [desk.copy gateway plain party.id] := by
  have own : parties.filter (fun other => other.handle = party.handle) = [party] := by
    have same (other : Party) (listed : other ∈ parties) :
        decide (other.handle = party.handle) = (other == party) := by
      rw [Bool.eq_iff_iff, decide_eq_true_eq, beq_iff_eq]
      exact ⟨List.inj_on_of_nodup_map distinct listed member, congrArg Party.handle⟩
    rw [List.filter_congr same, List.filter_beq,
      List.count_eq_one_of_mem (distinct.of_map _) member, List.replicate_one]
  rw [Script.sentTo, serves.sent, List.filter_map, List.map_map]
  exact congrArg (List.map _) own

theorem Serves.sentTo_of_apart (serves : desk.Serves gateway plain parties script)
    {handle : Handle} (apart : ∀ party ∈ parties, party.handle ≠ handle) :
    script.sentTo handle gateway = [] := by
  rw [Script.sentTo, serves.sent, List.filter_map, List.map_map, List.map_eq_nil_iff,
    List.filter_eq_nil_iff]
  intro party member
  simpa using apart party member

/-- A connection that is served ends as if it alone had been handed its copy. -/
theorem Serves.mouthOf?_of_mem (serves : desk.Serves gateway plain parties script)
    (distinct : (parties.map Party.handle).Nodup) {party : Party} (member : party ∈ parties) :
    (script.run gateway).2.mouthOf? party.handle =
      (desk.handOver gateway plain party).2.mouthOf? party.handle := by
  rw [Gateway.mouthOf?_run_of_unclosed _ _ (unclosed serves.relays gateway party.handle),
    serves.sentTo_of_mem distinct member, mouthOf?_handOver]
  simp [Mouth.pushAll]

theorem Serves.mouthOf?_of_apart (serves : desk.Serves gateway plain parties script)
    {handle : Handle} (apart : ∀ party ∈ parties, party.handle ≠ handle) :
    (script.run gateway).2.mouthOf? handle = gateway.mouthOf? handle :=
  gateway.mouthOf?_run_of_apart handle (serves.sentTo_of_apart apart)
    (unclosed serves.relays gateway handle)

/-- All who were open stay open, but those that close on their copy. -/
theorem Serves.isOpen_iff (serves : desk.Serves gateway plain parties script)
    (distinct : (parties.map Party.handle).Nodup) (known : ∀ party ∈ parties, gateway.Knows party)
    (chosen : ∀ party, party ∈ parties ↔ desk.IsFor gateway group except party) {party : Party}
    (known_party : gateway.Knows party) (isOpen : gateway.isOpen party.handle = true) :
    (script.run gateway).2.isOpen party.handle = true ↔
      ¬ desk.Chokes gateway group plain except party := by
  by_cases member : party ∈ parties
  · rw [Chokes, and_iff_right ((chosen party).1 member), Bool.not_eq_false,
      Gateway.isOpen_eq_mouthOf?, serves.mouthOf?_of_mem distinct member,
      Gateway.isOpen_eq_mouthOf?]
  · have apart (other : Party) (listed : other ∈ parties) : other.handle ≠ party.handle :=
      fun same => member ((known other listed).eq_of_handle_eq known_party same ▸ listed)
    rw [Gateway.isOpen_eq_mouthOf?, serves.mouthOf?_of_apart apart, ← Gateway.isOpen_eq_mouthOf?]
    exact iff_of_true isOpen fun chokes => member ((chosen party).2 chokes.1)

theorem mem_audience_iff_isFor (steady : Relay.Steady gateway ids) (distinct : ids.Nodup)
    (party : Party) :
    party ∈ (gateway.layer desk.family).directory.audience group except ↔
      desk.IsFor gateway group except party := by
  refine Directory.mem_spare.trans (and_congr_right fun member => ?_)
  obtain ⟨id, found⟩ := (Directory.mem_members_iff _ _ _).1 member
  have isOpen := steady.sound.isOpen_of_names steady.lists distinct (.member found)
  exact (and_iff_right isOpen).symm

/-- Serving the audience of a group, in any order, is to reach the members that a payload is for. -/
theorem Serves.reaches (serves : desk.Serves gateway plain parties script)
    (steady : Relay.Steady gateway ids) (distinct : ids.Nodup)
    (visits : parties.Perm ((gateway.layer desk.family).directory.audience group except)) :
    desk.Reaches gateway group plain except script := by
  have chosen (party : Party) : party ∈ parties ↔ desk.IsFor gateway group except party :=
    visits.mem_iff.trans (mem_audience_iff_isFor steady distinct party)
  have known (party : Party) (member : party ∈ parties) : gateway.Knows party :=
    steady.sound.knows_audience (visits.mem_iff.1 member)
  have handles : (parties.map Party.handle).Nodup := by
    have apart := (visits.map Party.id).nodup_iff.2 ((steady.indexed desk.family).nodup_audience _)
    refine apart.of_map.map_on fun left left_member right right_member same => ?_
    exact (known left left_member).eq_of_handle_eq (known right right_member) same
  have stays {family : Family} {party : Party}
      (names : (gateway.layer family).directory.Names party) :
      (script.run gateway).2.isOpen party.handle = true ↔
        ¬ desk.Chokes gateway group plain except party :=
    serves.isOpen_iff handles known chosen (steady.sound.knows party (.directory names))
      (steady.sound.isOpen_of_names steady.lists distinct names)
  obtain ⟨after_steady, revises⟩ := steady.plain (serves.relays.mono fun _ => RelayCall.isPlain)
  constructor
  case reached =>
    exact fun party isFor => serves.sentTo_of_mem handles ((chosen party).2 isFor)
  case passed =>
    exact fun handle others =>
      serves.sentTo_of_apart fun party member => others party ((chosen party).1 member)
  case taken =>
    rw [serves.taken, visits.countP_eq, Directory.audience, List.countP_filter]
    refine List.countP_congr fun party member => ?_
    have isFor := visits.mem_iff.symm.trans (chosen party)
    rw [Directory.audience, List.mem_filter, and_iff_right member] at isFor
    rw [Bool.and_eq_true]
    exact and_comm.trans ((and_congr_left fun _ => isFor).trans decide_eq_true_iff.symm)
  case alone =>
    exact fun party isFor => serves.mouthOf?_of_mem handles ((chosen party).2 isFor)
  case spared =>
    exact fun handle others =>
      serves.mouthOf?_of_apart fun party member => others party ((chosen party).1 member)
  case unbound =>
    intro key absent party
    simp [IsFor, absent]
  case keys =>
    intro family key party
    rw [steady.get?_iff after_steady distinct (revises family)]
    exact and_congr_right fun found => stays (.key found)
  case members =>
    intro family name party
    rw [steady.mem_members_iff after_steady distinct (revises family)]
    refine and_congr_right fun member => ?_
    obtain ⟨id, found⟩ := (Directory.mem_members_iff _ _ _).1 member
    exact stays (.member found)

theorem serves_visit (steady : Relay.Steady gateway ids) (distinct : ids.Nodup)
    (visits : parties.Perm ((gateway.layer desk.family).directory.members group)) :
    desk.Serves gateway plain ((gateway.layer desk.family).directory.spare except parties)
      (desk.visit gateway plain except parties) := by
  have member (party : Party)
      (listed : party ∈ (gateway.layer desk.family).directory.spare except parties) :
      (gateway.layer desk.family).directory.Names party := by
    obtain ⟨id, found⟩ :=
      (Directory.mem_members_iff _ _ _).1 (visits.mem_iff.1 (Directory.mem_spare.1 listed).1)
    exact .member found
  refine serves_deliverEach steady.sound
    (fun party listed => steady.sound.knows party (.directory (member party listed)))
    (fun party listed => steady.sound.isOpen_of_names steady.lists distinct (member party listed))
    ?_
  have apart := (visits.map Party.id).nodup_iff.2 (steady.indexed desk.family).nodup_members
  exact apart.sublist (List.filter_sublist.map Party.id)

/-- A payload to a group goes to its members as the directory lists them. -/
theorem serves_broadcast (steady : Relay.Steady gateway ids) (distinct : ids.Nodup) :
    desk.Serves gateway plain ((gateway.layer desk.family).directory.audience group except)
      (desk.broadcast group plain except) := by
  have served : desk.Serves gateway plain
      ((gateway.layer desk.family).directory.audience group except)
      (desk.visit gateway plain except ((gateway.layer desk.family).directory.members group)) :=
    serves_visit steady distinct (.refl _)
  obtain ⟨-, sent, taken⟩ := served
  refine ⟨desk.relayCalls_broadcast group plain except, ?_, ?_⟩
  · rw [broadcast, Script.sent_bind]
    exact sent
  · rw [broadcast, Script.run_bind]
    exact taken

end Audience

end Desk

namespace Relay

/-- In every state that the relay and the registries reach over connections with distinct
identities, a payload to a group reaches the members that it is for and nobody else, in whatever
order they are visited. -/
theorem broadcast_reaches (policy : SizePolicy) (entropy : Entropy) (expiry : Nat)
    (dressing : Family → Dressing) (deeds : List Deed)
    (distinct : (deeds.filterMap Deed.opened?).Nodup) (desk : Desk) (group : String)
    (plain : Bytes) (except : List ChannelKey) :
    let gateway := reach policy (.furnish entropy expiry dressing) deeds
    (∀ recipient, desk.copy gateway plain recipient =
        (dressing desk.family).apply gateway recipient plain) ∧
      desk.Reaches gateway group plain except (desk.broadcast group plain except) ∧
      ∀ order : List Party, order.Perm ((gateway.layer desk.family).directory.members group) →
        desk.Reaches gateway group plain except (desk.visit gateway plain except order) := by
  intro gateway
  obtain ⟨steady, dressed⟩ := steady_reach policy entropy expiry dressing deeds
  refine ⟨fun recipient => ?_, ?_, fun order visits => ?_⟩
  · rw [Desk.copy, Gateway.dress_fst, dressed]
  · exact (Desk.serves_broadcast steady distinct).reaches steady distinct (.refl _)
  · exact (Desk.serves_visit steady distinct visits).reaches steady distinct (visits.filter _)

/-! A room of four: the first takes what it is sent, the second has a failing outlet, the queue of
the third is full, and the fourth is excluded under its name. -/

/-- Every copy starts with the last byte of the identity of its recipient. -/
def sampleStamp (recipient : Identity) (payload : Bytes) : Bytes :=
  recipient.toNat.toUInt8 :: payload

/-- The four come in and join the room. -/
def sampleDeeds : List Deed :=
  [.relay (.occurs (.opens 1 false Sample.remote (.record [] false))),
    .relay (.occurs (.opens 2 false Sample.remote (.record [] true))),
    .relay (.occurs (.opens 3 false Sample.remote (.queue (List.replicate 32 [0]) true))),
    .relay (.occurs (.opens 4 false Sample.remote (.record [] false))),
    .relay (.accept .socket 0), .relay (.accept .socket 3),
    .registry .socket (.join "room" 0), .registry .socket (.join "room" 1),
    .registry .socket (.join "room" 2), .registry .socket (.join "room" 3),
    .relay (.bind .socket (.user "pad") 4)]

def sampleRoom : Gateway :=
  reach .standard (.furnish (.arithmetic 1 1) 30 fun _ => .custom sampleStamp) sampleDeeds

/-- The four, last come first. -/
def sampleOrder : List Party := [⟨3, 4⟩, ⟨2, 3⟩, ⟨1, 2⟩, ⟨0, 1⟩]

/-- A payload for all but the fourth, whom its name excludes, and a session that nobody has. -/
def sampleExcept : List ChannelKey := [.user "pad", .session 7]

/-- In the sample one takes its copy, one fails to, and one closes on it and leaves the room. -/
theorem sample_room_is_reached :
    (sampleDeeds.filterMap Deed.opened?).Nodup ∧
      sampleOrder.Perm ((sampleRoom.layer .socket).directory.members "room") ∧
      (let script := Desk.visit {} sampleRoom [9] sampleExcept sampleOrder
      script.sentTo 0 sampleRoom = [[1, 9]] ∧ script.sentTo 2 sampleRoom = [[3, 9]] ∧
        script.sentTo 3 sampleRoom = [] ∧ (script.run sampleRoom).1 = 1 ∧
        ⟨1, 2⟩ ∈ ((script.run sampleRoom).2.layer .socket).directory.members "room" ∧
        ⟨2, 3⟩ ∉ ((script.run sampleRoom).2.layer .socket).directory.members "room") := by
  have distinct : (sampleDeeds.filterMap Deed.opened?).Nodup := by decide
  have visits : sampleOrder.Perm ((sampleRoom.layer .socket).directory.members "room") := by
    decide +kernel
  obtain ⟨copies, -, reaches⟩ := broadcast_reaches .standard (.arithmetic 1 1) 30
    (fun _ => .custom sampleStamp) sampleDeeds distinct {} "room" [9] sampleExcept
  have room : Desk.Reaches {} sampleRoom "room" [9] sampleExcept
      (Desk.visit {} sampleRoom [9] sampleExcept sampleOrder) := reaches sampleOrder visits
  refine ⟨distinct, visits, ?_, ?_, ?_, ?_, ?_, ?_⟩
  · exact (room.reached ⟨0, 1⟩ (by decide +kernel)).trans (congrArg (fun copy => [copy]) (copies 1))
  · exact (room.reached ⟨2, 3⟩ (by decide +kernel)).trans (congrArg (fun copy => [copy]) (copies 3))
  · have others : ∀ party ∈ (sampleRoom.layer .socket).directory.members "room",
        Desk.IsFor {} sampleRoom "room" sampleExcept party → party.handle ≠ 3 := by
      decide +kernel
    exact room.passed 3 fun party isFor => others party isFor.1 isFor
  · rw [room.taken]
    decide +kernel
  · rw [room.members]
    decide +kernel
  · rw [room.members]
    decide +kernel

end Relay

end PadRelay
