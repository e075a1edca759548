import PadRelay.Proofs.Relay.Broadcast
import PadRelay.Proofs.Relay.Registry

/-!
# The welcome

A connection is taken in by three calls: it is entered under its identity, it becomes one of
everyone, and it is attached to the exchange of keys, which welcomes it. Others can be served between
them. What everyone is told between the second and the third call reaches the newcomer before its
welcome, and so does what is sent to its identity. Nothing else does.
-/

namespace PadRelay

open Directory (Edit)

namespace Relay

/-- An act for others than a newcomer of a family: one of them says something, or something is sent
to a connection or to a group. -/
def Act.IsChatter (family : Family) (newcomer : Handle) : Act → Prop
  | .receive other handle _ => other = family ∧ handle ≠ newcomer
  | .sendTo other _ _ | .broadcast other _ _ _ => other = family
  | .occurs _ | .accept _ _ | .request _ _ _ | .bind _ _ _ | .shutdown => False

variable (policy : SizePolicy) (family : Family)

/-- A connection is entered under its identity, and then acts are performed. -/
def enterAmid (newcomer : Party) (gateway : Gateway) (entered : List Act) : Gateway :=
  run policy ((Script.enter family (.identity newcomer.id) newcomer).run gateway).2 entered

/-- It becomes one of everyone, and then more acts are performed. -/
def joinAmid (newcomer : Party) (gateway : Gateway) (entered joined : List Act) : Gateway :=
  run policy ((Script.join family everyone newcomer).run
    (enterAmid policy family newcomer gateway entered)).2 joined

/-- A connection is taken in, and acts are performed after it is entered and after it has joined. -/
def acceptAmid (newcomer : Party) (gateway : Gateway) (entered joined : List Act) : Gateway :=
  (((deskOf policy family).attach newcomer).run
    (joinAmid policy family newcomer gateway entered joined)).2

/-- With nothing in between a connection is taken in as usual. -/
theorem acceptAmid_nil {gateway : Gateway} {newcomer : Party} (known : gateway.Knows newcomer) :
    acceptAmid policy family newcomer gateway [] [] =
      act policy gateway (.accept family newcomer.handle) := by
  rw [act, Gateway.attend_of_knows known, Desk.accept]
  simp only [Script.run_bind]
  rfl

/-- What an act tells a connection that is entered under its identity, and one of everyone or not
yet. -/
def told (newcomer : Identity) (joined : Bool) (gateway : Gateway) : Act → List Bytes
  | .receive _ handle payload =>
      match (gateway.attend handle fun speaker =>
        (deskOf policy family).handleClear speaker payload).1 with
      | some (.application plain) => if joined then [plain] else []
      | _ => []
  | .sendTo _ key payload => if key = .identity newcomer then [payload] else []
  | .broadcast _ group payload except =>
      if joined ∧ group = everyone ∧ .identity newcomer ∉ except then [payload] else []
  | .occurs _ | .accept _ _ | .request _ _ _ | .bind _ _ _ | .shutdown => []

/-- What a newcomer is told after it is entered and before it joins. -/
def toldEntered (newcomer : Party) (gateway : Gateway) (entered : List Act) : List Bytes :=
  gather (act policy) (told policy family newcomer.id false)
    ((Script.enter family (.identity newcomer.id) newcomer).run gateway).2 entered

/-- What a newcomer is told after it has joined and before it is attached. -/
def toldJoined (newcomer : Party) (gateway : Gateway) (entered joined : List Act) : List Bytes :=
  gather (act policy) (told policy family newcomer.id true)
    ((Script.join family everyone newcomer).run
      (enterAmid policy family newcomer gateway entered)).2 joined

/-- A newcomer is entered under its identity, and one of everyone or not yet, and nothing else. -/
structure Lobby (newcomer : Party) (ids : List Identity) (log : List (Edit ChannelKey))
    (joined : Bool) (gateway : Gateway) : Prop extends Registry.Kept family ids log gateway where
  distinct : ids.Nodup
  known : gateway.Knows newcomer
  unattached : ¬ gateway.IsAttached newcomer.handle
  entered : ∀ key, Since log (.put key newcomer) (·.Frees key newcomer.id) ↔
    key = .identity newcomer.id
  member : ∀ group, Since log (.join group newcomer) (·.Expels group newcomer.id) ↔
    joined = true ∧ group = everyone

namespace Lobby

variable {policy family} {newcomer : Party} {ids : List Identity} {log : List (Edit ChannelKey)}
  {joined : Bool} {gateway : Gateway}

theorem get?_eq_some_iff (lobby : Lobby family newcomer ids log joined gateway)
    (key : ChannelKey) :
    (gateway.layer family).directory.get? key = some newcomer ↔
      gateway.isOpen newcomer.handle = true ∧ key = .identity newcomer.id :=
  (lobby.logged.key key newcomer).trans (and_congr_right fun _ => lobby.entered key)

theorem mem_audience_iff (lobby : Lobby family newcomer ids log joined gateway) (group : String)
    (except : List ChannelKey) :
    newcomer ∈ (gateway.layer family).directory.audience group except ↔
      gateway.isOpen newcomer.handle = true ∧
        joined = true ∧ group = everyone ∧ .identity newcomer.id ∉ except := by
  have excepted (isOpen : gateway.isOpen newcomer.handle = true) :
      newcomer.id ∈ (except.filterMap fun key =>
          ((gateway.layer family).directory.get? key).map Party.id) ↔
        .identity newcomer.id ∈ except := by
    rw [List.mem_filterMap]
    constructor
    · rintro ⟨key, listed, found⟩
      obtain ⟨holder, led, own⟩ := Option.map_eq_some_iff.1 found
      have known := lobby.sound.knows holder (.directory (.key led))
      obtain rfl := lobby.lists.party_eq lobby.distinct known lobby.known own
      exact ((lobby.get?_eq_some_iff key).1 led).2 ▸ listed
    · intro listed
      exact ⟨_, listed, by rw [(lobby.get?_eq_some_iff _).2 ⟨isOpen, rfl⟩, Option.map_some]⟩
  simp only [Directory.audience, List.mem_filter, decide_eq_true_eq]
  rw [lobby.logged.indexed.mem_members, lobby.logged.member, lobby.member, and_assoc, and_assoc]
  exact and_congr_right fun isOpen => and_congr_right fun _ => and_congr_right fun _ =>
    not_congr (excepted isOpen)

theorem wrap_stock (lobby : Lobby family newcomer ids log joined gateway) (plain : Bytes) :
    (gateway.stock newcomer.id).wrap plain = plain := by
  have keyless : gateway.Keyless newcomer.id := by
    by_contra needs
    obtain ⟨handle, waits⟩ := lobby.sound.exists_waits (.dropKeys newcomer.id) needs
    have same := lobby.lists.handle_eq lobby.distinct waits.idOf?_eq lobby.known
    exact lobby.unattached (same ▸ waits.isAttached)
  have inactive : (gateway.stock newcomer.id).active = none := keyless.1
  rw [Stock.wrap, inactive]

theorem mouthOf?_of_delivered (lobby : Lobby family newcomer ids log joined gateway)
    {recipient : Party → Prop} {plain : Bytes} {after : Gateway}
    (delivered : gateway.Delivered recipient plain after)
    (known : ∀ party, recipient party → gateway.Knows party) {chosen : Prop} [Decidable chosen]
    (hears : recipient newcomer ↔ gateway.isOpen newcomer.handle = true ∧ chosen) :
    after.mouthOf? newcomer.handle =
      (gateway.mouthOf? newcomer.handle).map (·.pushAll (if chosen then [plain] else [])) := by
  by_cases reached : recipient newcomer
  · rw [delivered.reached newcomer reached, lobby.wrap_stock, if_pos (hears.1 reached).2]
    rfl
  · have passed : after.mouthOf? newcomer.handle = gateway.mouthOf? newcomer.handle := by
      refine delivered.passed newcomer.handle fun party addressed same => reached ?_
      exact (known party addressed).eq_of_handle_eq lobby.known same ▸ addressed
    rw [passed]
    split
    · next told =>
        have closed : gateway.isOpen newcomer.handle = false := by
          rw [Bool.eq_false_iff]
          exact fun isOpen => reached (hears.2 ⟨isOpen, told⟩)
        rw [Gateway.isOpen_eq_mouthOf?] at closed
        cases found : gateway.mouthOf? newcomer.handle with
        | none => rfl
        | some mouth =>
            rw [found, Option.any_some] at closed
            rw [Option.map_some]
            exact congrArg some (Mouth.push_of_closed plain closed).symm
    · exact Option.map_id'.symm

/-- What another connection says is told to a newcomer that has joined, if it is for the
application. -/
theorem mouthOf?_receive (lobby : Lobby family newcomer ids log joined gateway) {speaker : Party}
    (known : gateway.Knows speaker) (other : speaker.handle ≠ newcomer.handle) (payload : Bytes) :
    (((deskOf policy family).receive speaker payload).run gateway).2.mouthOf? newcomer.handle =
      (gateway.mouthOf? newcomer.handle).map
        (·.pushAll (told policy family newcomer.id joined gateway
          (.receive family speaker.handle payload))) := by
  have attended := Gateway.attend_of_knows known fun speaker =>
    (deskOf policy family).handleClear speaker payload
  rw [told, attended]
  cases said : (((deskOf policy family).handleClear speaker payload).run gateway).1 with
  | application plain =>
      have different : speaker.id ≠ newcomer.id := fun same =>
        other (lobby.lists.handle_eq lobby.distinct known (same ▸ lobby.known))
      obtain ⟨-, delivered⟩ := Desk.delivered_receive lobby.sound lobby.logged.dressing
        lobby.logged.indexed said
      have hears := lobby.mem_audience_iff everyone [.identity speaker.id]
      refine lobby.mouthOf?_of_delivered delivered (fun _ => lobby.sound.knows_audience)
        (hears.trans ?_)
      simp [different.symm]
  | _ =>
      have handled : (((deskOf policy family).receive speaker payload).run gateway).2 =
          (((deskOf policy family).handleClear speaker payload).run gateway).2 := by
        rw [Desk.receive, Script.run_bind, said]
        rfl
      have passes := ((deskOf policy family).clearCalls_handleClear speaker payload).mono
        fun _ call => call.passes other
      rw [handled, Gateway.mouthOf?_run_of_passes _ _ passes]
      exact Option.map_id'.symm

theorem mouthOf?_sendTo (lobby : Lobby family newcomer ids log joined gateway) (key : ChannelKey)
    (payload : Bytes) :
    (((deskOf policy family).sendTo key payload).run gateway).2.mouthOf? newcomer.handle =
      (gateway.mouthOf? newcomer.handle).map
        (·.pushAll (told policy family newcomer.id joined gateway
          (.sendTo family key payload))) := by
  have led := lobby.get?_eq_some_iff key
  have looked : gateway.perform (.lookup (deskOf policy family).family key) =
      ((gateway.layer family).directory.get? key, gateway) := rfl
  rw [Desk.sendTo, Script.run_bind, Script.run_ask, looked]
  cases found : (gateway.layer family).directory.get? key with
  | none =>
      refine lobby.mouthOf?_of_delivered (.nobody (.refl gateway)) (fun _ => False.elim) ?_
      rw [← led, found]
      simp
  | some party =>
      have known := lobby.sound.knows party (.directory (.key found))
      have delivered : gateway.Delivered (· = party) payload
          (((deskOf policy family).deliverTo party payload).run gateway).2 :=
        Desk.delivered_deliverTo lobby.logged.dressing lobby.sound.own known payload
      refine lobby.mouthOf?_of_delivered delivered (fun _ same => same ▸ known) ?_
      rw [← led, found, Option.some.injEq, eq_comm]

theorem mouthOf?_act (lobby : Lobby family newcomer ids log joined gateway) {act : Act}
    (chatter : act.IsChatter family newcomer.handle) :
    (Relay.act policy gateway act).mouthOf? newcomer.handle =
      (gateway.mouthOf? newcomer.handle).map
        (·.pushAll (told policy family newcomer.id joined gateway act)) := by
  cases act with
  | receive other handle payload =>
      obtain ⟨rfl, different⟩ := chatter
      cases found : gateway.idOf? handle with
      | none =>
          rw [Relay.act, told, Gateway.attend_of_absent found, Gateway.attend_of_absent found]
          exact Option.map_id'.symm
      | some id =>
          have known : gateway.Knows ⟨handle, id⟩ := found
          rw [Relay.act, Gateway.attend_of_knows known]
          exact lobby.mouthOf?_receive known different payload
  | sendTo other key payload =>
      obtain rfl : other = family := chatter
      exact lobby.mouthOf?_sendTo key payload
  | broadcast other group payload except =>
      obtain rfl : other = family := chatter
      have delivered := (deskOf policy other).delivered_broadcast lobby.sound lobby.logged.dressing
        lobby.logged.indexed group except payload
      exact lobby.mouthOf?_of_delivered delivered (fun _ => lobby.sound.knows_audience)
        (lobby.mem_audience_iff group except)
  | _ => exact chatter.elim

/-- Acts for others leave the newcomer where it is. -/
theorem act (lobby : Lobby family newcomer ids log joined gateway) {act : Act}
    (chatter : act.IsChatter family newcomer.handle) :
    Lobby family newcomer ids log joined (Relay.act policy gateway act) := by
  have opened : act.opened? = none := by
    cases act with
    | occurs => exact chatter.elim
    | _ => rfl
  have unedited : edits family gateway act = [] := by
    cases act with
    | accept | bind => exact chatter.elim
    | _ => rfl
  have distinct : (ids ++ act.opened?.toList).Nodup := by
    rw [opened, Option.toList_none, List.append_nil]
    exact lobby.distinct
  have lists := lists_act lobby.lists policy act
  have logged := logged_act lobby.logged policy lobby.sound lobby.lists act distinct
  rw [opened, Option.toList_none, List.append_nil] at lists
  rw [unedited, List.append_nil] at logged
  refine ⟨⟨lists, lobby.sound.relay lobby.lists policy act, logged⟩, lobby.distinct, ?_, ?_,
    lobby.entered, lobby.member⟩
  · exact (lists.idOf? _).trans ((lobby.lists.idOf? _).symm.trans lobby.known)
  · intro attached
    rcases Gateway.isAttached_of_relay attached with before | ⟨other, accepted, -⟩
    · exact lobby.unattached before
    · exact (accepted ▸ chatter : (Act.accept other _).IsChatter family newcomer.handle).elim

variable (policy) in
theorem run (lobby : Lobby family newcomer ids log joined gateway) {acts : List Act}
    (chatter : ∀ act ∈ acts, act.IsChatter family newcomer.handle) :
    Lobby family newcomer ids log joined (Relay.run policy gateway acts) ∧
      (Relay.run policy gateway acts).mouthOf? newcomer.handle =
        (gateway.mouthOf? newcomer.handle).map
          (·.pushAll (gather (Relay.act policy) (told policy family newcomer.id joined)
            gateway acts)) := by
  induction acts generalizing gateway with
  | nil => exact ⟨lobby, Option.map_id'.symm⟩
  | cons act acts induction =>
      rw [List.forall_mem_cons] at chatter
      obtain ⟨still, pushed⟩ := induction (lobby.act chatter.1) chatter.2
      refine ⟨still, pushed.trans ?_⟩
      rw [lobby.mouthOf?_act chatter.1, Option.map_map, gather]
      refine congrArg (Option.map · _) (funext fun mouth => ?_)
      exact (List.foldl_append ..).symm

theorem join (lobby : Lobby family newcomer ids log false gateway) :
    Lobby family newcomer ids (log ++ [.join everyone newcomer]) true
      ((Script.join family everyone newcomer).run gateway).2 := by
  have known := lobby.known
  have keeps := Gateway.keeps_run (Script.join family everyone newcomer) gateway
  have kept := lobby.toKept.edit (.join everyone newcomer)
    (fun party brought => Option.some.inj brought ▸ known) keeps
    (lobby.sound.join family everyone known) (.join known everyone) lobby.distinct
  refine ⟨kept, lobby.distinct, (keeps.knows newcomer).2 known, ?_, fun key => ?_, fun group => ?_⟩
  · exact fun attached => lobby.unattached
      (Gateway.isAttached_of_run (Script.join_attaches_nothing family newcomer everyone) attached)
  · rw [since_append_singleton, ← lobby.entered key]
    simp [Edit.Frees]
  · rw [since_append_singleton, lobby.member]
    simp [eq_comm]

end Lobby

section Entering

variable {policy family} {newcomer : Party} {ids : List Identity} {log : List (Edit ChannelKey)}
  {gateway : Gateway}

/-- Being entered is the first step. -/
theorem Lobby.enter (kept : Registry.Kept family ids log gateway) (distinct : ids.Nodup)
    (known : gateway.Knows newcomer) (unattached : ¬ gateway.IsAttached newcomer.handle)
    (unlisted : ∀ edit ∈ log, edit.party? ≠ some newcomer) :
    Lobby family newcomer ids (log ++ [.put (.identity newcomer.id) newcomer]) false
      ((Script.enter family (.identity newcomer.id) newcomer).run gateway).2 := by
  have keeps := Gateway.keeps_run (Script.enter family (.identity newcomer.id) newcomer) gateway
  have entered := kept.edit (.put (.identity newcomer.id) newcomer)
    (fun party brought => Option.some.inj brought ▸ known) keeps
    (kept.sound.enter family (.identity newcomer.id) known) (.enter known _) distinct
  have unentered (key : ChannelKey) :
      ¬ Since log (.put key newcomer) (·.Frees key newcomer.id) :=
    fun since => unlisted _ since.mem rfl
  have unjoined (group : String) :
      ¬ Since log (.join group newcomer) (·.Expels group newcomer.id) :=
    fun since => unlisted _ since.mem rfl
  refine ⟨entered, distinct, (keeps.knows newcomer).2 known, ?_, fun key => ?_, fun group => ?_⟩
  · exact fun attached => unattached
      (Gateway.isAttached_of_run (Script.enter_attaches_nothing family newcomer _) attached)
  · rw [since_append_singleton]
    simp [unentered, eq_comm]
  · rw [since_append_singleton]
    simp [unjoined]

theorem mouthOf?_of_entryCalls {α : Type} {script : Script α}
    (calls : script.Only (Script.EntryCall family newcomer)) (handle : Handle) :
    (script.run gateway).2.mouthOf? handle = gateway.mouthOf? handle :=
  gateway.mouthOf?_run_of_passes handle (calls.mono fun _ call mouth => by cases call <;> rfl)

/-- Before it joins, a newcomer is told only what is sent to its identity. -/
theorem toldEntered_eq_nil {acts : List Act}
    (unsent : ∀ other payload, .sendTo other (.identity newcomer.id) payload ∉ acts) :
    toldEntered policy family newcomer gateway acts = [] := by
  rw [toldEntered, List.eq_nil_iff_forall_not_mem]
  intro payload member
  obtain ⟨earlier, act, later, rfl, told_now⟩ := (mem_gather _ _).1 member
  cases act with
  | sendTo other key payload =>
      by_cases own : key = .identity newcomer.id
      · exact unsent other payload (by simp [own])
      · simp [told, own] at told_now
  | receive other handle payload =>
      simp only [told] at told_now
      split at told_now <;> cases told_now
  | broadcast other group payload except => simp [told] at told_now
  | _ => cases told_now

end Entering

end Relay

theorem Desk.mouthOf?_attach (desk : Desk) (party : Party) (gateway : Gateway) :
    ((desk.attach party).run gateway).2.mouthOf? party.handle =
      (gateway.mouthOf? party.handle).map
        (·.push (desk.codec.encode (.welcome party.id))) := by
  have paired : (Script.setClear desk.family party.id party).Only (Call.Passes party.handle) := by
    refine Script.Only.bind (.ask fun _ => rfl) fun held => ?_
    cases held with
    | true => trivial
    | false => exact .ask fun _ => rfl
  have registered : (Script.ask (.onClose party.handle (.dropKeys party.id))).Only
      (Call.Passes party.handle) := .ask fun _ => rfl
  have welcomed (state : Gateway) : (desk.reply party (.welcome party.id)).calls state =
      [.encode desk.codec (.welcome party.id),
        .send party.handle (desk.codec.encode (.welcome party.id))] := rfl
  rw [attach, Script.run_bind, Script.run_bind, Gateway.mouthOf?_run, welcomed,
    Gateway.mouthOf?_run_of_passes _ _ registered, Gateway.mouthOf?_run_of_passes _ _ paired]
  simp [Call.work]

namespace Mouth

variable {mouth : Mouth}

theorem head?_contents_pushAll {first : Bytes} (kept : mouth.contents.head? = some first)
    (payloads : List Bytes) : (mouth.pushAll payloads).contents.head? = some first := by
  induction payloads generalizing mouth with
  | nil => exact kept
  | cons payload payloads induction =>
      refine induction ?_
      cases takes : mouth.takes with
      | true => rw [(push_of_takes payload takes).1, List.head?_append, kept, Option.some_or]
      | false => rwa [push_of_not_takes payload takes]

/-- The first payload that is handed over is the first one that is kept. -/
theorem head?_contents_of_takes (takes : mouth.takes = true) (empty : mouth.contents = [])
    (payload : Bytes) (payloads : List Bytes) :
    (mouth.pushAll (payload :: payloads)).contents.head? = some payload := by
  refine head?_contents_pushAll ?_ payloads
  rw [(push_of_takes payload takes).1, empty]
  rfl

end Mouth

namespace Relay

variable (policy : SizePolicy) (family : Family) (entropy : Entropy) (expiry : Nat)

/-- Whoever an act brings in is accepted by it or stands in the directory already. -/
theorem accepts_or_found {gateway : Gateway} {act : Act} {edit : Edit ChannelKey} {party : Party}
    (asked : edit ∈ edits family gateway act) (brought : edit.party? = some party) :
    act = .accept family party.handle ∨
      ∃ key, (gateway.layer family).directory.get? key = some party := by
  cases act with
  | accept other handle =>
      rcases edits_cases family asked with
        ⟨accepted, -, same, rfl | rfl⟩ | ⟨key, identity, bound, impossible, -⟩
      · cases brought
        exact .inl same
      · cases brought
        exact .inl same
      · cases impossible
  | bind other key identity =>
      simp only [edits] at asked
      split at asked
      · split at asked
        · next bound found =>
            obtain rfl := List.mem_singleton.1 asked
            cases brought
            exact .inr ⟨_, found⟩
        · cases asked
      · cases asked
  | _ => cases asked

theorem party?_ne_of_mem_log {acts : List Act} (distinct : (acts.filterMap Act.opened?).Nodup)
    {newcomer : Party} (unaccepted : ∀ other, .accept other newcomer.handle ∉ acts)
    {edit : Edit ChannelKey} (member : edit ∈ log policy family (.fresh entropy expiry) acts) :
    edit.party? ≠ some newcomer := by
  induction acts using List.reverseRecOn generalizing edit with
  | nil => cases member
  | append_singleton acts last induction =>
      rw [List.filterMap_append] at distinct
      have distinct_before := distinct.sublist (List.sublist_append_left _ _)
      have earlier {edit : Edit ChannelKey} := @induction distinct_before
        (fun other accepted => unaccepted other (List.mem_append_left _ accepted)) edit
      rw [log, gather_append, List.mem_append] at member
      rcases member with before | now
      · exact earlier before
      · intro brought
        rcases accepts_or_found family now brought with rfl | ⟨key, found⟩
        · exact unaccepted family (List.mem_append_right _ (List.mem_singleton_self _))
        · -- Whoever stands in the directory is in the log that led to it.
          have logged := logged_run policy family entropy expiry acts distinct_before
          exact earlier ((logged.key key newcomer).1 found).2.mem rfl

section Greeting

variable {policy family entropy expiry} {acts : List Act} {gateway : Gateway} {newcomer : Party}
  {entered joined : List Act}

theorem mouthOf?_acceptAmid (distinct : (acts.filterMap Act.opened?).Nodup)
    (reached : run policy (.fresh entropy expiry) acts = gateway)
    (known : gateway.Knows newcomer) (unaccepted : ∀ other, .accept other newcomer.handle ∉ acts)
    (chatter : ∀ act ∈ entered ++ joined, act.IsChatter family newcomer.handle) :
    (acceptAmid policy family newcomer gateway entered joined).mouthOf? newcomer.handle =
      (gateway.mouthOf? newcomer.handle).map
        (·.pushAll (toldEntered policy family newcomer gateway entered ++
          toldJoined policy family newcomer gateway entered joined ++
          [Codec.json.encode (.welcome newcomer.id)])) := by
  subst reached
  have before := kept_fresh policy entropy expiry acts
  have kept : Registry.Kept family (acts.filterMap Act.opened?)
      (log policy family (.fresh entropy expiry) acts) (run policy (.fresh entropy expiry) acts) :=
    ⟨before.lists, before.sound, logged_run policy family entropy expiry acts distinct⟩
  have unattached : ¬ (run policy (.fresh entropy expiry) acts).IsAttached newcomer.handle := by
    intro attached
    obtain ⟨earlier, other, later, rfl, -⟩ := before.accepted _ attached
    exact unaccepted other (by simp)
  rw [List.forall_mem_append] at chatter
  have entering := Lobby.enter kept distinct known unattached fun edit =>
    party?_ne_of_mem_log policy family entropy expiry distinct unaccepted
  obtain ⟨waiting, told_entered⟩ := entering.run policy chatter.1
  obtain ⟨-, told_joined⟩ := waiting.join.run policy chatter.2
  rw [mouthOf?_of_entryCalls (Script.entryCalls_enter _ _ _)] at told_entered
  rw [mouthOf?_of_entryCalls (Script.entryCalls_join _ _ _), told_entered, Option.map_map]
    at told_joined
  rw [acceptAmid, Desk.mouthOf?_attach, joinAmid, enterAmid, told_joined, Option.map_map]
  refine congrArg (Option.map · _) (funext fun mouth => ?_)
  simp only [Mouth.pushAll, List.foldl_append]
  rfl

/-- A newcomer gets what it is told, and then its welcome. However acts for others are performed
between the steps of taking it in, what it has been handed at the end is what they sent to its
identity, what everyone was told since it joined, and the welcome. The first payload that it gets is
the first one of these. -/
theorem welcome_follows_told (distinct : (acts.filterMap Act.opened?).Nodup)
    (reached : run policy (.fresh entropy expiry) acts = gateway)
    (known : gateway.Knows newcomer) (unaccepted : ∀ other, .accept other newcomer.handle ∉ acts)
    (chatter : ∀ act ∈ entered ++ joined, act.IsChatter family newcomer.handle) :
    (acceptAmid policy family newcomer gateway entered joined).mouthOf? newcomer.handle =
        (gateway.mouthOf? newcomer.handle).map
          (·.pushAll (toldEntered policy family newcomer gateway entered ++
            toldJoined policy family newcomer gateway entered joined ++
            [Codec.json.encode (.welcome newcomer.id)])) ∧
      (gateway.contents newcomer.handle = [] →
        (gateway.mouthOf? newcomer.handle).any Mouth.takes = true →
          ((acceptAmid policy family newcomer gateway entered joined).contents
              newcomer.handle).head? =
            (toldEntered policy family newcomer gateway entered ++
              toldJoined policy family newcomer gateway entered joined ++
              [Codec.json.encode (.welcome newcomer.id)]).head?) ∧
      ((∀ other payload, .sendTo other (.identity newcomer.id) payload ∉ entered) →
        toldEntered policy family newcomer gateway entered = []) := by
  have handed := mouthOf?_acceptAmid distinct reached known unaccepted chatter
  refine ⟨handed, fun empty takes => ?_, toldEntered_eq_nil⟩
  obtain ⟨mouth, found, taking⟩ := (Option.any_eq_true ..).1 takes
  rw [Gateway.contents, found, Option.elim_some] at empty
  rw [Gateway.contents, handed, found, Option.map_some, Option.elim_some]
  generalize toldEntered policy family newcomer gateway entered ++
    toldJoined policy family newcomer gateway entered joined = told
  cases told with
  | nil => exact Mouth.head?_contents_of_takes taking empty _ []
  | cons payload payloads => exact Mouth.head?_contents_of_takes taking empty payload _

end Greeting

/-- A client that was accepted, and another one that is about to be. -/
def sampleArrival : List Act :=
  [.occurs (.opens 1 false Sample.remote (.record [] false)),
    .occurs (.opens 2 false Sample.remote (.record [] false)),
    .accept .socket 0]

/-- What the first client of the sample says while the second is taken in is handed to that one
before its welcome. -/
theorem sample_talk_precedes_welcome :
    (sampleArrival.filterMap Act.opened?).Nodup ∧
      (∀ other, .accept other 1 ∉ sampleArrival) ∧
      (Act.receive .socket 0 [255]).IsChatter .socket 1 ∧
      ((acceptAmid .standard .socket ⟨1, 2⟩ (run .standard Sample.start sampleArrival) []
        [.receive .socket 0 [255]]).contents 1).head? = some [255] := by
  have distinct : (sampleArrival.filterMap Act.opened?).Nodup := by decide
  have start : run .standard (.fresh (.arithmetic 1 1) 30) sampleArrival =
      run .standard Sample.start sampleArrival := rfl
  have known : (run .standard Sample.start sampleArrival).Knows ⟨1, 2⟩ := by
    have found : (run .standard Sample.start sampleArrival).idOf? 1 = some 2 := by decide +kernel
    exact found
  have unaccepted (other : Family) : .accept other 1 ∉ sampleArrival := by simp [sampleArrival]
  have chatter : (Act.receive .socket 0 [255]).IsChatter .socket 1 := by simp [Act.IsChatter]
  have between : ∀ act ∈ [] ++ [Act.receive .socket 0 [255]], act.IsChatter .socket 1 :=
    List.forall_mem_singleton.2 chatter
  have greeting := (welcome_follows_told distinct start known unaccepted between).2.1
    (by decide +kernel) (by decide +kernel)
  have told : toldJoined .standard .socket ⟨1, 2⟩ (run .standard Sample.start sampleArrival) []
      [.receive .socket 0 [255]] = [[255]] := by
    decide +kernel
  refine ⟨distinct, unaccepted, chatter, greeting.trans ?_⟩
  rw [told]
  rfl

/-- A newcomer gets something before its welcome, although nobody has sent anything to it. -/
theorem exists_payload_before_welcome :
    ∃ (acts : List Act) (newcomer : Party) (act : Act),
      (acts.filterMap Act.opened?).Nodup ∧
      (∀ other, .accept other newcomer.handle ∉ acts) ∧ act.IsChatter .socket newcomer.handle ∧
      (∀ other payload, act ≠ .sendTo other (.identity newcomer.id) payload) ∧
      (run .standard Sample.start acts).idOf? newcomer.handle = some newcomer.id ∧
      (run .standard Sample.start acts).contents newcomer.handle = [] ∧
      (acceptAmid .standard .socket newcomer (run .standard Sample.start acts) [] [act]).contents
        newcomer.handle = [[255], Codec.json.encode (.welcome newcomer.id)] := by
  refine ⟨sampleArrival, ⟨1, 2⟩, .receive .socket 0 [255], by decide, ?_, ?_, ?_, ?_, ?_, ?_⟩
  · simp [sampleArrival]
  · simp [Act.IsChatter]
  · exact fun _ _ => Act.noConfusion
  · decide +kernel
  · decide +kernel
  · decide +kernel

end Relay

end PadRelay
