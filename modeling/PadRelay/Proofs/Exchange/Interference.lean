import PadRelay.Proofs.Exchange.Calls
import PadRelay.Proofs.Exchange.Phases
import PadRelay.Proofs.Gateway.Homely

/-!
# Identities do not interfere

All identities share the tables, the counter of generations, the random source and the counters of
events. But handling a message on a clear channel is confined to the realm of its identity, and
whatever is done for another identity is confined to the rest: a message on its clear channel, a
request about it over any other connection, the close of its clear channel, and its timers. So the
two commute, in every state that a run can reach.
-/

namespace PadRelay

namespace Desk

open Script (ask)

variable (desk : Desk) {realm : Realm} {roster : Handle → Option Identity} {party : Party}

theorem ClearCall.within {desk : Desk} {request : Call} (call : desk.ClearCall party request)
    (admits : realm.Admits roster party) : request.Within realm roster := by
  cases call with
  | count | encode => trivial
  | send sealed => exact admits.has
  | _ => exact admits.2

theorem staysIn_handleClear (admits : realm.Admits roster party) (payload : Bytes) :
    (desk.handleClear party payload).StaysIn realm roster :=
  .of_only ((desk.clearCalls_handleClear party payload).mono fun _ call => call.within admits)

section Encrypted

variable {target : Identity}

theorem staysIn_reply (has : realm.Has roster party.handle) (message : Message) :
    (desk.reply party message).StaysIn realm roster := by
  refine .bind (.ask trivial) fun encoded => ?_
  cases encoded with
  | ok plain => exact .bind (.ask has) fun _ => trivial
  | error error => trivial

theorem staysIn_respond (admits : realm.Admits roster party) (message : Message) :
    (desk.respond party message).StaysIn realm roster := by
  refine .bind (.ask trivial) fun encoded => ?_
  cases encoded with
  | ok plain =>
      exact .bind (.ask admits.2) fun sealed => .bind (.ask admits.has) fun _ => trivial
  | error error => trivial

theorem staysIn_refuse (has : realm.Has roster party.handle) (code : Code) :
    (desk.refuse party code).StaysIn realm roster :=
  .bind (desk.staysIn_reply has _) fun _ => trivial

theorem staysIn_setEncrypted (admits : realm.Admits roster party) (own : realm.owns target) :
    (Script.setEncrypted desk.family target party).StaysIn realm roster := by
  refine .bind (.ask admits.has) fun secure => ?_
  split
  · refine .bind (.bind (.ask ⟨own, admits⟩) fun held => ?_) fun _ => trivial
    split
    · trivial
    · exact .ask ⟨admits.has, own⟩
  · trivial

theorem staysIn_issue (admits : realm.Admits roster party) (own : realm.owns target)
    (draws : realm.draws) (size : Option UInt32) :
    (desk.issue party target size).StaysIn realm roster := by
  rw [issue]
  split
  · exact .bind (desk.staysIn_refuse admits.has _) fun _ => trivial
  · refine .bind (.ask draws) fun drawn => ?_
    cases drawn with
    | error error => trivial
    | ok key =>
        refine .bind (.ask trivial) fun encoded => ?_
        cases encoded with
        | error error => trivial
        | ok plain =>
            refine .bind (.ask ⟨own, draws⟩) fun _ => ?_
            refine .bind (.ask own) fun clear => ?_
            cases clear with
            | none =>
                exact .bind (.ask own) fun _ =>
                  .bind (desk.staysIn_refuse admits.has _) fun _ => trivial
            | some clear =>
                exact .bind (.ask trivial) fun _ =>
                  .bind (.bind (.ask admits.has) fun _ => trivial) fun _ => trivial

theorem staysIn_deleteKey (own : realm.owns target) :
    (desk.deleteKey target).StaysIn realm roster := by
  refine .bind (.ask own) fun key => ?_
  cases key with
  | some key => exact .bind (.ask trivial) fun _ => trivial
  | none => trivial

theorem staysIn_revoke (admits : realm.Admits roster party) (own : realm.owns target) :
    (desk.revoke party target).StaysIn realm roster := by
  refine .bind (desk.staysIn_deleteKey own) fun code => ?_
  split
  · refine .clearOf own fun found admitted => ?_
    cases found with
    | some clear => exact .bind (desk.staysIn_respond (admitted clear rfl) _) fun _ => trivial
    | none => trivial
  · exact .bind (desk.staysIn_reply admits.has _) fun _ => trivial

theorem staysIn_serve (admits : realm.Admits roster party) (own : realm.owns target)
    (draws : realm.draws) (function : KeyFunction) (size : Option UInt32) :
    (desk.serve party function target size).StaysIn realm roster := by
  refine .bind (.ask own) fun clear => ?_
  cases clear with
  | none => exact .bind (desk.staysIn_refuse admits.has _) fun _ => trivial
  | some clear =>
      refine .bind (.ask ⟨own, admits.has⟩) fun matched => ?_
      split
      · refine .bind (desk.staysIn_setEncrypted admits own) fun entered => ?_
        cases entered with
        | error error => trivial
        | ok entered =>
            cases function with
            | new => exact desk.staysIn_issue admits own draws size
            | delete => exact .bind (desk.staysIn_revoke admits own) fun _ => trivial
      · trivial

theorem staysIn_readRequest (admits : realm.Admits roster party) (draws : realm.draws)
    {payload : Bytes} (about : ∀ target, desk.target? payload = some target → realm.owns target) :
    (desk.readRequest party payload).StaysIn realm roster := by
  rw [readRequest]
  split
  · next request asked =>
      obtain ⟨function, target, size⟩ := request
      refine .bind (.ask admits.has) fun secure => ?_
      split
      · split
        · exact .bind (desk.staysIn_refuse admits.has _) fun _ => trivial
        · exact .bind (desk.staysIn_refuse admits.has _) fun _ => trivial
        · next named aimed =>
            refine desk.staysIn_serve admits (about _ ?_) draws _ _
            rw [target?, asked]
            exact aimed
      · trivial
  · trivial

/-- Handling the request of an encrypted channel stays in every realm to which the channel, the
identity that it is about and the random source belong. -/
theorem staysIn_handleEncrypted (admits : realm.Admits roster party) (draws : realm.draws)
    {payload : Bytes} (about : ∀ target, desk.target? payload = some target → realm.owns target) :
    (desk.handleEncrypted party payload).StaysIn realm roster := by
  have last (outcome : EncryptedOutcome) : (desk.finish party outcome).StaysIn realm roster := by
    rw [finish]
    split
    · exact .bind (.ask trivial) fun _ => .bind (.ask admits.has) fun _ => trivial
    · exact .bind (.ask admits.has) fun _ => trivial
  rw [handleEncrypted_eq]
  refine .bind (.bind (desk.staysIn_readRequest admits draws about) fun carried => ?_) last
  cases carried with
  | ok outcome => trivial
  | error error => exact desk.staysIn_refuse admits.has _

end Encrypted

end Desk

/-- Whatever hook a call registers is one of a clear channel. -/
def Call.RegistersHome (request : Call) : Prop :=
  ∀ handle hook, request = .onClose handle hook → hook.IsHome

theorem Gateway.Homely.run {α : Type} {gateway : Gateway} (homely : gateway.Homely)
    {script : Script α} (home : script.Only Call.RegistersHome) :
    (script.run gateway).2.Homely := by
  intro handle hook waits
  rcases waits_of_run waits with before | made
  · exact homely handle hook before
  · exact home.of_mem_calls gateway _ made handle hook rfl

namespace Desk

variable (desk : Desk) {gateway : Gateway} (party : Party)

/-- Taking a connection in registers hooks of a clear channel, and on no other connection. -/
theorem registers_attach :
    (desk.attach party).Only fun request =>
      ∀ handle hook, request = .onClose handle hook → handle = party.handle ∧ hook.IsHome := by
  refine .bind (.bind (.ask ?_) fun held => ?_) fun _ => .bind (.ask ?_) fun _ =>
    (desk.plain_reply party _).mono ?_
  · rintro handle hook ⟨⟩
  · split
    · trivial
    · refine .ask ?_
      rintro handle hook ⟨⟩
      exact ⟨rfl, rfl, rfl⟩
  · rintro handle hook ⟨⟩
    exact ⟨rfl, trivial⟩
  · rintro request plain handle hook rfl
    exact plain.elim

theorem registersHome_attach : (desk.attach party).Only Call.RegistersHome :=
  (desk.registers_attach party).mono fun _ registers handle hook made =>
    (registers handle hook made).2

theorem ClearCall.registersHome {desk : Desk} {party : Party} {request : Call}
    (call : desk.ClearCall party request) : request.RegistersHome := by
  rintro handle hook rfl
  cases call

theorem homely_dropState (homely : gateway.Homely) (family : Family) :
    (gateway.dropState family).Homely := by
  intro handle hook waits
  exact homely handle hook ((Gateway.waits_congr (Gateway.connections_dropState gateway family)
    handle hook).1 waits)

/-- An encrypted channel is closed once its request has been handled. -/
theorem isOpen_handleEncrypted (payload : Bytes) :
    ((desk.handleEncrypted party payload).run gateway).2.isOpen party.handle = false := by
  rw [Gateway.isOpen_eq_mouthOf?, mouthOf?_handleEncrypted]
  cases gateway.mouthOf? party.handle <;> rfl

/-- The hook of an encrypted channel is gone with it. -/
theorem homely_handleEncrypted (homely : gateway.Homely) (payload : Bytes) :
    ((desk.handleEncrypted party payload).run gateway).2.Homely := by
  intro handle hook waits
  rcases Gateway.waits_of_run waits with before | made
  · exact homely handle hook before
  · rcases desk.mem_calls_handleEncrypted party gateway payload made with asked | closing
    · have isOpen := waits.isOpen
      cases asked
      rw [desk.isOpen_handleEncrypted] at isOpen
      cases isOpen
    · cases closing

/-- Between acts nothing waits but the hooks of clear channels. -/
theorem homely_act (homely : gateway.Homely) (act : Act) : (desk.act gateway act).2.Homely := by
  cases act with
  | occurs occurrence =>
      intro handle hook waits
      exact homely handle hook (Gateway.waits_of_undergo waits)
  | attach handle =>
      exact Gateway.attend_cases (motive := Gateway.Homely) handle desk.attach homely
        fun party _ _ => homely.run (desk.registersHome_attach party)
  | clear handle payload =>
      exact Gateway.attend_cases (motive := Gateway.Homely) handle
        (fun party => desk.handleClear party payload) homely fun party _ _ =>
          homely.run ((desk.clearCalls_handleClear party payload).mono fun _ =>
            ClearCall.registersHome)
  | encrypted handle payload =>
      exact Gateway.attend_cases (motive := Gateway.Homely) handle
        (fun party => desk.handleEncrypted party payload) homely fun party _ _ =>
          desk.homely_handleEncrypted party homely payload
  | shutdown => exact homely_dropState homely desk.family

theorem homely_run (entropy : Entropy) (expiry : Nat) (acts : List Act) :
    (desk.run (.fresh entropy expiry) acts).Homely := by
  induction acts using List.reverseRecOn with
  | nil =>
      rintro handle hook ⟨connection, found, -⟩
      cases found
  | append_singleton acts last induction =>
      rw [run_append]
      exact desk.homely_act induction last

section Acts

variable {realm : Realm} {roster : Handle → Option Identity}

theorem confined_attend {α : Type} {handle : Handle} {handler : Party → Script α}
    (stays : ∀ id, roster handle = some id → (handler ⟨handle, id⟩).StaysIn realm roster) :
    Gateway.Confined realm roster fun gateway => gateway.attend handle handler := by
  intro left right listed sheltered agrees
  have also : right.idOf? = roster := agrees.roster.symm.trans listed
  dsimp only
  cases found : roster handle with
  | none =>
      rw [Gateway.attend_of_absent (listed ▸ found), Gateway.attend_of_absent (also ▸ found)]
      exact ⟨rfl, [], List.forall_mem_nil _, rfl, rfl⟩
  | some id =>
      have known_left : left.Knows ⟨handle, id⟩ := by rw [Gateway.Knows, listed, found]
      have known_right : right.Knows ⟨handle, id⟩ := by rw [Gateway.Knows, also, found]
      obtain ⟨same, writes⟩ := Gateway.confined_run (stays id found) left right listed sheltered
        agrees
      rw [Gateway.attend_of_knows known_left, Gateway.attend_of_knows known_right]
      exact ⟨congrArg some same, writes⟩

theorem confined_clear {handle : Handle} (payload : Bytes)
    (own : ∀ id, roster handle = some id → realm.owns id) :
    Gateway.Confined realm roster fun gateway => desk.act gateway (.clear handle payload) := by
  have attended : Gateway.Confined realm roster fun gateway =>
      gateway.attend handle fun party => desk.handleClear party payload :=
    confined_attend fun id found => desk.staysIn_handleClear ⟨found, own id found⟩ payload
  exact attended.map fun outcome => outcome.elim Report.silent Report.clear

theorem confined_encrypted {handle : Handle} {payload : Bytes}
    (own : ∀ id, roster handle = some id → realm.owns id) (draws : realm.draws)
    (about : ∀ target, desk.target? payload = some target → realm.owns target) :
    Gateway.Confined realm roster fun gateway => desk.act gateway (.encrypted handle payload) := by
  have attended : Gateway.Confined realm roster fun gateway =>
      gateway.attend handle fun party => desk.handleEncrypted party payload :=
    confined_attend fun id found =>
      desk.staysIn_handleEncrypted ⟨found, own id found⟩ draws about
  exact attended.map fun outcome => outcome.elim Report.silent Report.encrypted

end Acts

/-- An act is done for an identity: a message on its clear channel, a request about it over another
connection than the given one, the close of its clear channel, or one of its timers. -/
inductive Concerns (gateway : Gateway) (handle : Handle) (identity : Identity) : Act → Prop
  /-- A message comes over its clear channel. -/
  | clear {other : Handle} (own : gateway.idOf? other = some identity) (payload : Bytes) :
      Concerns gateway handle identity (.clear other payload)
  /-- A request about it comes over another connection. -/
  | encrypted {other : Handle} {payload : Bytes} (apart : other ≠ handle)
      (about : desk.target? payload = some identity) :
      Concerns gateway handle identity (.encrypted other payload)
  /-- Its clear channel closes. -/
  | closes {other : Handle} (own : gateway.idOf? other = some identity) :
      Concerns gateway handle identity (.occurs (.closes other))
  /-- A timer of it goes off. -/
  | rings (generation : Nat) : Concerns gateway handle identity (.occurs (.rings identity generation))

/-- Two acts commute in a state. -/
structure Commute (gateway : Gateway) (one two : Act) : Prop where
  /-- The first reports the same before and after the second. -/
  first : (desk.act (desk.act gateway two).2 one).1 = (desk.act gateway one).1
  /-- The second reports the same before and after the first. -/
  second : (desk.act (desk.act gateway one).2 two).1 = (desk.act gateway two).1
  /-- Both orders end alike. -/
  same : (desk.act (desk.act gateway one).2 two).2.Same (desk.act (desk.act gateway two).2 one).2

theorem Concerns.confined {desk : Desk} {gateway : Gateway} {ids : List Identity} {handle : Handle}
    {identity other : Identity} {act : Act} (concerns : desk.Concerns gateway handle other act)
    (lists : gateway.Lists ids) (distinct : ids.Nodup) (own : gateway.idOf? handle = some identity)
    (different : other ≠ identity) :
    Gateway.Confined (Realm.of identity).rest gateway.idOf? fun state => desk.act state act := by
  cases concerns with
  | clear listed payload =>
      refine desk.confined_clear payload fun id found => ?_
      rw [listed, Option.some.injEq] at found
      exact found ▸ different
  | encrypted apart about =>
      refine desk.confined_encrypted (fun id found same => apart ?_) not_false fun target named => ?_
      · rw [same] at found
        exact lists.handle_eq distinct found own
      · rw [about, Option.some.injEq] at named
        exact named ▸ different
  | closes listed =>
      have has : (Realm.of identity).rest.Has gateway.idOf? _ := ⟨other, listed, different⟩
      exact (Gateway.confined_close has).map fun _ => Report.silent
  | rings generation =>
      have outside : (Realm.of identity).rest.owns other := different
      exact (Gateway.confined_ring outside generation).map fun _ => Report.silent

/-- Identities do not interfere. In every state that the processor reaches over connections with
distinct identities, handling any bytes on the clear channel of one identity commutes with whatever
is done for another one. -/
theorem commute_of_concerns (entropy : Entropy) (expiry : Nat) (acts : List Act)
    (distinct : (acts.filterMap Act.opened?).Nodup) {handle : Handle} {identity other : Identity}
    (own : (desk.run (.fresh entropy expiry) acts).idOf? handle = some identity) (payload : Bytes)
    {act : Act} (concerns : desk.Concerns (desk.run (.fresh entropy expiry) acts) handle other act)
    (different : other ≠ identity) :
    desk.Commute (desk.run (.fresh entropy expiry) acts) (.clear handle payload) act := by
  have reached := desk.reached_run entropy expiry acts
  have homely := desk.homely_run entropy expiry acts
  generalize desk.run (.fresh entropy expiry) acts = gateway at *
  have inside : Gateway.Confined (Realm.of identity) gateway.idOf? fun state =>
      desk.act state (.clear handle payload) := by
    refine desk.confined_clear payload fun id found => ?_
    rw [own, Option.some.injEq] at found
    exact found.symm
  have outside := concerns.confined reached.lists distinct own different
  obtain ⟨first, second, same⟩ := inside.commute outside (homely.sheltered reached.sound _)
    (homely.sheltered reached.sound _)
  exact ⟨first, second, same⟩

end Desk

namespace Sample

/-- A second client connects before the first one has acknowledged its key. -/
def crowd : List Act :=
  acts.take 4 ++
    [.occurs (.opens 3 false remote (.record [] false)),
      .occurs (.opens 4 true remote (.record [] false)),
      .attach 2]

/-- The second client asks for a key. -/
def request : Bytes := Codec.json.encode (.keyRequest (.newKey 3 (some 1)))

end Sample

/-- The first client of the sample acknowledges its key and the second one asks for one, in either
order. -/
theorem Desk.sample_clients_commute :
    (Sample.crowd.filterMap Act.opened?).Nodup ∧
      let gateway := Desk.run {} Sample.start Sample.crowd
      gateway.idOf? 0 = some 1 ∧
      Desk.Concerns {} gateway 0 3 (.encrypted 3 Sample.request) ∧
      (Desk.act {} gateway (.clear 0 Sample.ack)).1 = .clear .activated ∧
      (Desk.act {} gateway (.encrypted 3 Sample.request)).1 = .encrypted .keyIssued ∧
      Desk.Commute {} gateway (.clear 0 Sample.ack) (.encrypted 3 Sample.request) := by
  have distinct : (Sample.crowd.filterMap Act.opened?).Nodup := by decide
  have own : (Desk.run {} Sample.start Sample.crowd).idOf? 0 = some 1 := by decide +kernel
  have about : Desk.target? {} Sample.request = some 3 := by decide +kernel
  have concerns : Desk.Concerns {} (Desk.run {} Sample.start Sample.crowd) 0 3
      (.encrypted 3 Sample.request) := .encrypted (by decide) about
  exact ⟨distinct, own, concerns, by decide +kernel, by decide +kernel,
    Desk.commute_of_concerns {} _ _ Sample.crowd distinct own Sample.ack concerns (by decide)⟩

end PadRelay
