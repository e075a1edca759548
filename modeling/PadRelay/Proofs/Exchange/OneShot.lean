import PadRelay.Proofs.Exchange.Interference
import PadRelay.Proofs.Exchange.Issuing
import PadRelay.Proofs.Gateway.Lodging

/-!
# One request, then the end

An encrypted channel carries one request and is closed. Its connection may have been closed before,
may refuse the answer, and may carry the identity of another connection; whatever becomes of the
request, at most one payload is handed over, no encrypted slot stays occupied, and a request that
fails leaves the keys, the pairs and the random source as they were.
-/

namespace PadRelay

/-- A message tells a failure on an encrypted channel, and gives no key away. -/
structure Message.Refuses (message : Message) (code : Code) : Prop where
  /-- It answers a request for a key, or one to end a key. -/
  form : message = .keyFailure code ∨ message = .deleteOutcome code
  /-- It tells a failure. -/
  failure : code.isOk = false
  /-- It carries no key. -/
  keyless : message.key? = none

namespace Desk

variable {desk : Desk} {gateway before middle : Gateway} {party clear : Party} {payload : Bytes}
  {target : Identity}

/-- A request hands over at most one payload: it is kept by the connection that it is meant for, if
that takes it, and by no other. -/
theorem contents_handleEncrypted
    (once : ((desk.handleEncrypted party payload).sent gateway).length ≤ 1) (handle : Handle) :
    ((desk.handleEncrypted party payload).run gateway).2.contents handle =
      gateway.contents handle ++
        if (gateway.mouthOf? handle).any Mouth.takes then
          (desk.handleEncrypted party payload).sentTo handle gateway
        else [] := by
  have short := Nat.le_trans (Script.length_sentTo_le handle _ gateway) once
  by_cases same : handle = party.handle
  · subst same
    rw [Gateway.contents, mouthOf?_handleEncrypted, Gateway.contents]
    cases gateway.mouthOf? party.handle with
    | none => rfl
    | some mouth => exact mouth.contents_pushAll short
  · have unclosed : .close handle ∉ (desk.handleEncrypted party payload).calls gateway := by
      intro made
      rcases desk.mem_calls_handleEncrypted party gateway payload made with early | closing
      · cases early
      · cases closing
        exact same rfl
    rw [Gateway.contents, Gateway.mouthOf?_run_of_unclosed gateway handle unclosed,
      Gateway.contents]
    cases gateway.mouthOf? handle with
    | none => rfl
    | some mouth => exact mouth.contents_pushAll short

/-- A connection that is no clear channel calls on a gateway whose encrypted slots are all free. -/
structure Visits (gateway : Gateway) (party : Party) : Prop where
  known : gateway.Knows party
  idle : gateway.IsIdle party.handle
  free : ∀ family identity, gateway.slot family identity .encrypted = none
  hosts : ∀ family identity clear, gateway.connectionOf family identity .clear = some clear →
    clear.id = identity ∧ clear.handle ≠ party.handle

/-- How the request of an encrypted channel ends before the channel is closed: what has been handed
over, what became of the request, and the gateway that is left. -/
inductive Ends (desk : Desk) (payload : Bytes) (party : Party) (before : Gateway) :
    List (Handle × Bytes) → EncryptedOutcome × Gateway → Prop
  /-- A new key is told to the channel. -/
  | issued {after : Gateway} (key : Key) :
      Ends desk payload party before
        [(party.handle, desk.codec.encode (.keyResponse (.issued key.bytes)))] (.keyIssued, after)
  /-- The end of the active key is told to the clear channel of its identity, as it is. -/
  | revoked {target : Identity} {requested : Option UInt32} {clear : Party} {after : Gateway}
      (asked : desk.codec.decode payload =
        .ok (.keyRequest ⟨some .delete, some target, requested⟩))
      (found : before.connectionOf desk.family target .clear = some clear) :
      Ends desk payload party before
        [(clear.handle, desk.codec.encode (.deleteOutcome .ok))] (.keyDeleted, after)
  /-- A failure is told to the channel. -/
  | rejected {code : Code} {message : Message} {after : Gateway} (refuses : message.Refuses code)
      (lodges : before.Lodges party after) :
      Ends desk payload party before [(party.handle, desk.codec.encode message)]
        (.rejected code, after)
  /-- Nobody is told anything. -/
  | dropped {code : Code} {after : Gateway} (lodges : before.Lodges party after) :
      Ends desk payload party before [] (.dropped code, after)

namespace Ends

variable {sent : List (Handle × Bytes)} {code : Code} {after : Gateway}

theorem length_le {result : EncryptedOutcome × Gateway}
    (ends : desk.Ends payload party before sent result) : sent.length ≤ 1 := by
  cases ends with
  | dropped lodges => exact Nat.zero_le 1
  | _ => exact Nat.le_refl 1

theorem lodges {outcome : EncryptedOutcome}
    (ends : desk.Ends payload party before sent (outcome, after))
    (failure : outcome.isFailure = true) : before.Lodges party after := by
  cases ends with
  | issued key => cases failure
  | revoked asked found => cases failure
  | rejected refuses lodges => exact lodges
  | dropped lodges => exact lodges

theorem eq_nil (ends : desk.Ends payload party before sent (.dropped code, after)) :
    sent = [] := by
  cases ends
  rfl

theorem exists_refuses (ends : desk.Ends payload party before sent (.rejected code, after)) :
    ∃ message : Message, message.Refuses code ∧
      sent = [(party.handle, desk.codec.encode message)] := by
  cases ends with
  | rejected refuses lodges => exact ⟨_, refuses, rfl⟩

theorem exists_clear (ends : desk.Ends payload party before sent (.keyDeleted, after)) :
    ∃ target requested clear,
      desk.codec.decode payload = .ok (.keyRequest ⟨some .delete, some target, requested⟩) ∧
        before.connectionOf desk.family target .clear = some clear ∧
          sent = [(clear.handle, desk.codec.encode (.deleteOutcome .ok))] := by
  cases ends with
  | revoked asked found => exact ⟨_, _, _, asked, found, rfl⟩

end Ends

/-- A script that reads or carries out a request comes to one of these ends, without an error. -/
def EndsWell (desk : Desk) (payload : Bytes) (party : Party) (before middle : Gateway)
    (script : Script (Except RequestError EncryptedOutcome)) : Prop :=
  ∃ outcome, (script.run middle).1 = .ok outcome ∧
    desk.Ends payload party before (script.sent middle) (outcome, (script.run middle).2)

theorem Ends.endsWell {script : Script EncryptedOutcome}
    (ends : desk.Ends payload party before (script.sent middle) (script.run middle)) :
    desk.EndsWell payload party before middle (script >>= fun outcome => pure (.ok outcome)) := by
  refine ⟨(script.run middle).1, by rw [Script.run_bind, Script.run_pure], ?_⟩
  rw [Script.run_bind, Script.run_pure, Script.sent_bind, Script.sent_pure, List.append_nil]
  exact ends

/-- Silent steps in front of a script leave its end as it is. -/
theorem EndsWell.bind {α : Type} {script : Script α}
    {next : α → Script (Except RequestError EncryptedOutcome)}
    (silent : script.sent middle = [])
    (ends : desk.EndsWell payload party before (script.run middle).2
      (next (script.run middle).1)) :
    desk.EndsWell payload party before middle (script >>= next) := by
  obtain ⟨outcome, carried, ends⟩ := ends
  refine ⟨outcome, by rw [Script.run_bind, carried], ?_⟩
  rw [Script.run_bind, Script.sent_bind, silent, List.nil_append]
  exact ends

theorem ends_refuse (lodges : before.Lodges party middle) {code : Code}
    (failure : code.isOk = false) :
    desk.Ends payload party before ((desk.refuse party code).sent middle)
      ((desk.refuse party code).run middle) :=
  .rejected ⟨.inl rfl, failure, rfl⟩ (lodges.send _)

theorem ends_dropped (lodges : before.Lodges party middle) (code : Code) :
    desk.EndsWell payload party before middle (pure (.ok (.dropped code))) :=
  ⟨.dropped code, rfl, .dropped lodges⟩

theorem ends_issue (lodges : before.Lodges party middle) {requested : Option UInt32}
    (found : middle.connectionOf desk.family target .clear = some clear) :
    desk.EndsWell payload party before middle (desk.issue party target requested) := by
  rw [issue]
  cases resolved : desk.policy.resolve requested with
  | error error => exact (ends_refuse lodges rfl).endsWell
  | ok size =>
      obtain ⟨key, rest, drawn, -⟩ := Key.generate_of_resolve resolved middle.entropy
      have still : (middle.stageNew target key rest).connectionOf desk.family target .clear =
          some clear := found
      have generated : (Script.ask (.generate desk.policy size)).run middle =
          (.ok key, { middle with entropy := rest }) := by
        rw [Script.run_ask]
        simp only [Gateway.perform, drawn]
      refine .bind rfl ?_
      rw [generated]
      -- The answer is written, the key is staged, and the clear channel is looked at again.
      refine .bind rfl (.bind rfl (.bind rfl ?_))
      split
      · next gone => cases still.symm.trans gone
      · exact ⟨.keyIssued, rfl, .issued key⟩

/-- Without an active key a message goes over a clear connection as it is. -/
theorem sent_respond_of_keyless (desk : Desk) (clear : Party)
    (keyless : gateway.active.get? clear.id = none) (message : Message) :
    (desk.respond clear message).sent gateway = [(clear.handle, desk.codec.encode message)] := by
  have said : (desk.respond clear message).sent gateway =
      [(clear.handle, (gateway.sealFor desk.family clear.id (desk.codec.encode message)).1)] := rfl
  simp only [said, Gateway.sealFor, keyless]

/-- The answer about the end of a key is sealed with no key, for the active one has just gone. -/
theorem ends_revoke (lodges : before.Lodges party middle) {requested : Option UInt32}
    (asked : desk.codec.decode payload =
      .ok (.keyRequest ⟨some .delete, some target, requested⟩))
    (sought : before.connectionOf desk.family target .clear = some clear)
    (found : middle.connectionOf desk.family target .clear = some clear) (own : clear.id = target) :
    desk.Ends payload party before ((desk.revoke party target).sent middle)
      ((desk.revoke party target).run middle) := by
  rw [revoke, Script.run_bind, Script.sent_bind, (desk.silent_deleteKey target).sent_eq_nil,
    List.nil_append]
  rcases desk.deleteKey_cases middle target with ⟨key, active, ran⟩ | ⟨code, failed, ran⟩
  · rw [ran]
    have still : ((middle.deactivate target).count desk.family .deleted).connectionOf desk.family
        target .clear = some clear := by
      rw [Gateway.count, Gateway.connectionOf_modifyLayer, if_pos rfl]
      exact found
    have keyless : ((middle.deactivate target).count desk.family .deleted).active.get? clear.id =
        none := by
      rw [Gateway.count, Gateway.active_modifyLayer, own]
      exact Table.get?_erase_self _ _
    have succeeds : Code.ok.isOk = true := rfl
    simp only [succeeds, if_true]
    rw [Script.run_bind, Script.sent_bind, Script.run_ask]
    have plain : (desk.respond clear (.deleteOutcome .ok)).sent
        ((middle.deactivate target).count desk.family .deleted) =
          [(clear.handle, desk.codec.encode (.deleteOutcome .ok))] :=
      desk.sent_respond_of_keyless clear keyless _
    simp only [Gateway.perform, still, Script.sent_bind, Script.sent_pure, Script.run_bind,
      Script.run_pure, plain, List.append_nil]
    exact .revoked asked sought
  · rw [ran]
    simp only [failed, Bool.false_eq_true, if_false]
    exact .rejected ⟨.inr rfl, failed, rfl⟩ (lodges.send _)

theorem Visits.lodges (visits : Visits gateway party) : gateway.Lodges party gateway :=
  .outside (.refl gateway) visits.idle

theorem ends_serve (visits : Visits before party) {function : KeyFunction}
    {requested : Option UInt32}
    (asked : desk.codec.decode payload =
      .ok (.keyRequest ⟨some function, some target, requested⟩))
    (secure : before.isSecure party.handle = true) :
    desk.EndsWell payload party before before (desk.serve party function target requested) := by
  unfold serve
  refine .bind rfl ?_
  rw [Script.run_ask]
  simp only [Gateway.perform]
  cases found : before.connectionOf desk.family target .clear with
  | none => exact (ends_refuse visits.lodges rfl).endsWell
  | some clear =>
      obtain ⟨own, apart⟩ := visits.hosts desk.family target clear found
      refine .bind rfl ?_
      rw [Script.run_ask]
      split
      · have entered := Gateway.lodges_occupy visits.known visits.idle
          (visits.free desk.family target) found apart
        have still := (Gateway.connectionOf_occupy_of_ne before desk.family desk.family target
          .encrypted .clear party target Role.noConfusion).trans found
        refine .bind ((silent_setEncrypted party desk.family target).sent_eq_nil _) ?_
        simp only [Gateway.perform]
        rw [Gateway.setEncrypted_of_isSecure secure]
        cases function with
        | new => exact ends_issue entered still
        | delete => exact (ends_revoke entered asked found still own).endsWell
      · exact ends_dropped visits.lodges _

theorem ends_readRequest (visits : Visits before party) :
    desk.EndsWell payload party before before (desk.readRequest party payload) := by
  rw [readRequest]
  split
  · next request asked =>
      refine .bind rfl ?_
      rw [Script.run_ask]
      split
      · next secure =>
          obtain ⟨function, target, requested⟩ := request
          simp only
          split
          · exact (ends_refuse visits.lodges rfl).endsWell
          · exact (ends_refuse visits.lodges rfl).endsWell
          · exact ends_serve visits asked secure
      · exact ends_dropped visits.lodges _
  · exact ends_dropped visits.lodges _

theorem ends_attempt (visits : Visits before party) :
    desk.Ends payload party before ((desk.attempt party payload).sent before)
      ((desk.attempt party payload).run before) := by
  have read : desk.EndsWell payload party before before (desk.readRequest party payload) :=
    ends_readRequest visits
  obtain ⟨outcome, carried, ends⟩ := read
  rw [attempt, Script.sent_bind, Script.run_bind]
  simp only [carried, Script.sent_pure, Script.run_pure, List.append_nil]
  exact ends

/-- The close takes a guest out of its slot, unless it has left before. -/
theorem restored_finish (lodges : before.Lodges party middle) (outcome : EncryptedOutcome) :
    before.Restored ((desk.finish party outcome).run middle).2 := by
  have closing (gateway : Gateway) (lodges : before.Lodges party gateway) :
      before.Restored (gateway.close party.handle) :=
    lodges.close.restored_of_closed (gateway.isOpen_close party.handle)
  rw [finish]
  dsimp only
  split
  · exact closing _ (lodges.count desk.family .rejected)
  · exact closing _ lodges

/-- A channel has carried its one request, with these payloads handed over, this outcome and this
gateway left. -/
structure OneShot (desk : Desk) (payload : Bytes) (party : Party) (before : Gateway)
    (sent : List (Handle × Bytes)) (outcome : EncryptedOutcome) (after : Gateway) : Prop where
  /-- The channel is closed. -/
  closed : after.isOpen party.handle = false
  /-- No encrypted slot is occupied. -/
  vacant : ∀ family identity, after.slot family identity .encrypted = none
  /-- At most one payload is handed over. -/
  once : sent.length ≤ 1
  /-- A connection keeps the payload that it is handed if it takes it, and no other. -/
  handed : ∀ handle, after.contents handle = before.contents handle ++
    if (before.mouthOf? handle).any Mouth.takes then
      (sent.filter fun sending => sending.1 = handle).map Prod.snd
    else []
  /-- A request that is dropped gets no answer. -/
  dropped : ∀ code, outcome = .dropped code → sent = []
  /-- A request that is rejected gets one answer, a failure with the code. -/
  rejected : ∀ code, outcome = .rejected code → ∃ message : Message, message.Refuses code ∧
    sent = [(party.handle, desk.codec.encode message)]
  /-- The end of a key is told on the clear channel of its identity alone, and as it is. -/
  deleted : outcome = .keyDeleted → ∃ target requested clear,
    desk.codec.decode payload = .ok (.keyRequest ⟨some .delete, some target, requested⟩) ∧
      before.connectionOf desk.family target .clear = some clear ∧ clear.handle ≠ party.handle ∧
        sent = [(clear.handle, desk.codec.encode (.deleteOutcome .ok))]
  /-- A failure leaves the keys, the pairs and the random source as they were. -/
  restored : outcome.isFailure = true → before.Restored after

/-- The end of a request decides what the whole handler hands over and returns. -/
theorem exists_ends (visits : Visits gateway party) (payload : Bytes) :
    ∃ middle outcome, (desk.handleEncrypted party payload).run gateway =
        (outcome, ((desk.finish party outcome).run middle).2) ∧
      desk.Ends payload party gateway ((desk.handleEncrypted party payload).sent gateway)
        (outcome, middle) := by
  have silent := desk.silent_finish party ((desk.attempt party payload).run gateway).1
  refine ⟨((desk.attempt party payload).run gateway).2,
    ((desk.attempt party payload).run gateway).1, ?_, ?_⟩
  · rw [handleEncrypted_eq, Script.run_bind]
    exact Prod.ext (desk.run_finish_fst party _ _) rfl
  · rw [handleEncrypted_eq, Script.sent_bind, silent.sent_eq_nil, List.append_nil]
    exact ends_attempt visits

theorem oneShot_of_visits (visits : Visits gateway party) (sound : gateway.Sound [] none)
    (homely : gateway.Homely) (payload : Bytes) :
    desk.OneShot payload party gateway ((desk.handleEncrypted party payload).sent gateway)
      ((desk.handleEncrypted party payload).run gateway).1
      ((desk.handleEncrypted party payload).run gateway).2 := by
  have closed : ((desk.handleEncrypted party payload).run gateway).2.isOpen party.handle = false :=
    desk.isOpen_handleEncrypted party payload
  have vacant := (desk.homely_handleEncrypted party homely payload).slot_encrypted
    (sound.handleEncrypted desk visits.known payload)
  have handed := @contents_handleEncrypted desk gateway party payload
  obtain ⟨middle, outcome, ran, ends⟩ := desk.exists_ends visits payload
  rw [ran] at closed vacant handed ⊢
  refine ⟨closed, vacant, ends.length_le, handed ends.length_le, ?_, ?_, ?_, ?_⟩
  · rintro code rfl
    exact ends.eq_nil
  · rintro code rfl
    exact ends.exists_refuses
  · rintro rfl
    obtain ⟨target, requested, clear, asked, found, sent⟩ := ends.exists_clear
    exact ⟨target, requested, clear, asked, found, (visits.hosts _ _ _ found).2, sent⟩
  · intro failure
    exact restored_finish (ends.lodges failure) outcome

theorem attachedOnly_act (desk : Desk) {ids : List Identity} (attachedOnly : gateway.AttachedOnly)
    (lists : gateway.Lists ids) (act : Act) : (desk.act gateway act).2.AttachedOnly := by
  cases act with
  | occurs occurrence => exact attachedOnly.undergo lists occurrence
  | attach handle =>
      refine Gateway.attend_cases (motive := Gateway.AttachedOnly) handle desk.attach attachedOnly
        fun party known _ => attachedOnly.run fun other hook registered isOpen => ?_
      obtain ⟨rfl, -⟩ :=
        (desk.registers_attach party).of_mem_calls gateway _ registered other hook rfl
      exact desk.isAttached_attach known isOpen
  | clear handle payload =>
      refine Gateway.attend_cases (motive := Gateway.AttachedOnly) handle
        (fun party => desk.handleClear party payload) attachedOnly fun party _ _ =>
          attachedOnly.run fun other hook registered _ => ?_
      cases (desk.clearCalls_handleClear party payload).of_mem_calls gateway _ registered
  | encrypted handle payload =>
      refine Gateway.attend_cases (motive := Gateway.AttachedOnly) handle
        (fun party => desk.handleEncrypted party payload) attachedOnly fun party _ _ =>
          attachedOnly.run fun other hook registered isOpen => ?_
      rcases desk.mem_calls_handleEncrypted party gateway payload registered with asked | closing
      · cases asked
        rw [desk.isOpen_handleEncrypted] at isOpen
        cases isOpen
      · cases closing
  | shutdown => exact attachedOnly.congr (Gateway.connections_dropState gateway desk.family)

theorem attachedOnly_run (desk : Desk) (entropy : Entropy) (expiry : Nat) (acts : List Act) :
    (desk.run (.fresh entropy expiry) acts).AttachedOnly := by
  induction acts using List.reverseRecOn with
  | nil => exact Gateway.attachedOnly_fresh entropy expiry
  | append_singleton acts last induction =>
      rw [run_append]
      exact desk.attachedOnly_act induction (desk.reached_run entropy expiry acts).lists last

theorem visits_of_unattached (attachedOnly : gateway.AttachedOnly) (homely : gateway.Homely)
    (sound : gateway.Sound [] none) (known : gateway.Knows party)
    (unattached : ¬ gateway.IsAttached party.handle) : Visits gateway party where
  known := known
  idle := attachedOnly.isIdle sound.own unattached
  free := homely.slot_encrypted sound
  hosts family identity clear found := by
    obtain ⟨own, waits⟩ := sound.waits_of_connectionOf found
    exact ⟨own, fun same => unattached (same ▸ waits.isAttached)⟩

/-- **An encrypted channel is good for one request.** In every state that the processor reaches no
encrypted slot is occupied. Whatever bytes come over a connection that is no clear channel, be it
open or closed, secure or not, the connection is closed afterwards and stands in no slot; at most
one payload is handed over, and a failure leaves keys, pairs and random source as they were. -/
theorem oneShot_handleEncrypted (desk : Desk) (entropy : Entropy) (expiry : Nat)
    (acts : List Act) :
    let gateway := desk.run (.fresh entropy expiry) acts
    (∀ family identity, gateway.slot family identity .encrypted = none) ∧
      ∀ party payload, gateway.Knows party → ¬ gateway.IsAttached party.handle →
        desk.OneShot payload party gateway ((desk.handleEncrypted party payload).sent gateway)
          ((desk.handleEncrypted party payload).run gateway).1
          ((desk.handleEncrypted party payload).run gateway).2 := by
  intro gateway
  have sound : gateway.Sound [] none := (desk.reached_run entropy expiry acts).sound
  have homely : gateway.Homely := desk.homely_run entropy expiry acts
  have attachedOnly : gateway.AttachedOnly := desk.attachedOnly_run entropy expiry acts
  refine ⟨homely.slot_encrypted sound, fun party payload known unattached => ?_⟩
  exact oneShot_of_visits (visits_of_unattached attachedOnly homely sound known unattached) sound
    homely payload

/-- In the sample run a request to end a key that is not there is refused, without a trace. -/
theorem sample_refusal_leaves_no_trace :
    let gateway := Desk.run {} Sample.start (Sample.acts.take 3)
    let script := Desk.handleEncrypted {} ⟨1, 2⟩ (Codec.json.encode (.keyRequest (.deleteKey 1)))
    gateway.Knows ⟨1, 2⟩ ∧ ¬ gateway.IsAttached 1 ∧
      (script.run gateway).1 = .rejected .noActiveKey ∧
      (∃ message : Message, message.Refuses .noActiveKey ∧
        script.sent gateway = [(1, Codec.json.encode message)]) ∧
      gateway.Restored (script.run gateway).2 := by
  intro gateway script
  have known : gateway.Knows ⟨1, 2⟩ := by
    rw [Gateway.Knows]
    decide +kernel
  have idle : gateway.IsIdle 1 := by decide +kernel
  have refused : (script.run gateway).1 = .rejected .noActiveKey := by decide +kernel
  have shot := (Desk.oneShot_handleEncrypted {} (.arithmetic 1 1) 30 (Sample.acts.take 3)).2 ⟨1, 2⟩
    (Codec.json.encode (.keyRequest (.deleteKey 1))) known idle.not_isAttached
  refine ⟨known, idle.not_isAttached, refused, shot.rejected _ refused, shot.restored ?_⟩
  exact congrArg EncryptedOutcome.isFailure refused

end Desk

end PadRelay
