import PadRelay.Config
import PadRelay.Proofs.Assurance
import PadRelay.Proofs.Exchange.Replies
import PadRelay.Proofs.Gateway.Tenancy

/-!
# Handlers never fail

A handler can end in an error at three calls: a connection enters the encrypted slot, a key is
drawn, a message is written. Each of them comes after a check that rules the error out. The
connection has been seen to be secure, and connections stay as secure as they are; the size has been
resolved by the policy that is asked again when the key is drawn; and every message can be written.
So the codes that only such an error has are never told to anybody.
-/

namespace PadRelay

/-- A code that a handler gives on its own account: none of an error, and not that of a channel
without transport security, who is told nothing at all. -/
def Code.IsRegular (code : Code) : Prop := code ≠ .unexpected ∧ code ≠ .notEncrypted

instance (code : Code) : Decidable code.IsRegular := inferInstanceAs (Decidable (_ ∧ _))

def Message.code? : Message → Option Code
  | .keyResponse response => some response.code
  | .ackResponse outcome | .deleteResponse outcome => some outcome.code
  | .errorResponse code _ => some code
  | .welcome _ | .keyRequest _ | .keyAck _ => none

/-- A message whose code, if it has one, is regular. -/
def Message.IsRegular (message : Message) : Prop :=
  ∀ code, message.code? = some code → code.IsRegular

theorem Message.IsRegular.of_code {message : Message} {code : Code}
    (carried : message.code? = some code) (regular : code.IsRegular) : message.IsRegular := by
  intro other found
  cases carried.symm.trans found
  exact regular

/-- A key is the active key of an identity. -/
def Key.IsActiveIn (active : Table Identity Key) (identity : Identity) (key : Key) : Prop :=
  active.get? identity = some key

/-- A payload that tells a regular message: written as it is, or sealed with a held key. -/
inductive Codec.Tells (codec : Codec) (held : Identity → Key → Prop) : Bytes → Prop
  | plain {message : Message} (regular : message.IsRegular) :
      Tells codec held (codec.encode message)
  | sealed {message : Message} {identity : Identity} {key : Key} (regular : message.IsRegular)
      (holder : held identity key) :
      Tells codec held (Cipher.transform key (codec.encode message))

theorem Connection.secure_send {κ : Type} (connection : Connection κ) (payload : Bytes) :
    (connection.send payload).2.1.secure = connection.secure := by
  rw [send]
  split
  · split
    · rfl
    · split <;> rfl
  · split
    · rfl
    · split <;> rfl

namespace Gateway

variable (gateway : Gateway)

theorem isSecure_settle {handle : Handle} {connection turned : Connection Hook}
    (found : gateway.connections.get? handle = some connection)
    (same : turned.secure = connection.secure) (due : List Hook) (other : Handle) :
    (gateway.settle handle turned due).isSecure other = gateway.isSecure other :=
  (isSecure_congr (connections_settle ..) other).trans (isSecure_replace found same other)

/-- No call changes the transport security of a connection. -/
theorem isSecure_perform (request : Call) (handle : Handle) :
    (gateway.perform request).2.isSecure handle = gateway.isSecure handle := by
  cases request with
  | send other payload =>
      cases found : gateway.connections.get? other with
      | none => simp only [perform, send, found]
      | some connection =>
          simp only [perform]
          rw [send_eq gateway payload found]
          exact gateway.isSecure_settle found (connection.secure_send payload) _ handle
  | close other =>
      cases found : gateway.connections.get? other with
      | none => simp only [perform, close, found]
      | some connection =>
          simp only [perform]
          have same : connection.close.1.secure = connection.secure := rfl
          rw [close_eq gateway found]
          exact gateway.isSecure_settle found same _ handle
  | onClose other hook =>
      cases found : gateway.connections.get? other with
      | none => simp only [perform, onClose, found]
      | some connection =>
          simp only [perform]
          have same : (connection.onClose hook).1.secure = connection.secure := rfl
          rw [onClose_eq gateway hook found]
          exact gateway.isSecure_settle found same _ handle
  | sealFor family identity payload =>
      simp only [perform, sealFor]
      split
      · exact isSecure_congr (by simp [count]) handle
      · rfl
  | dress family recipient payload =>
      simp only [perform, dress, sealFor]
      split
      · split
        · exact isSecure_congr (by simp [count]) handle
        · rfl
      · rfl
  | generate policy size =>
      simp only [perform]
      split <;> rfl
  | _ => exact isSecure_congr (by simp [perform, count, place, stagedKey]) handle

theorem active_perform {request : Call} (other : ∀ identity key, request ≠ .activate identity key)
    {identity : Identity} {key : Key}
    (held : (gateway.perform request).2.active.get? identity = some key) :
    gateway.active.get? identity = some key := by
  have of_sheds {after : Gateway} (sheds : gateway.Sheds after)
      (held : after.active.get? identity = some key) :
      gateway.active.get? identity = some key := by
    rcases sheds.active identity with gone | kept
    · rw [gone] at held
      cases held
    · exact kept ▸ held
  cases request with
  | isOpen | isSecure | send | close | encode | count | clearOf | hostMatches | lookup | audience
  | staged | retired | active | sealFor | dress =>
      exact of_sheds (drifts_perform (by trivial) gateway).sheds held
  | onClose handle hook => exact of_sheds (.onClose gateway handle hook) held
  | place | enter | join | watch | forget => simpa [perform, place] using held
  | generate policy size =>
      simp only [perform] at held
      split at held <;> exact held
  | stage | unstage | takeStaged => exact held
  | activate subject key => exact absurd rfl (other subject key)
  | deactivate subject =>
      simp only [perform, Table.get?_erase] at held
      split at held
      · cases held
      · exact held

/-- Connections are as secure as given, and no key is active but those given. -/
structure IsWithin (gateway : Gateway) (isSecure : Handle → Bool) (held : Identity → Key → Prop) :
    Prop where
  secure : ∀ handle, gateway.isSecure handle = isSecure handle
  held : ∀ identity key, gateway.active.get? identity = some key → held identity key

end Gateway

/-- What the answer to a call is sure to be while connections are as secure as given and no key is
active but those given. -/
def Call.Foreseen (isSecure : Handle → Bool) (held : Identity → Key → Prop) :
    (request : Call) → request.Reply → Prop
  | .isSecure handle, reply => reply = isSecure handle
  | .encode codec message, reply => reply = .ok (codec.encode message)
  | .generate policy size, reply =>
      ∀ requested, policy.resolve requested = .ok size → ∃ key, reply = .ok key ∧ key.size = size
  | .sealFor _ identity payload, reply => reply = payload ∨
      ∃ key, held identity key ∧ reply = Cipher.transform key payload
  | _, _ => True

def Call.Tells (codec : Codec) (held : Identity → Key → Prop) : Call → Prop
  | .encode _ message => message.IsRegular
  | .sealFor _ _ payload => ∃ message : Message, message.IsRegular ∧ payload = codec.encode message
  | .send _ payload => codec.Tells held payload
  | .activate _ _ => False
  | _ => True

namespace Gateway.IsWithin

variable {gateway : Gateway} {isSecure : Handle → Bool} {held : Identity → Key → Prop}

theorem foreseen (within : gateway.IsWithin isSecure held) (request : Call) :
    request.Foreseen isSecure held (gateway.perform request).1 := by
  cases request with
  | isSecure handle => exact within.secure handle
  | encode codec message => rfl
  | generate policy size =>
      intro requested resolved
      obtain ⟨key, rest, drawn, sized⟩ := Key.generate_of_resolve resolved gateway.entropy
      exact ⟨key, by simp only [perform, drawn], sized⟩
  | sealFor family identity payload =>
      simp only [Call.Foreseen, perform, sealFor]
      split
      · next key active => exact .inr ⟨key, within.held identity key active, rfl⟩
      · exact .inl rfl
  | _ => trivial

theorem perform (within : gateway.IsWithin isSecure held) {codec : Codec} {request : Call}
    (tells : request.Tells codec held) : (gateway.perform request).2.IsWithin isSecure held where
  secure handle := (gateway.isSecure_perform request handle).trans (within.secure handle)
  held identity key active := by
    refine within.held identity key (gateway.active_perform (fun subject key same => ?_) active)
    rw [same] at tells
    exact tells

end Gateway.IsWithin

/-- How the request of a channel can end: with a regular code, and without an answer for want of
transport security only where there is none. -/
def EncryptedOutcome.IsRegular (secure : Bool) : EncryptedOutcome → Prop
  | .rejected code => code.IsRegular
  | .dropped code => code = .malformedRequest ∨ code = .hostMismatch ∨
      code = .notEncrypted ∧ secure = false
  | .keyIssued | .keyDeleted => True

def EncryptedOutcome.IsReached (secure : Bool) (result : Except RequestError EncryptedOutcome) :
    Prop := ∃ outcome, result = .ok outcome ∧ outcome.IsRegular secure

namespace Desk

open Script (ask)

variable (desk : Desk) (isSecure : Handle → Bool) (held : Identity → Key → Prop) {α : Type}

/-- While connections are as secure as given and no key is active but those given, a script of the
desk tells regular messages alone and ends as claimed. -/
def Sure (script : Script α) (ends : α → Prop) : Prop :=
  script.Assures (Call.Foreseen isSecure held) (Call.Tells desk.codec held) ends

variable {desk isSecure held} {gateway : Gateway} {script : Script α} {ends : α → Prop}

theorem Sure.run (sure : desk.Sure isSecure held script ends)
    (within : gateway.IsWithin isSecure held) : ends (script.run gateway).1 :=
  sure.runWith (Gateway.IsWithin · isSecure held) (fun _ request within => within.foreseen request)
    (fun _ _ tells within => within.perform tells) within

theorem Sure.sent (sure : desk.Sure isSecure held script ends)
    (within : gateway.IsWithin isSecure held) :
    ∀ sending ∈ script.sent gateway, desk.codec.Tells held sending.2 := by
  have calls := sure.of_mem_calls (Gateway.IsWithin · isSecure held)
    (fun _ request within => within.foreseen request)
    (fun _ _ tells within => within.perform tells) within
  intro sending member
  obtain ⟨request, made, found⟩ := List.mem_filterMap.1 member
  cases request with
  | send handle payload =>
      cases found
      exact calls _ made
  | _ => cases found

variable (party : Party)

theorem sure_deliver {payload : Bytes} (tells : desk.codec.Tells held payload) :
    desk.Sure isSecure held (deliver party payload) fun _ => True :=
  .bind (.ask tells) fun _ _ => .pure trivial

theorem sure_reply {message : Message} (regular : message.IsRegular) :
    desk.Sure isSecure held (desk.reply party message) fun _ => True := by
  refine .bind (.ask regular) fun encoded told => ?_
  cases told
  exact sure_deliver party (.plain regular)

theorem sure_respond {message : Message} (regular : message.IsRegular) :
    desk.Sure isSecure held (desk.respond party message) fun _ => True := by
  refine .bind (.ask regular) fun encoded told => ?_
  cases told
  refine .bind (.ask ⟨message, regular, rfl⟩) fun sealed either => ?_
  rcases either with rfl | ⟨key, holder, rfl⟩
  · exact sure_deliver party (.plain regular)
  · exact sure_deliver party (.sealed regular holder)

theorem sure_refuse {code : Code} (regular : code.IsRegular) :
    desk.Sure isSecure held (desk.refuse party code) fun outcome => outcome = .rejected code :=
  .bind (sure_reply party (.of_code rfl regular)) fun _ _ => .pure rfl

theorem sure_deleteKey (identity : Identity) :
    desk.Sure isSecure held (desk.deleteKey identity)
      fun code => code = .ok ∨ code = .noActiveKey := by
  refine .bind (.ask trivial) fun dropped _ => ?_
  cases dropped with
  | some key => exact .bind (.ask trivial) fun _ _ => .pure (.inl rfl)
  | none => exact .pure (.inr rfl)

theorem tells_occupy (target : Identity) (role : Role) :
    (Script.occupy desk.family target role party).Only (Call.Tells desk.codec held) := by
  refine Script.Only.bind (.ask trivial) fun stands => ?_
  cases stands with
  | true => trivial
  | false => exact .ask trivial

/-- A connection that has been seen to be secure is let into the encrypted slot. -/
theorem sure_setEncrypted (secure : isSecure party.handle = true) (target : Identity) :
    desk.Sure isSecure held (Script.setEncrypted desk.family target party)
      fun result => result = .ok () := by
  refine .bind (.ask trivial) fun seen answer => ?_
  obtain rfl : seen = true := answer.trans secure
  exact .bind (.of_only (tells_occupy party target _)) fun _ _ => .pure rfl

theorem sure_refusal {code : Code} (regular : code.IsRegular) (secure : Bool) :
    desk.Sure isSecure held (do return .ok (← desk.refuse party code))
      (EncryptedOutcome.IsReached secure) :=
  .bind (sure_refuse party regular) fun _ refused => .pure ⟨_, rfl, refused ▸ regular⟩

/-- An admitted request for a new key ends without an error: a size that the policy resolves can be
drawn. -/
theorem sure_issue (target : Identity) (requested : Option UInt32) (secure : Bool) :
    desk.Sure isSecure held (desk.issue party target requested)
      (EncryptedOutcome.IsReached secure) := by
  rw [issue]
  split
  · exact sure_refusal party (by decide) secure
  · next size resolved =>
      refine .bind (.ask trivial) fun drawn foreseen => ?_
      obtain ⟨key, rfl, -⟩ := foreseen requested resolved
      have regular : (Message.keyResponse (.issued key.bytes)).IsRegular :=
        .of_code rfl ⟨Code.noConfusion, Code.noConfusion⟩
      refine .bind (.ask regular) fun encoded told => ?_
      cases told
      refine .bind (.ask trivial) fun _ _ => .bind (.ask trivial) fun clear _ => ?_
      cases clear with
      | none => exact .bind (.ask trivial) fun _ _ => sure_refusal party (by decide) secure
      | some clear =>
          exact .bind (.ask trivial) fun _ _ =>
            .bind (sure_deliver party (.plain regular)) fun _ _ => .pure ⟨_, rfl, trivial⟩

theorem sure_revoke (target : Identity) (secure : Bool) :
    desk.Sure isSecure held (desk.revoke party target) fun outcome => outcome.IsRegular secure := by
  refine .bind (sure_deleteKey target) fun code either => ?_
  rcases either with rfl | rfl
  · refine .bind (.ask trivial) fun clear _ => ?_
    cases clear with
    | some clear =>
        exact .bind (sure_respond clear (.of_code rfl (by decide))) fun _ _ => .pure trivial
    | none => exact .pure trivial
  · have regular : Code.noActiveKey.IsRegular := by decide
    exact .bind (sure_reply party (.of_code rfl regular)) fun _ _ => .pure regular

theorem sure_serve (secure : isSecure party.handle = true) (function : KeyFunction)
    (target : Identity) (requested : Option UInt32) :
    desk.Sure isSecure held (desk.serve party function target requested)
      (EncryptedOutcome.IsReached true) := by
  refine .bind (.ask trivial) fun clear _ => ?_
  cases clear with
  | none => exact sure_refusal party (by decide) true
  | some clear =>
      refine .bind (.ask trivial) fun same _ => ?_
      cases same with
      | false => exact .pure ⟨_, rfl, .inr (.inl rfl)⟩
      | true =>
          refine .bind (sure_setEncrypted party secure target) fun result entered => ?_
          cases entered
          cases function with
          | new => exact sure_issue party target requested true
          | delete =>
              exact .bind (sure_revoke party target true) fun outcome regular =>
                .pure ⟨outcome, rfl, regular⟩

/-- A request never ends in an error. -/
theorem sure_readRequest (payload : Bytes) :
    desk.Sure isSecure held (desk.readRequest party payload)
      (EncryptedOutcome.IsReached (isSecure party.handle)) := by
  rw [readRequest]
  split
  · next request asked =>
      refine .bind (.ask trivial) fun seen answer => ?_
      cases secure : isSecure party.handle with
      | false =>
          obtain rfl : seen = false := answer.trans secure
          exact .pure ⟨_, rfl, .inr (.inr ⟨rfl, rfl⟩)⟩
      | true =>
          obtain rfl : seen = true := answer.trans secure
          obtain ⟨function, target, requested⟩ := request
          cases function with
          | none => exact sure_refusal party (by decide) true
          | some function =>
              cases target with
              | none => exact sure_refusal party (by decide) true
              | some target => exact sure_serve party secure function target requested
  · exact .pure ⟨_, rfl, .inl rfl⟩

theorem sure_handleEncrypted (payload : Bytes) :
    desk.Sure isSecure held (desk.handleEncrypted party payload) fun outcome =>
      outcome.IsRegular (isSecure party.handle) := by
  have attempted : desk.Sure isSecure held (desk.attempt party payload) fun outcome =>
      outcome.IsRegular (isSecure party.handle) := by
    refine .bind (sure_readRequest party payload) fun result carried => ?_
    obtain ⟨outcome, rfl, regular⟩ := carried
    exact .pure regular
  rw [handleEncrypted_eq]
  refine .bind attempted fun outcome regular => ?_
  rw [finish]
  split
  · exact .bind (.ask trivial) fun _ _ => .bind (.ask trivial) fun _ _ => .pure regular
  · exact .bind (.ask trivial) fun _ _ => .pure regular

theorem sure_attach : desk.Sure isSecure held (desk.attach party) fun _ => True := by
  have welcome : (Message.welcome party.id).IsRegular := fun _ found => by cases found
  exact .bind (.of_only (tells_occupy party party.id _)) fun _ _ =>
    .bind (.ask trivial) fun _ _ => sure_reply party welcome

end Desk

theorem ClearOutcome.IsTold.isRegular {outcome : ClearOutcome} {message : Message}
    (told : outcome.IsTold message) :
    message.IsRegular ∧ ∀ code, outcome = .rejected code → code.IsRegular := by
  have rejected {code : Code} {message : Message} (carried : message.code? = some code)
      (regular : code.IsRegular) :
      message.IsRegular ∧ ∀ other, ClearOutcome.rejected code = .rejected other →
        other.IsRegular :=
    ⟨.of_code carried regular, fun other same => ClearOutcome.rejected.inj same ▸ regular⟩
  cases told with
  | activated | deleted =>
      exact ⟨.of_code rfl (by decide), fun _ same => by cases same⟩
  | unacknowledged reason =>
      rcases reason with rfl | rfl <;> exact rejected rfl (by decide)
  | undeleted reason =>
      rcases reason with rfl | rfl <;> exact rejected rfl (by decide)
  | refused reason =>
      rcases reason with rfl | rfl | rfl <;> exact rejected rfl (by decide)

namespace Desk

variable {desk : Desk} {party : Party} {before : Gateway}

theorem Concludes.isRegular {outcome : ClearOutcome} {after : Gateway}
    {sent : List (Handle × Bytes)} (concludes : desk.Concludes party before (outcome, after) sent)
    {code : Code} (rejected : outcome = .rejected code) : code.IsRegular := by
  cases concludes with
  | passed mirrors => cases rejected
  | told told shifts connections => exact told.isRegular.2 code rejected

/-- An answer is sealed with the key that is active once the outcome has taken effect. -/
theorem Concludes.tells {outcome : ClearOutcome} {after : Gateway}
    {sent : List (Handle × Bytes)} (concludes : desk.Concludes party before (outcome, after) sent)
    {sending : Handle × Bytes} (member : sending ∈ sent) :
    ∃ active, outcome.Shifts party.id before.active active ∧
      desk.codec.Tells (Key.IsActiveIn active) sending.2 := by
  cases concludes with
  | passed mirrors => cases member
  | @told outcome message middle told shifts connections =>
      exact ⟨middle.active, shifts, (sure_respond party told.isRegular.1).sent
        ⟨fun _ => rfl, fun _ _ active => active⟩ sending member⟩

end Desk

/-- Perform a call, after which something else happens to the gateway: what, depends on how many
calls have been made. -/
def Gateway.performAmid (meanwhile : Nat → Gateway → Gateway) (state : Nat × Gateway)
    (request : Call) : request.Reply × (Nat × Gateway) :=
  ((state.2.perform request).1, state.1 + 1, meanwhile state.1 (state.2.perform request).2)

namespace Desk

/-- What the handlers of a desk are sure of, whatever the gateway has come to. -/
structure Unfailing (desk : Desk) (gateway : Gateway) (party : Party) (payload : Bytes) : Prop where
  /-- A request without a size is for the configured one. -/
  configured : ∀ config : Config, config.validate = .ok desk.policy →
    desk.policy.resolve none = .ok config.defaultSize
  /-- A key of a size that the policy resolves can be drawn. -/
  drawn : ∀ requested size, desk.policy.resolve requested = .ok size →
    ∃ key, (gateway.perform (.generate desk.policy size)).1 = .ok key ∧ key.size = size
  /-- A connection with transport security is let into the encrypted slot. -/
  entered : gateway.isSecure party.handle = true → ∀ target,
    ((Script.setEncrypted desk.family target party).run gateway).1 = .ok ()
  /-- A request ends in an outcome, and never in an error that is still to be answered. -/
  carried : ((desk.readRequest party payload).run gateway).1 =
    .ok ((desk.handleEncrypted party payload).run gateway).1
  /-- So it does whatever happens between the calls, for no connection loses its security. -/
  undisturbed : ∀ meanwhile : Nat → Gateway → Gateway,
    (∀ count middle handle, (meanwhile count middle).isSecure handle = middle.isSecure handle) →
      ∃ outcome, ((desk.readRequest party payload).runWith (Gateway.performAmid meanwhile)
        (0, gateway)).1 = .ok outcome ∧ outcome.IsRegular (gateway.isSecure party.handle)
  /-- The code of a refusal is neither that of an error nor that of an insecure channel. -/
  rejected : ∀ code, ((desk.handleEncrypted party payload).run gateway).1 = .rejected code →
    code ≠ .unexpected ∧ code ≠ .notEncrypted
  /-- What is dropped is not dropped for an error. -/
  dropped : ((desk.handleEncrypted party payload).run gateway).1 ≠ .dropped .unexpected
  /-- A channel without transport security is dropped as such if it has sent a request. -/
  insecure : ((desk.handleEncrypted party payload).run gateway).1 = .dropped .notEncrypted ↔
    (∃ request, desk.codec.decode payload = .ok (.keyRequest request)) ∧
      gateway.isSecure party.handle = false
  /-- On clear channels the code of a refusal is neither of the two. -/
  clear : ∀ code, ((desk.handleClear party payload).run gateway).1 = .rejected code →
    code ≠ .unexpected ∧ code ≠ .notEncrypted
  /-- Whatever is sent for a request tells a message that carries neither of the two codes. -/
  answered : ∀ sending ∈ (desk.handleEncrypted party payload).sent gateway,
    desk.codec.Tells (Key.IsActiveIn gateway.active) sending.2
  /-- And so does what is sent on a clear channel. -/
  replied : ∀ sending ∈ (desk.handleClear party payload).sent gateway,
    ∃ active,
      ((desk.handleClear party payload).run gateway).1.Shifts party.id gateway.active active ∧
        desk.codec.Tells (Key.IsActiveIn active) sending.2
  /-- And the welcome. -/
  welcomed : ∀ sending ∈ (desk.attach party).sent gateway,
    desk.codec.Tells (Key.IsActiveIn gateway.active) sending.2

variable (desk : Desk) (gateway : Gateway) (party : Party) (payload : Bytes)

theorem isWithin_active : gateway.IsWithin gateway.isSecure (Key.IsActiveIn gateway.active) :=
  ⟨fun _ => rfl, fun _ _ active => active⟩

theorem run_readRequest_eq_ok : ((desk.readRequest party payload).run gateway).1 =
    .ok ((desk.handleEncrypted party payload).run gateway).1 := by
  obtain ⟨outcome, carried, -⟩ :=
    (desk.sure_readRequest party payload).run (isWithin_active gateway)
  rw [carried, handleEncrypted_eq, Script.run_bind, run_finish_fst, attempt, Script.run_bind,
    carried, Script.run_pure]

theorem dropped_notEncrypted_iff :
    ((desk.handleEncrypted party payload).run gateway).1 = .dropped .notEncrypted ↔
      (∃ request, desk.codec.decode payload = .ok (.keyRequest request)) ∧
        gateway.isSecure party.handle = false := by
  have carried := desk.run_readRequest_eq_ok gateway party payload
  constructor
  · intro dropped
    have regular := (desk.sure_handleEncrypted party payload).run (isWithin_active gateway)
    rw [dropped] at regular carried
    rcases regular with same | same | ⟨-, insecure⟩
    · cases same
    · cases same
    · rw [readRequest] at carried
      split at carried
      · next request asked => exact ⟨⟨request, asked⟩, insecure⟩
      · cases carried
  · rintro ⟨⟨request, asked⟩, insecure⟩
    simp only [readRequest, asked] at carried
    rw [Script.run_bind, Script.run_ask] at carried
    simp only [Gateway.perform, insecure] at carried
    exact (Except.ok.inj carried).symm

/-- Whatever the gateway has come to and whoever sends what, handling it does not fail. -/
theorem unfailing : desk.Unfailing gateway party payload where
  configured config valid := congrArg Except.ok (Config.sizes_of_validate valid).1
  drawn requested size := (isWithin_active gateway).foreseen (.generate desk.policy size) requested
  entered secure target := (sure_setEncrypted party secure target).run (isWithin_active gateway)
  carried := desk.run_readRequest_eq_ok gateway party payload
  undisturbed meanwhile keeps := by
    -- Other handlers may make any key active in between, so that every key counts as given.
    let holds (state : Nat × Gateway) : Prop :=
      state.2.IsWithin gateway.isSecure fun _ _ => True
    have kept (state : Nat × Gateway) (request : Call) (within : holds state) :
        holds (Gateway.performAmid meanwhile state request).2 :=
      ⟨fun handle => (keeps ..).trans
        ((state.2.isSecure_perform request handle).trans (within.secure handle)),
        fun _ _ _ => trivial⟩
    exact (desk.sure_readRequest party payload).runWith holds
      (fun state request within => within.foreseen request)
      (fun state request _ within => kept state request within)
      ⟨fun _ => rfl, fun _ _ _ => trivial⟩
  rejected code rejected := by
    have regular := (desk.sure_handleEncrypted party payload).run (isWithin_active gateway)
    rw [rejected] at regular
    exact regular
  dropped dropped := by
    have regular := (desk.sure_handleEncrypted party payload).run (isWithin_active gateway)
    rw [dropped] at regular
    rcases regular with same | same | ⟨same, -⟩ <;> cases same
  insecure := desk.dropped_notEncrypted_iff gateway party payload
  clear code rejected := by
    obtain ⟨read, concludes, -⟩ := desk.exists_concluded party gateway payload
    exact concludes.isRegular rejected
  answered := (desk.sure_handleEncrypted party payload).sent (isWithin_active gateway)
  replied sending member := by
    obtain ⟨read, concludes, -⟩ := desk.exists_concluded party gateway payload
    exact concludes.tells member
  welcomed := (desk.sure_attach party).sent (isWithin_active gateway)

end Desk

end PadRelay
