import PadRelay.Proofs.Exchange.Answers
import PadRelay.Proofs.Transcript

/-!
# What the handlers call

A handler of a clear channel works on the keys of its own channel, hands payloads to that channel
alone, and writes no key. Ending an active key writes no key either.
-/

namespace PadRelay

def Message.key? : Message → Option Bytes
  | .keyResponse response => response.key
  | _ => none

/-- A call that writes no key. -/
def Call.IsDiscreet (request : Call) : Prop :=
  ∀ message, request.written? = some message → message.key? = none

theorem Call.IsDiscreet.of_unwritten {request : Call} (unwritten : request.written? = none) :
    request.IsDiscreet := by
  intro message wrote
  rw [unwritten] at wrote
  cases wrote

theorem Script.Only.keyless_written {α : Type} {script : Script α}
    (discreet : script.Only Call.IsDiscreet) (gateway : Gateway) :
    ∀ message ∈ script.written gateway, message.key? = none := by
  intro message member
  obtain ⟨request, made, wrote⟩ := List.mem_filterMap.1 member
  exact discreet.of_mem_calls gateway request made message wrote

namespace Desk

open Script (ask)

variable (desk : Desk) (party : Party) (gateway : Gateway) (payload : Bytes)

/-- A call that a handler of clear channels makes once the staged and the retired key are out of the
question: whatever it writes carries no key, and whatever it hands over goes to its own channel. -/
inductive ReadCall : Call → Prop
  | active : ReadCall (.active party.id)
  | deactivate : ReadCall (.deactivate party.id)
  | decrypted : ReadCall (.count desk.family .decrypted)
  | deleted : ReadCall (.count desk.family .deleted)
  | encode {message : Message} (keyless : message.key? = none) :
      ReadCall (.encode desk.codec message)
  | sealFor (plain : Bytes) : ReadCall (.sealFor desk.family party.id plain)
  | send (sealed : Bytes) : ReadCall (.send party.handle sealed)

/-- A call that a handler of clear channels makes: whatever it writes carries no key, and whatever
it hands over goes to its own channel. -/
inductive ClearCall : Call → Prop
  | staged : ClearCall (.staged party.id)
  | retired : ClearCall (.retired party.id)
  | active : ClearCall (.active party.id)
  | takeStaged (expected : StagedKey) : ClearCall (.takeStaged party.id expected)
  | activate (key : Key) : ClearCall (.activate party.id key)
  | deactivate : ClearCall (.deactivate party.id)
  | count (event : Event) : ClearCall (.count desk.family event)
  | encode {message : Message} (keyless : message.key? = none) :
      ClearCall (.encode desk.codec message)
  | sealFor (plain : Bytes) : ClearCall (.sealFor desk.family party.id plain)
  | send (sealed : Bytes) : ClearCall (.send party.handle sealed)

theorem ReadCall.clearCall {desk : Desk} {party : Party} {request : Call}
    (call : desk.ReadCall party request) : desk.ClearCall party request := by
  cases call with
  | active => exact .active
  | deactivate => exact .deactivate
  | decrypted => exact .count .decrypted
  | deleted => exact .count .deleted
  | encode keyless => exact .encode keyless
  | sealFor plain => exact .sealFor plain
  | send sealed => exact .send sealed

theorem readCalls_respond {message : Message} (keyless : message.key? = none) :
    (desk.respond party message).Only (desk.ReadCall party) := by
  refine Script.Only.bind (.ask (.encode keyless)) fun encoded => ?_
  cases encoded with
  | ok plain =>
      exact Script.Only.bind (.ask (.sealFor plain)) fun sealed =>
        Script.Only.bind (.ask (.send sealed)) fun _ => trivial
  | error error => trivial

theorem readCalls_reject (code : Code) :
    (desk.reject party code).Only (desk.ReadCall party) :=
  Script.Only.bind (desk.readCalls_respond party rfl) fun _ => trivial

theorem readCalls_rejectAck (code : Code) :
    (desk.rejectAck party code).Only (desk.ReadCall party) :=
  Script.Only.bind (desk.readCalls_respond party rfl) fun _ => trivial

theorem readCalls_rejectDelete (code : Code) :
    (desk.rejectDelete party code).Only (desk.ReadCall party) :=
  Script.Only.bind (desk.readCalls_respond party rfl) fun _ => trivial

theorem readCalls_deleteKey : (desk.deleteKey party.id).Only (desk.ReadCall party) := by
  refine Script.Only.bind (.ask .deactivate) fun key => ?_
  cases key with
  | some key => exact Script.Only.bind (.ask .deleted) fun _ => trivial
  | none => trivial

theorem readCalls_clearRequest (request : KeyRequest) :
    (desk.clearRequest party request).Only (desk.ReadCall party) := by
  rw [clearRequest]
  split
  · split
    · exact desk.readCalls_rejectDelete party _
    · refine Script.Only.bind (desk.readCalls_deleteKey party) fun code => ?_
      split
      · exact Script.Only.bind (desk.readCalls_respond party rfl) fun _ => trivial
      · exact desk.readCalls_rejectDelete party _
  · exact desk.readCalls_reject party _
  · exact desk.readCalls_reject party _

theorem readCalls_readPlain : (desk.readPlain party payload).Only (desk.ReadCall party) := by
  rw [readPlain]
  split
  · exact desk.readCalls_clearRequest party _
  · exact desk.readCalls_rejectAck party _
  · exact desk.readCalls_reject party _
  · split
    · exact desk.readCalls_reject party _
    · trivial

theorem readCalls_openWith (key : Key) :
    (desk.openWith key payload).Only (desk.ReadCall party) :=
  Script.Only.bind (.ask .decrypted) fun _ => trivial

theorem readCalls_readActive : (desk.readActive party payload).Only (desk.ReadCall party) := by
  refine Script.Only.bind (.ask .active) fun key => ?_
  cases key with
  | some key =>
      exact Script.Only.bind (desk.readCalls_openWith party payload key) fun plain =>
        desk.readCalls_readPlain party plain
  | none => exact desk.readCalls_readPlain party payload

theorem clearCalls_readRetired : (desk.readRetired party payload).Only (desk.ClearCall party) := by
  have active := (desk.readCalls_readActive party payload).mono fun _ => ReadCall.clearCall
  refine Script.Only.bind (.ask .retired) fun key => ?_
  cases key with
  | some key =>
      have opened := (desk.readCalls_openWith party payload key).mono fun _ => ReadCall.clearCall
      refine Script.Only.bind opened fun plain => ?_
      split
      · exact (desk.readCalls_rejectAck party _).mono fun _ => ReadCall.clearCall
      · exact active
  | none => exact active

theorem clearCalls_activate (target : Identity) (expected : StagedKey) :
    (desk.activate party target expected).Only (desk.ClearCall party) := by
  rw [activate]
  split
  · exact (desk.readCalls_rejectAck party _).mono fun _ => ReadCall.clearCall
  · refine Script.Only.bind (.ask (.takeStaged expected)) fun taken => ?_
    cases taken with
    | none => exact (desk.readCalls_rejectAck party _).mono fun _ => ReadCall.clearCall
    | some key =>
        have keyless : (Message.ackOutcome .ok).key? = none := rfl
        have told := (desk.readCalls_respond party keyless).mono fun _ => ReadCall.clearCall
        exact Script.Only.bind (.ask (.activate key)) fun _ =>
          Script.Only.bind (.ask (.count .activated)) fun _ =>
            Script.Only.bind told fun _ => trivial

theorem clearCalls_readStaged : (desk.readStaged party payload).Only (desk.ClearCall party) := by
  have retired := desk.clearCalls_readRetired party payload
  refine Script.Only.bind (.ask .staged) fun held => ?_
  cases held with
  | some held =>
      have opened := (desk.readCalls_openWith party payload held.key).mono
        fun _ => ReadCall.clearCall
      refine Script.Only.bind opened fun plain => ?_
      split
      · exact desk.clearCalls_activate party _ held
      · exact Script.Only.bind (.ask (.count .ambiguous)) fun _ => retired
  | none => exact retired

theorem clearCalls_handleClear :
    (desk.handleClear party payload).Only (desk.ClearCall party) := by
  refine Script.Only.bind (desk.clearCalls_readStaged party payload) fun outcome => ?_
  split
  · exact Script.Only.bind (.ask (.count .rejected)) fun _ => trivial
  · trivial

theorem ClearCall.passes {desk : Desk} {party : Party} {request : Call}
    (call : desk.ClearCall party request) {handle : Handle} (other : party.handle ≠ handle) :
    request.Passes handle := by
  intro mouth
  cases call with
  | send sealed => exact if_neg other
  | _ => rfl

theorem ClearCall.isDiscreet {desk : Desk} {party : Party} {request : Call}
    (call : desk.ClearCall party request) : request.IsDiscreet := by
  intro message wrote
  cases call with
  | encode keyless =>
      cases wrote
      exact keyless
  | _ => cases wrote

theorem discreet_reply {message : Message} (keyless : message.key? = none) :
    (desk.reply party message).Only Call.IsDiscreet := by
  have written : (Call.encode desk.codec message).IsDiscreet := by
    rintro _ ⟨⟩
    exact keyless
  refine Script.Only.bind (.ask written) fun encoded => ?_
  cases encoded with
  | ok plain => exact Script.Only.bind (.ask (.of_unwritten rfl)) fun _ => trivial
  | error error => trivial

theorem silent_deleteKey (identity : Identity) :
    (desk.deleteKey identity).Only Call.IsSilent := by
  refine Script.Only.bind (.ask ⟨rfl, rfl⟩) fun key => ?_
  cases key with
  | some key => exact Script.Only.bind (.ask ⟨rfl, rfl⟩) fun _ => trivial
  | none => trivial

theorem silent_occupy (family : Family) (identity : Identity) (role : Role) :
    (Script.occupy family identity role party).Only Call.IsSilent := by
  refine Script.Only.bind (.ask ⟨rfl, rfl⟩) fun held => ?_
  split
  · trivial
  · exact .ask ⟨rfl, rfl⟩

theorem silent_setEncrypted (family : Family) (identity : Identity) :
    (Script.setEncrypted family identity party).Only Call.IsSilent := by
  refine Script.Only.bind (.ask ⟨rfl, rfl⟩) fun secure => ?_
  split
  · exact Script.Only.bind (silent_occupy party family identity .encrypted) fun _ => trivial
  · trivial

theorem discreet_revoke (target : Identity) :
    (desk.revoke party target).Only Call.IsDiscreet := by
  have dropped := (desk.silent_deleteKey target).mono fun _ silent =>
    Call.IsDiscreet.of_unwritten silent.1
  refine Script.Only.bind dropped fun code => ?_
  split
  · refine Script.Only.bind (.ask (.of_unwritten rfl)) fun clear => ?_
    cases clear with
    | some clear =>
        have keyless : (Message.deleteOutcome .ok).key? = none := rfl
        have told := (desk.readCalls_respond clear keyless).mono fun _ call =>
          call.clearCall.isDiscreet
        exact Script.Only.bind told fun _ => trivial
    | none => trivial
  · exact Script.Only.bind (desk.discreet_reply party rfl) fun _ => trivial

theorem revoke_ne_keyIssued (target : Identity) :
    ((desk.revoke party target).run gateway).1 ≠ .keyIssued := by
  rw [revoke, Script.run_bind]
  split
  · rw [Script.run_bind]
    split <;> exact EncryptedOutcome.noConfusion
  · exact EncryptedOutcome.noConfusion

/-- A call that is made to read the request of an encrypted channel, to carry it out and to answer
it. None closes a connection or looks at a retired key, and whatever is staged was asked for. -/
inductive RequestCall : Call → Prop
  | isSecure : RequestCall (.isSecure party.handle)
  | clearOf (target : Identity) : RequestCall (.clearOf desk.family target)
  | hostMatches (target : Identity) : RequestCall (.hostMatches desk.family target party.handle)
  | place (target : Identity) : RequestCall (.place desk.family target .encrypted party)
  | onClose (target : Identity) :
      RequestCall (.onClose party.handle (.vacate desk.family target .encrypted party.id))
  | generate (size : Nat) : RequestCall (.generate desk.policy size)
  | stage {target : Identity} {requested : Option UInt32}
      (asked : desk.codec.decode payload = .ok (.keyRequest (.newKey target requested)))
      (key : Key) : RequestCall (.stage target key)
  | unstage (target : Identity) : RequestCall (.unstage target)
  | deactivate (target : Identity) : RequestCall (.deactivate target)
  | count (event : Event) : RequestCall (.count desk.family event)
  | encode (message : Message) : RequestCall (.encode desk.codec message)
  | sealFor (target : Identity) (plain : Bytes) : RequestCall (.sealFor desk.family target plain)
  | send (handle : Handle) (sealed : Bytes) : RequestCall (.send handle sealed)

theorem requestCalls_reply (message : Message) :
    (desk.reply party message).Only (desk.RequestCall party payload) := by
  refine Script.Only.bind (.ask (.encode message)) fun encoded => ?_
  cases encoded with
  | ok plain => exact Script.Only.bind (.ask (.send _ plain)) fun _ => trivial
  | error error => trivial

theorem requestCalls_respond (clear : Party) (message : Message) :
    (desk.respond clear message).Only (desk.RequestCall party payload) := by
  refine Script.Only.bind (.ask (.encode message)) fun encoded => ?_
  cases encoded with
  | ok plain =>
      exact Script.Only.bind (.ask (.sealFor clear.id plain)) fun sealed =>
        Script.Only.bind (.ask (.send _ sealed)) fun _ => trivial
  | error error => trivial

theorem requestCalls_refuse (code : Code) :
    (desk.refuse party code).Only (desk.RequestCall party payload) :=
  Script.Only.bind (desk.requestCalls_reply party payload _) fun _ => trivial

theorem requestCalls_setEncrypted (target : Identity) :
    (Script.setEncrypted desk.family target party).Only (desk.RequestCall party payload) := by
  refine Script.Only.bind (.ask .isSecure) fun secure => ?_
  split
  · refine Script.Only.bind (Script.Only.bind (.ask (.place target)) fun held => ?_)
      fun _ => trivial
    split
    · trivial
    · exact .ask (.onClose target)
  · trivial

theorem requestCalls_issue {target : Identity} {requested : Option UInt32}
    (asked : desk.codec.decode payload = .ok (.keyRequest (.newKey target requested))) :
    (desk.issue party target requested).Only (desk.RequestCall party payload) := by
  rw [issue]
  split
  · exact Script.Only.bind (desk.requestCalls_refuse party payload _) fun _ => trivial
  · refine Script.Only.bind (.ask (.generate _)) fun drawn => ?_
    cases drawn with
    | error error => trivial
    | ok key =>
        refine Script.Only.bind (.ask (.encode _)) fun encoded => ?_
        cases encoded with
        | error error => trivial
        | ok plain =>
            refine Script.Only.bind (.ask (.stage asked key)) fun _ => ?_
            refine Script.Only.bind (.ask (.clearOf target)) fun clear => ?_
            cases clear with
            | none =>
                exact Script.Only.bind (.ask (.unstage target)) fun _ =>
                  Script.Only.bind (desk.requestCalls_refuse party payload _) fun _ => trivial
            | some clear =>
                exact Script.Only.bind (.ask (.count .issued)) fun _ =>
                  Script.Only.bind (Script.Only.bind (.ask (.send _ plain)) fun _ => trivial)
                    fun _ => trivial

theorem requestCalls_deleteKey (target : Identity) :
    (desk.deleteKey target).Only (desk.RequestCall party payload) := by
  refine Script.Only.bind (.ask (.deactivate target)) fun key => ?_
  cases key with
  | some key => exact Script.Only.bind (.ask (.count .deleted)) fun _ => trivial
  | none => trivial

theorem requestCalls_revoke (target : Identity) :
    (desk.revoke party target).Only (desk.RequestCall party payload) := by
  refine Script.Only.bind (desk.requestCalls_deleteKey party payload target) fun code => ?_
  split
  · refine Script.Only.bind (.ask (.clearOf target)) fun clear => ?_
    cases clear with
    | some clear =>
        exact Script.Only.bind (desk.requestCalls_respond party payload clear _) fun _ => trivial
    | none => trivial
  · exact Script.Only.bind (desk.requestCalls_reply party payload _) fun _ => trivial

theorem requestCalls_serve {function : KeyFunction} {target : Identity}
    {requested : Option UInt32}
    (asked : desk.codec.decode payload =
      .ok (.keyRequest ⟨some function, some target, requested⟩)) :
    (desk.serve party function target requested).Only (desk.RequestCall party payload) := by
  refine Script.Only.bind (.ask (.clearOf target)) fun clear => ?_
  cases clear with
  | none => exact Script.Only.bind (desk.requestCalls_refuse party payload _) fun _ => trivial
  | some clear =>
      refine Script.Only.bind (.ask (.hostMatches target)) fun matched => ?_
      split
      · refine Script.Only.bind (desk.requestCalls_setEncrypted party payload target)
          fun entered => ?_
        cases entered with
        | error error => trivial
        | ok entered =>
            cases function with
            | new => exact desk.requestCalls_issue party payload asked
            | delete =>
                exact Script.Only.bind (desk.requestCalls_revoke party payload target) fun _ =>
                  trivial
      · trivial

theorem requestCalls_readRequest :
    (desk.readRequest party payload).Only (desk.RequestCall party payload) := by
  rw [readRequest]
  split
  · next request asked =>
      obtain ⟨function, target, requested⟩ := request
      refine Script.Only.bind (.ask .isSecure) fun secure => ?_
      split
      · split
        · exact Script.Only.bind (desk.requestCalls_refuse party payload _) fun _ => trivial
        · exact Script.Only.bind (desk.requestCalls_refuse party payload _) fun _ => trivial
        · next named aimed =>
            cases named
            cases aimed
            exact desk.requestCalls_serve party payload asked
      · trivial
  · trivial

/-- Read the request of an encrypted channel, carry it out and answer it. -/
def attempt : Script EncryptedOutcome := do
  match ← desk.readRequest party payload with
  | .ok outcome => pure outcome
  | .error error => desk.refuse party error.code

/-- Count a failure and close the channel. -/
def finish (outcome : EncryptedOutcome) : Script EncryptedOutcome := do
  if outcome.isFailure then
    ask (.count desk.family .rejected)
  ask (.close party.handle)
  return outcome

theorem handleEncrypted_eq :
    desk.handleEncrypted party payload = desk.attempt party payload >>= desk.finish party := by
  rw [handleEncrypted, attempt, bind_assoc]
  refine bind_congr fun carried => ?_
  cases carried <;> rfl

theorem silent_finish (outcome : EncryptedOutcome) :
    (desk.finish party outcome).Only Call.IsSilent := by
  rw [finish]
  split
  · exact Script.Only.bind (.ask ⟨rfl, rfl⟩) fun _ => Script.Only.bind (.ask ⟨rfl, rfl⟩) fun _ =>
      trivial
  · exact Script.Only.bind (.ask ⟨rfl, rfl⟩) fun _ => trivial

theorem run_finish_fst (outcome : EncryptedOutcome) :
    ((desk.finish party outcome).run gateway).1 = outcome := by
  rw [finish]
  dsimp only
  split <;> rfl

theorem requestCalls_attempt :
    (desk.attempt party payload).Only (desk.RequestCall party payload) := by
  refine Script.Only.bind (desk.requestCalls_readRequest party payload) fun carried => ?_
  cases carried with
  | ok outcome => trivial
  | error error => exact desk.requestCalls_refuse party payload _

theorem calls_finish (outcome : EncryptedOutcome) :
    (desk.finish party outcome).calls gateway =
      (if outcome.isFailure then [.count desk.family .rejected] else []) ++
        [.close party.handle] := by
  rw [finish]
  dsimp only
  split <;> rfl

theorem mouthOf?_finish (outcome : EncryptedOutcome) :
    ((desk.finish party outcome).run gateway).2.mouthOf? party.handle =
      (gateway.mouthOf? party.handle).map Mouth.shut := by
  rw [Gateway.mouthOf?_run, calls_finish]
  split <;> simp [Call.work]

/-- The channel of a request is handed what is sent to it, and closed. -/
theorem mouthOf?_handleEncrypted :
    ((desk.handleEncrypted party payload).run gateway).2.mouthOf? party.handle =
      (gateway.mouthOf? party.handle).map fun mouth =>
        (mouth.pushAll
          ((desk.handleEncrypted party payload).sentTo party.handle gateway)).shut := by
  have silent := desk.silent_finish party ((desk.attempt party payload).run gateway).1
  have unclosed : .close party.handle ∉ (desk.attempt party payload).calls gateway := by
    intro made
    cases (desk.requestCalls_attempt party payload).of_mem_calls gateway _ made
  rw [handleEncrypted_eq, Script.run_bind, mouthOf?_finish,
    Gateway.mouthOf?_run_of_unclosed gateway _ unclosed, Option.map_map, Script.sentTo_bind,
    silent.sentTo_eq_nil, List.append_nil]
  rfl

/-- Handling a request makes its calls, may count a failure, and closes the channel. -/
theorem mem_calls_handleEncrypted {request : Call}
    (made : request ∈ (desk.handleEncrypted party payload).calls gateway) :
    desk.RequestCall party payload request ∨ request = .close party.handle := by
  rw [handleEncrypted_eq, Script.calls_bind, calls_finish, List.mem_append] at made
  rcases made with attempted | finished
  · exact .inl ((desk.requestCalls_attempt party payload).of_mem_calls gateway _ attempted)
  · split at finished
    · rcases List.mem_cons.1 finished with rfl | closing
      · exact .inl (.count .rejected)
      · exact .inr (List.mem_singleton.1 closing)
    · exact .inr (List.mem_singleton.1 finished)

end Desk

end PadRelay
