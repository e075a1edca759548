import PadRelay.Proofs.Exchange.Queue
import PadRelay.Proofs.Exchange.Unnoticed

/-!
# How a message on a clear channel is answered

A message that belongs to the application is passed on without a word. Any other is answered once,
as the last thing that its handling does. Handling it may have changed the active key of the
channel, so the answer is sealed with the key that is active then: whoever opens it with the key in
force reads what became of the message.
-/

namespace PadRelay

/-- The message in which an outcome is told. -/
inductive ClearOutcome.IsTold : ClearOutcome → Message → Prop
  | activated : IsTold .activated (.ackOutcome .ok)
  | deleted : IsTold .deleted (.deleteOutcome .ok)
  | unacknowledged {code : Code} (reason : code = .identityMismatch ∨ code = .noPendingKey) :
      IsTold (.rejected code) (.ackOutcome code)
  | undeleted {code : Code} (reason : code = .identityMismatch ∨ code = .noActiveKey) :
      IsTold (.rejected code) (.deleteOutcome code)
  | refused {code : Code}
      (reason : code = .wrongChannel ∨ code = .missingFunction ∨ code = .malformedRequest) :
      IsTold (.rejected code) (.failure code)

theorem ClearOutcome.IsTold.decode_encode {outcome : ClearOutcome} {message : Message}
    (told : outcome.IsTold message) (codec : Codec) :
    codec.decode (codec.encode message) = .ok message := by
  cases told with
  | activated => exact Codec.decode_encode (codec.carries_ackOutcome _)
  | deleted => exact Codec.decode_encode (codec.carries_deleteOutcome _)
  | unacknowledged => exact Codec.decode_encode (codec.carries_ackOutcome _)
  | undeleted => exact Codec.decode_encode (codec.carries_deleteOutcome _)
  | refused => exact Codec.decode_encode (codec.carries_failure _)

/-- What an outcome has done to the active keys. -/
inductive ClearOutcome.Shifts (identity : Identity) (active : Table Identity Key) :
    ClearOutcome → Table Identity Key → Prop
  | activated (key : Key) : Shifts identity active .activated (active.insert identity key)
  | deleted : Shifts identity active .deleted (active.erase identity)
  | rejected (code : Code) : Shifts identity active (.rejected code) active

theorem Gateway.unseal_wrap (gateway : Gateway) (identity : Identity) (payload : Bytes) :
    (gateway.keyRing identity).unseal ((gateway.stock identity).wrap payload) = payload :=
  (gateway.stock identity).wrap_wrap payload

theorem Gateway.wrap_stock_congr {left right : Gateway} (same : left.active = right.active)
    (identity : Identity) (payload : Bytes) :
    (left.stock identity).wrap payload = (right.stock identity).wrap payload := by
  have active : (left.stock identity).active = (right.stock identity).active :=
    congrArg (Table.get? · identity) same
  rw [Stock.wrap, active, Stock.wrap]

namespace Desk

open Script (ask)

/-- How handling a message ends: the payload is passed on in silence, or what became of the message
is told, after all that is done to the keys. -/
inductive Concludes (desk : Desk) (party : Party) (before : Gateway) :
    ClearOutcome × Gateway → List (Handle × Bytes) → Prop
  | passed {plain : Bytes} {after : Gateway} (mirrors : before.Mirrors after) :
      Concludes desk party before (.application plain, after) []
  | told {outcome : ClearOutcome} {message : Message} {middle : Gateway}
      (told : outcome.IsTold message)
      (shifts : outcome.Shifts party.id before.active middle.active)
      (connections : middle.connections = before.connections) :
      Concludes desk party before (outcome, ((desk.respond party message).run middle).2)
        ((desk.respond party message).sent middle)

variable {desk : Desk} {party : Party} {before middle : Gateway}

theorem Concludes.of_mirrors {result : ClearOutcome × Gateway} {sent : List (Handle × Bytes)}
    (concludes : desk.Concludes party middle result sent) (mirrors : before.Mirrors middle) :
    desk.Concludes party before result sent := by
  cases concludes with
  | passed later => exact .passed (mirrors.trans later)
  | told told shifts connections =>
      exact .told told (mirrors.active ▸ shifts) (connections.trans mirrors.connections.symm)

/-- What is done before the message is read does not count. -/
theorem Concludes.bind {α : Type} {script : Script α} {next : α → Script ClearOutcome}
    (quiet : script.sent before = []) (mirrors : before.Mirrors (script.run before).2)
    (rest : desk.Concludes party (script.run before).2
      ((next (script.run before).1).run (script.run before).2)
      ((next (script.run before).1).sent (script.run before).2)) :
    desk.Concludes party before ((script >>= next).run before) ((script >>= next).sent before) := by
  rw [Script.run_bind, Script.sent_bind, quiet]
  exact rest.of_mirrors mirrors

theorem Concludes.answer {outcome : ClearOutcome} {message : Message}
    (told : outcome.IsTold message)
    (shifts : outcome.Shifts party.id before.active middle.active)
    (connections : middle.connections = before.connections) :
    desk.Concludes party before
      ((desk.respond party message >>= fun _ => pure outcome).run middle)
      ((desk.respond party message >>= fun _ => pure outcome).sent middle) := by
  rw [Script.run_bind, Script.run_pure, Script.sent_bind, Script.sent_pure, List.append_nil]
  exact .told told shifts connections

variable (desk party) (gateway : Gateway)

theorem concludes_rejection {code : Code} {message : Message}
    (told : (ClearOutcome.rejected code).IsTold message) :
    desk.Concludes party gateway
      ((do desk.respond party message; return .rejected code : Script ClearOutcome).run gateway)
      ((do desk.respond party message; return .rejected code : Script ClearOutcome).sent gateway) :=
  .answer told (.rejected code) rfl

theorem concludes_activate (target : Identity) (expected : StagedKey) :
    desk.Concludes party gateway ((desk.activate party target expected).run gateway)
      ((desk.activate party target expected).sent gateway) := by
  rw [activate]
  split
  · exact desk.concludes_rejection party gateway (.unacknowledged (.inl rfl))
  · rw [Script.run_bind, Script.sent_bind, Script.sent_ask, Script.run_ask]
    simp only [Gateway.perform, Gateway.onStaged_fst, Gateway.onStaged_snd]
    cases took : gateway.staged.takeIf gateway.now party.id expected with
    | mk taken rest =>
        cases taken with
        | none =>
            have same : rest = gateway.staged := StagedKeys.takeIf_eq_none _ _ _ took
            subst same
            exact desk.concludes_rejection party gateway (.unacknowledged (.inr rfl))
        | some held =>
            have counted := Gateway.Mirrors.of_count
              { gateway with
                staged := rest
                active := gateway.active.insert party.id held.key } desk.family .activated
            exact .answer .activated (counted.active ▸ .activated held.key)
              counted.connections.symm

theorem concludes_clearRequest (request : KeyRequest) :
    desk.Concludes party gateway ((desk.clearRequest party request).run gateway)
      ((desk.clearRequest party request).sent gateway) := by
  rw [clearRequest]
  split
  · split
    · exact desk.concludes_rejection party gateway (.undeleted (.inl rfl))
    · rw [Script.run_bind, Script.sent_bind, (desk.silent_deleteKey party.id).sent_eq_nil,
        List.nil_append]
      have code_eq := desk.code_deleteKey gateway party.id
      rcases desk.deleteKey_cases gateway party.id with ⟨key, active, ran⟩ | ⟨code, failed, ran⟩
      · have counted := Gateway.Mirrors.of_count (gateway.deactivate party.id) desk.family .deleted
        rw [ran]
        exact .answer .deleted (counted.active ▸ .deleted) counted.connections.symm
      · have refused : code = .noActiveKey := by
          rw [ran] at code_eq
          dsimp only at code_eq
          split at code_eq
          · rw [code_eq] at failed
            cases failed
          · exact code_eq
        rw [ran]
        simp only [failed, Bool.false_eq_true, if_false]
        exact desk.concludes_rejection party gateway (.undeleted (.inr refused))
  · exact desk.concludes_rejection party gateway (.refused (.inl rfl))
  · exact desk.concludes_rejection party gateway (.refused (.inr (.inl rfl)))

theorem concludes_readPlain (plain : Bytes) :
    desk.Concludes party gateway ((desk.readPlain party plain).run gateway)
      ((desk.readPlain party plain).sent gateway) := by
  rw [readPlain]
  split
  · exact desk.concludes_clearRequest party gateway _
  · exact desk.concludes_rejection party gateway (.unacknowledged (.inr rfl))
  · exact desk.concludes_rejection party gateway (.refused (.inl rfl))
  · split
    · exact desk.concludes_rejection party gateway (.refused (.inr (.inr rfl)))
    · exact .passed (.refl gateway)

/-- Opening a payload comes before what is done about it. -/
theorem concludes_openWith (key : Key) (payload : Bytes) {next : Bytes → Script ClearOutcome}
    (rest : ∀ plain middle,
      desk.Concludes party middle ((next plain).run middle) ((next plain).sent middle)) :
    desk.Concludes party gateway ((desk.openWith key payload >>= next).run gateway)
      ((desk.openWith key payload >>= next).sent gateway) :=
  .bind rfl (.of_count gateway _ _) (rest _ _)

theorem concludes_readActive (payload : Bytes) :
    desk.Concludes party gateway ((desk.readActive party payload).run gateway)
      ((desk.readActive party payload).sent gateway) := by
  refine .bind rfl (.refl gateway) ?_
  split
  · exact desk.concludes_openWith party _ _ _ fun plain middle =>
      desk.concludes_readPlain party middle plain
  · exact desk.concludes_readPlain party _ payload

theorem concludes_readRetired (payload : Bytes) :
    desk.Concludes party gateway ((desk.readRetired party payload).run gateway)
      ((desk.readRetired party payload).sent gateway) := by
  refine .bind rfl (.refl gateway) ?_
  split
  · refine desk.concludes_openWith party _ _ _ fun plain middle => ?_
    split
    · exact desk.concludes_rejection party middle (.unacknowledged (.inr rfl))
    · exact desk.concludes_readActive party middle payload
  · exact desk.concludes_readActive party _ payload

theorem concludes_readStaged (payload : Bytes) :
    desk.Concludes party gateway ((desk.readStaged party payload).run gateway)
      ((desk.readStaged party payload).sent gateway) := by
  refine .bind rfl ⟨rfl, rfl⟩ ?_
  split
  · refine desk.concludes_openWith party _ _ _ fun plain middle => ?_
    split
    · exact desk.concludes_activate party middle _ _
    · exact .bind rfl (.of_count middle _ _) (desk.concludes_readRetired party _ payload)
  · exact desk.concludes_readRetired party _ payload

theorem sealFor_spec (family : Family) (identity : Identity) (payload : Bytes) :
    (gateway.sealFor family identity payload).1 = (gateway.stock identity).wrap payload ∧
      gateway.Mirrors (gateway.sealFor family identity payload).2 ∧
      gateway.Rests (gateway.sealFor family identity payload).2 := by
  have active : (gateway.stock identity).active = gateway.active.get? identity := rfl
  rw [Gateway.sealFor, Stock.wrap, active]
  cases gateway.active.get? identity with
  | some key => exact ⟨rfl, .of_count gateway _ _, gateway.rests_count _ _⟩
  | none => exact ⟨rfl, .refl gateway, rfl, rfl⟩

/-- An answer that is taken moves no key. -/
theorem respond_of_accepts {gateway : Gateway} (accepts : gateway.Accepts party.handle)
    (message : Message) :
    (desk.respond party message).sent gateway =
        [(party.handle, (gateway.stock party.id).wrap (desk.codec.encode message))] ∧
      ((desk.respond party message).run gateway).2.active = gateway.active ∧
      gateway.Rests ((desk.respond party message).run gateway).2 := by
  let dressed := gateway.sealFor desk.family party.id (desk.codec.encode message)
  obtain ⟨sealed, mirrors, rests⟩ : dressed.1 = _ ∧ gateway.Mirrors dressed.2 ∧ _ :=
    sealFor_spec gateway desk.family party.id (desk.codec.encode message)
  have ran : (desk.respond party message).run gateway =
      ((), (dressed.2.send party.handle dressed.1).2) := rfl
  have said : (desk.respond party message).sent gateway = [(party.handle, dressed.1)] := rfl
  obtain ⟨connections, after⟩ := Gateway.send_of_taken
    (accepts.congr mirrors.connections.symm dressed.1)
  rw [said, ran, after, sealed]
  exact ⟨rfl, mirrors.active.symm, rests.staged, rests.now⟩

variable (payload : Bytes)

/-- What the handling of a message sends, given what becomes of it and the gateway afterwards. -/
structure Replies (outcome : ClearOutcome) (after : Gateway) : Prop where
  /-- Nothing is sent if the payload belongs to the application. -/
  passed : ∀ plain, outcome = .application plain →
    (desk.handleClear party payload).sent gateway = []
  /-- Otherwise one payload is sent, on the channel of the message: what became of it, sealed with
  the key that is active by then. Whoever opens the payload with that key reads just this. -/
  told : (∀ plain, outcome ≠ .application plain) → ∃ message sealed, outcome.IsTold message ∧
    (desk.handleClear party payload).sent gateway = [(party.handle, sealed)] ∧
    sealed = (after.stock party.id).wrap (desk.codec.encode message) ∧
    desk.codec.decode ((after.keyRing party.id).unseal sealed) = .ok message
  /-- The channel has been handed what was sent. -/
  handed : after.contents party.handle = gateway.contents party.handle ++
    (desk.handleClear party payload).sentTo party.handle gateway
  /-- No other connection has been handed anything or been closed. -/
  others : ∀ handle, handle ≠ party.handle → after.mouthOf? handle = gateway.mouthOf? handle
  /-- The channel is still open. -/
  isOpen : after.isOpen party.handle = true
  /-- No connection is closed by the handler itself. -/
  unclosed : ∀ handle, .close handle ∉ (desk.handleClear party payload).calls gateway

theorem unclosed_handleClear (handle : Handle) :
    .close handle ∉ (desk.handleClear party payload).calls gateway := by
  intro made
  cases (desk.clearCalls_handleClear party payload).of_mem_calls gateway _ made

theorem exists_concluded :
    ∃ read, desk.Concludes party gateway (((desk.handleClear party payload).run gateway).1, read)
        ((desk.handleClear party payload).sent gateway) ∧
      read.Mirrors ((desk.handleClear party payload).run gateway).2 ∧
      read.Rests ((desk.handleClear party payload).run gateway).2 := by
  obtain ⟨mirrors, rests, outcome, sent⟩ := mirrors_handleClear desk party gateway payload
  refine ⟨_, ?_, mirrors, rests⟩
  rw [outcome, sent]
  exact desk.concludes_readStaged party gateway payload

/-- What is sent to a channel that takes it is told in the seal of the key active by then. -/
theorem sent_handleClear (accepts : gateway.Accepts party.handle) :
    (∃ plain, ((desk.handleClear party payload).run gateway).1 = .application plain ∧
        (desk.handleClear party payload).sent gateway = []) ∨
      ∃ message, ((desk.handleClear party payload).run gateway).1.IsTold message ∧
        (desk.handleClear party payload).sent gateway = [(party.handle,
          (((desk.handleClear party payload).run gateway).2.stock party.id).wrap
            (desk.codec.encode message))] := by
  obtain ⟨read, concludes, mirrors, -⟩ := desk.exists_concluded party gateway payload
  generalize (desk.handleClear party payload).sent gateway = sent at concludes ⊢
  generalize (desk.handleClear party payload).run gateway = result at concludes mirrors ⊢
  obtain ⟨outcome, after⟩ := result
  dsimp only at concludes mirrors ⊢
  cases concludes with
  | @passed plain _ _ => exact .inl ⟨plain, rfl, rfl⟩
  | @told _ message middle told shifts connections =>
      obtain ⟨said, active, -⟩ := desk.respond_of_accepts party (accepts.congr connections) message
      have same : after.active = middle.active := mirrors.active.symm.trans active
      exact .inr ⟨message, told, by rw [said, Gateway.wrap_stock_congr same]⟩

/-- A connection that takes what it is handed is open, and keeps the next payload. -/
theorem handed_of_accepts {gateway : Gateway} {handle : Handle} (accepts : gateway.Accepts handle)
    {payloads : List Bytes} (few : payloads.length ≤ 1) :
    ∃ mouth, gateway.mouthOf? handle = some mouth ∧
      (mouth.pushAll payloads).contents = mouth.contents ++ payloads ∧
      (mouth.pushAll payloads).isOpen = true := by
  have takes := accepts []
  rw [Gateway.send_fst] at takes
  obtain ⟨mouth, found, takes⟩ := (Option.any_eq_true _ _).1 takes
  exact ⟨mouth, found, Mouth.pushAll_of_takes takes few⟩

/-- **Every answer on a clear channel is readable with the key in force.** -/
theorem replies_handleClear (accepts : gateway.Accepts party.handle) :
    desk.Replies party gateway payload ((desk.handleClear party payload).run gateway).1
      ((desk.handleClear party payload).run gateway).2 := by
  have unclosed := desk.unclosed_handleClear party gateway payload
  have answered := desk.sent_handleClear party gateway payload accepts
  have few : ((desk.handleClear party payload).sentTo party.handle gateway).length ≤ 1 := by
    refine Nat.le_trans (Script.length_sentTo_le party.handle _ gateway) ?_
    rcases answered with ⟨_, -, silent⟩ | ⟨_, -, said⟩
    · simp [silent]
    · simp [said]
  obtain ⟨mouth, found, contents, isOpen⟩ := handed_of_accepts accepts few
  have handed := Gateway.mouthOf?_run_of_unclosed gateway party.handle (unclosed party.handle)
  rw [found, Option.map_some] at handed
  refine ⟨?_, ?_, ?_, ?_, ?_, unclosed⟩
  · intro plain passed
    rcases answered with ⟨_, -, silent⟩ | ⟨message, told, -⟩
    · exact silent
    · rw [passed] at told
      cases told
  · intro spoken
    rcases answered with ⟨plain, passed, -⟩ | ⟨message, told, said⟩
    · exact absurd passed (spoken plain)
    · refine ⟨message, _, told, said, rfl, ?_⟩
      rw [Gateway.unseal_wrap]
      exact told.decode_encode desk.codec
  · rw [Gateway.contents, handed, Gateway.contents, found]
    exact contents
  · intro handle other
    exact Gateway.mouthOf?_run_of_passes gateway handle
      ((desk.clearCalls_handleClear party payload).mono fun _ call => call.passes other.symm)
  · rw [Gateway.isOpen_eq_mouthOf?, handed]
    exact isOpen

/-- In the sample the confirmation is sealed with the key that the acknowledgement made active. -/
theorem sample_ack_is_confirmed :
    let gateway := Desk.run {} Sample.start (Sample.acts.take 4)
    let after := ((handleClear {} ⟨0, 1⟩ Sample.ack).run gateway).2
    gateway.Accepts 0 ∧ gateway.active.get? 1 = none ∧ after.active.get? 1 = some Sample.key ∧
      (handleClear {} ⟨0, 1⟩ Sample.ack).sent gateway =
        [(0, Cipher.transform Sample.key (Codec.json.encode (.ackOutcome .ok)))] ∧
      Replies {} ⟨0, 1⟩ gateway Sample.ack .activated after := by
  intro gateway after
  have mouth : gateway.mouthOf? 0 =
      some ⟨.record [Codec.json.encode (.welcome 1)] false, true⟩ := by decide +kernel
  have accepts := Gateway.accepts_of_mouthOf? mouth
  have outcome : ((handleClear {} ⟨0, 1⟩ Sample.ack).run gateway).1 = .activated := by
    decide +kernel
  exact ⟨accepts, by decide +kernel, by decide +kernel, by decide +kernel,
    outcome ▸ replies_handleClear {} ⟨0, 1⟩ gateway Sample.ack accepts⟩

end Desk

end PadRelay
