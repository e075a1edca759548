import PadRelay.Proofs.Exchange.Calls
import PadRelay.Proofs.Exchange.Phases
import PadRelay.Proofs.Wire.RoundTrip

/-!
# Who is issued a key

A key is issued exactly to a secure connection from the host of the target's open clear channel that
asks for an allowed size. The answer on that connection is then the only message that carries a key,
and the key in it is the one that is staged. Everything else that the gateway writes is without a
key, draws nothing and stages nothing.
-/

namespace PadRelay

/-- A fresh key of a resolved size can always be drawn. -/
theorem Key.generate_of_resolve {policy : SizePolicy} {requested : Option UInt32} {size : Nat}
    (resolved : policy.resolve requested = .ok size) (source : Entropy) :
    ∃ key entropy, Key.generate policy size source = .ok (key, entropy) ∧ key.size = size := by
  have valid := SizePolicy.validate_of_resolve resolved
  have positive : 0 < size := ((SizePolicy.validate_eq_ok_iff _ _ _).1 valid).2.1.pos
  have nonempty : (source.take size).1 ≠ [] := by
    rw [← List.length_pos_iff, Entropy.length_take]
    exact positive
  refine ⟨⟨(source.take size).1, nonempty⟩, (source.take size).2, ?_, source.length_take size⟩
  have made : Key.ofBytes (source.take size).1 = .ok ⟨(source.take size).1, nonempty⟩ :=
    dif_neg nonempty
  simp only [Key.generate, valid, bind, Except.bind, made]
  rfl

namespace SizePolicy

/-- Whether a policy hands out the requested size: none, or a power of two up to the maximum. -/
def Allows (policy : SizePolicy) (requested : Option UInt32) : Prop :=
  ∀ size, requested = some size → (∃ exponent, size.toNat = Nat.pow 2 exponent) ∧
    size.toNat ≤ policy.maximum

theorem allows_iff (policy : SizePolicy) (requested : Option UInt32) :
    policy.Allows requested ↔ ∃ size, policy.resolve requested = .ok size := by
  cases requested with
  | none => exact ⟨fun _ => ⟨policy.default, rfl⟩, fun _ size absent => by cases absent⟩
  | some given =>
      simp only [Allows, resolve, validate_eq_ok_iff, isKeySize_iff_exists, Nat.one_shiftLeft]
      constructor
      · intro allowed
        exact ⟨given.toNat, rfl, allowed given rfl⟩
      · rintro ⟨size, -, allowed⟩ other same
        cases same
        exact allowed

end SizePolicy

namespace Gateway

variable {gateway : Gateway} {family : Family} {identity : Identity}

theorem hostMatches_iff {clear : Party}
    (found : gateway.connectionOf family identity .clear = some clear) (handle : Handle) :
    (gateway.remoteOf? handle).any (gateway.hostMatches family identity) = true ↔
      ∃ here there, gateway.remoteOf? handle = some here ∧
        gateway.remoteOf? clear.handle = some there ∧ there.canonical = here.canonical := by
  simp [Option.any_eq_true, hostMatches, found, IpAddress.sameHost]

end Gateway

/-- Nothing random is drawn, and nobody gets a new staged key. -/
structure Gateway.StagesNothing (before after : Gateway) : Prop where
  entropy : after.entropy = before.entropy
  entry : ∀ identity, after.staged.entries.get? identity = none ∨
    after.staged.entries.get? identity = before.staged.entries.get? identity

theorem Gateway.StagesNothing.trans {before middle after : Gateway}
    (first : before.StagesNothing middle) (second : middle.StagesNothing after) :
    before.StagesNothing after where
  entropy := second.entropy.trans first.entropy
  entry identity := by
    rcases second.entry identity with gone | kept
    · exact .inl gone
    · rw [kept]
      exact first.entry identity

theorem Gateway.Sheds.stagesNothing {before after : Gateway} (sheds : before.Sheds after) :
    before.StagesNothing after := ⟨sheds.entropy, sheds.entry⟩

theorem Gateway.StagesNothing.promote (gateway : Gateway) (identity : Identity)
    (staging : Staging) : gateway.StagesNothing (gateway.promote identity staging) where
  entropy := rfl
  entry other := by
    by_cases same : other = identity
    · exact .inl (by rw [same]; exact Table.get?_erase_self _ _)
    · exact .inr (Table.get?_erase_of_ne _ same)

/-- A run that gives no key away: nothing that it writes carries one. -/
structure Script.Withholds {α : Type} (script : Script α) (gateway : Gateway) : Prop
    extends gateway.StagesNothing (script.run gateway).2 where
  /-- No message carries a key. -/
  written : ∀ message ∈ script.written gateway, message.key? = none

theorem Script.Withholds.of_written {α : Type} {script : Script α} {gateway : Gateway}
    (written : ∀ message ∈ script.written gateway, message.key? = none)
    (stages : gateway.StagesNothing (script.run gateway).2) : script.Withholds gateway :=
  ⟨stages, written⟩

namespace Desk

/-- A request for a new key that is to be granted. -/
structure Grants (desk : Desk) (gateway : Gateway) (party : Party) (payload : Bytes)
    (target : Identity) (requested : Option UInt32) : Prop where
  asked : desk.codec.decode payload = .ok (.keyRequest (.newKey target requested))
  secure : gateway.isSecure party.handle = true
  sameHost : ∃ clear here there,
    gateway.connectionOf desk.family target .clear = some clear ∧
      gateway.remoteOf? party.handle = some here ∧ gateway.remoteOf? clear.handle = some there ∧
        there.canonical = here.canonical
  allowed : desk.policy.Allows requested

/-- What is written and handed over for the request of an encrypted channel. -/
inductive Answer (desk : Desk) (gateway : Gateway) (party : Party) (payload : Bytes) :
    EncryptedOutcome → List Message → List (Handle × Bytes) → Prop
  | refused (code : Code)
      (denied : ∀ target requested, ¬ desk.Grants gateway party payload target requested) :
      Answer desk gateway party payload (.rejected code) [.keyFailure code]
        [(party.handle, desk.codec.encode (.keyFailure code))]
  | dropped (code : Code)
      (denied : ∀ target requested, ¬ desk.Grants gateway party payload target requested) :
      Answer desk gateway party payload (.dropped code) [] []
  | issued {target : Identity} {requested : Option UInt32} {size : Nat} {key : Key}
      {entropy : Entropy} (grants : desk.Grants gateway party payload target requested)
      (resolved : desk.policy.resolve requested = .ok size)
      (drawn : Key.generate desk.policy size gateway.entropy = .ok (key, entropy)) :
      Answer desk gateway party payload .keyIssued [.keyResponse (.issued key.bytes)]
        [(party.handle, desk.codec.encode (.keyResponse (.issued key.bytes)))]
  | revoked {outcome : EncryptedOutcome} {written : List Message} {sent : List (Handle × Bytes)}
      {target : Identity} {requested : Option UInt32}
      (asked : desk.codec.decode payload =
        .ok (.keyRequest ⟨some .delete, some target, requested⟩))
      (other : outcome ≠ .keyIssued) (keyless : ∀ message ∈ written, message.key? = none) :
      Answer desk gateway party payload outcome written sent

/-- What is written and handed over for a request, where an error is still to be answered. -/
def RequestAnswer (desk : Desk) (gateway : Gateway) (party : Party) (payload : Bytes)
    (written : List Message) (sent : List (Handle × Bytes)) :
    Except RequestError EncryptedOutcome → Prop
  | .ok outcome => desk.Answer gateway party payload outcome written sent
  | .error _ => written = [] ∧ sent = [] ∧
      ∀ target requested, ¬ desk.Grants gateway party payload target requested

open Script (ask)

variable (desk : Desk) (party : Party) (gateway : Gateway) (payload : Bytes)

section Answer

variable {desk party gateway payload} {target : Identity} {requested : Option UInt32}

/-- A request that was read is granted for its own target and size alone. -/
theorem Grants.eq_of_asked {request : KeyRequest} {other : Identity} {size : Option UInt32}
    (asked : desk.codec.decode payload = .ok (.keyRequest request))
    (grants : desk.Grants gateway party payload other size) : request = .newKey other size := by
  have same := asked.symm.trans grants.asked
  cases same
  rfl

theorem answer_refuse (denied : ∀ target requested,
      ¬ desk.Grants gateway party payload target requested) (code : Code) (middle : Gateway) :
    desk.Answer gateway party payload ((desk.refuse party code).run middle).1
      ((desk.refuse party code).written middle) ((desk.refuse party code).sent middle) :=
  .refused code denied

/-- On an admitted request for a new key only the size is still to be looked at. -/
theorem answer_issue
    (grants : desk.policy.Allows requested → desk.Grants gateway party payload target requested)
    (asked : desk.codec.decode payload = .ok (.keyRequest (.newKey target requested)))
    {middle : Gateway} (entropy : middle.entropy = gateway.entropy) {clear : Party}
    (found : middle.connectionOf desk.family target .clear = some clear) :
    desk.RequestAnswer gateway party payload ((desk.issue party target requested).written middle)
      ((desk.issue party target requested).sent middle)
      ((desk.issue party target requested).run middle).1 := by
  rw [issue]
  cases resolved : desk.policy.resolve requested with
  | error error =>
      have denied (other : Identity) (size : Option UInt32) :
          ¬ desk.Grants gateway party payload other size := by
        intro granted
        cases granted.eq_of_asked asked
        obtain ⟨size, allowed⟩ := (desk.policy.allows_iff _).1 granted.allowed
        rw [resolved] at allowed
        cases allowed
      simp only [Script.run_bind, Script.run_pure, Script.written_bind, Script.written_pure,
        Script.sent_bind, Script.sent_pure, List.append_nil]
      exact answer_refuse denied _ middle
  | ok size =>
      have granted := grants ((desk.policy.allows_iff _).2 ⟨size, resolved⟩)
      obtain ⟨key, rest, drawn, -⟩ := Key.generate_of_resolve resolved middle.entropy
      have still : (middle.stageNew target key rest).connectionOf desk.family target .clear =
          some clear := found
      have answer := Answer.issued granted resolved (entropy ▸ drawn)
      have ran : (ask (.generate desk.policy size)).run middle =
          (.ok key, { middle with entropy := rest }) := by
        rw [Script.run_ask]
        simp only [Gateway.perform, drawn]
      rw [Script.written_bind, Script.sent_bind, Script.run_bind, ran]
      simp only [Script.written_bind, Script.sent_bind, Script.run_bind, Script.ask,
        Script.run_call, Script.run_done, Gateway.perform]
      split
      · next gone => exact absurd (still.symm.trans gone) (by simp)
      · exact answer

theorem answer_revoke
    (asked : desk.codec.decode payload =
      .ok (.keyRequest ⟨some .delete, some target, requested⟩)) (middle : Gateway) :
    desk.Answer gateway party payload ((desk.revoke party target).run middle).1
      ((desk.revoke party target).written middle) ((desk.revoke party target).sent middle) :=
  .revoked asked (desk.revoke_ne_keyIssued party middle target)
    ((desk.discreet_revoke party target).keyless_written middle)

theorem answer_serve {function : KeyFunction}
    (asked : desk.codec.decode payload =
      .ok (.keyRequest ⟨some function, some target, requested⟩))
    (secure : gateway.isSecure party.handle = true) :
    desk.RequestAnswer gateway party payload
      ((desk.serve party function target requested).written gateway)
      ((desk.serve party function target requested).sent gateway)
      ((desk.serve party function target requested).run gateway).1 := by
  unfold serve
  rw [Script.written_bind, Script.sent_bind, Script.run_bind, Script.run_ask]
  simp only [Gateway.perform]
  cases found : gateway.connectionOf desk.family target .clear with
  | none =>
      have denied (other : Identity) (size : Option UInt32) :
          ¬ desk.Grants gateway party payload other size := by
        intro granted
        cases granted.eq_of_asked asked
        obtain ⟨clear, here, there, seen, -⟩ := granted.sameHost
        rw [found] at seen
        cases seen
      simp only [Script.run_bind, Script.run_pure, Script.written_bind, Script.written_pure,
        Script.sent_bind, Script.sent_pure, List.append_nil]
      exact answer_refuse denied _ gateway
  | some clear =>
      simp only []
      rw [Script.written_bind, Script.sent_bind, Script.run_bind, Script.run_ask]
      split
      · next matched =>
          obtain ⟨here, there, from_here, from_there, same⟩ :=
            (Gateway.hostMatches_iff found party.handle).1 matched
          have silent := silent_setEncrypted party desk.family target
          have entropy := (Gateway.Sheds.occupy gateway desk.family target .encrypted party).entropy
          have still := (Gateway.connectionOf_occupy_of_ne gateway desk.family desk.family target
            .encrypted .clear party target Role.noConfusion).trans found
          rw [Script.written_bind, Script.sent_bind, Script.run_bind]
          simp only [Gateway.perform]
          rw [Gateway.setEncrypted_of_isSecure secure, silent.written_eq_nil, silent.sent_eq_nil]
          cases function with
          | new =>
              have grants (allowed : desk.policy.Allows requested) :
                  desk.Grants gateway party payload target requested :=
                ⟨asked, secure, ⟨clear, here, there, found, from_here, from_there, same⟩, allowed⟩
              exact answer_issue grants asked entropy still
          | delete =>
              simp only [Script.run_bind, Script.run_pure, Script.written_bind,
                Script.written_pure, Script.sent_bind, Script.sent_pure, List.append_nil]
              exact answer_revoke asked _
      · next mismatched =>
          have denied (other : Identity) (size : Option UInt32) :
              ¬ desk.Grants gateway party payload other size := by
            intro granted
            cases granted.eq_of_asked asked
            obtain ⟨seen, here, there, seen_found, hosts⟩ := granted.sameHost
            cases found.symm.trans seen_found
            exact mismatched ((Gateway.hostMatches_iff found party.handle).2 ⟨here, there, hosts⟩)
          exact Answer.dropped _ denied

end Answer

theorem answer_readRequest :
    desk.RequestAnswer gateway party payload ((desk.readRequest party payload).written gateway)
      ((desk.readRequest party payload).sent gateway)
      ((desk.readRequest party payload).run gateway).1 := by
  rw [readRequest]
  split
  · next request asked =>
      rw [Script.written_bind, Script.sent_bind, Script.run_bind, Script.run_ask]
      split
      · next secure =>
          obtain ⟨function, target, requested⟩ := request
          have refused (incomplete : ∀ other size, (⟨function, target, requested⟩ : KeyRequest) ≠
              .newKey other size) (code : Code) :
              desk.Answer gateway party payload (.rejected code) [.keyFailure code]
                [(party.handle, desk.codec.encode (.keyFailure code))] :=
            .refused code fun other size grants =>
              incomplete other size (grants.eq_of_asked asked)
          simp only
          split
          · exact refused (by rintro _ _ ⟨⟩) _
          · exact refused (by rintro _ _ ⟨⟩) _
          · exact answer_serve asked secure
      · next insecure =>
          exact Answer.dropped _ fun target requested grants => insecure grants.secure
  · next other =>
      exact Answer.dropped _ fun target requested grants => other _ grants.asked

theorem answer_attempt :
    desk.Answer gateway party payload ((desk.attempt party payload).run gateway).1
      ((desk.attempt party payload).written gateway)
      ((desk.attempt party payload).sent gateway) := by
  have read := desk.answer_readRequest party gateway payload
  rw [attempt, Script.written_bind, Script.sent_bind, Script.run_bind]
  generalize (desk.readRequest party payload).run gateway = result at read ⊢
  obtain ⟨carried, middle⟩ := result
  cases carried with
  | ok outcome =>
      dsimp only
      rw [Script.written_pure, Script.sent_pure, List.append_nil, List.append_nil]
      exact read
  | error error =>
      obtain ⟨nothing, silence, denied⟩ := read
      rw [nothing, silence]
      exact answer_refuse denied error.code middle

theorem answer_handleEncrypted :
    desk.Answer gateway party payload ((desk.handleEncrypted party payload).run gateway).1
      ((desk.handleEncrypted party payload).written gateway)
      ((desk.handleEncrypted party payload).sent gateway) := by
  have attempted := desk.answer_attempt party gateway payload
  have silent := desk.silent_finish party ((desk.attempt party payload).run gateway).1
  rw [handleEncrypted_eq, Script.written_bind, Script.sent_bind, Script.run_bind, run_finish_fst,
    silent.written_eq_nil, silent.sent_eq_nil, List.append_nil, List.append_nil]
  exact attempted

theorem withholds_handleClear : (desk.handleClear party payload).Withholds gateway := by
  have discreet := (desk.clearCalls_handleClear party payload).mono fun _ => ClearCall.isDiscreet
  have effect := desk.effect_handleClear party gateway payload
  refine .of_written (discreet.keyless_written gateway) ?_
  generalize (desk.handleClear party payload).run gateway = result at effect
  cases effect with
  | idle quiet drifts => exact drifts.sheds.stagesNothing
  | deleted first active last =>
      exact ((first.sheds.trans (.deactivate _ _)).trans last.sheds).stagesNothing
  | activated first found inTime last =>
      exact (first.sheds.stagesNothing.trans (.promote _ _ _)).trans last.sheds.stagesNothing

variable {desk party gateway payload}

theorem withholds_handleEncrypted (known : gateway.Knows party)
    (other : ((desk.handleEncrypted party payload).run gateway).1 ≠ .keyIssued) :
    (desk.handleEncrypted party payload).Withholds gateway := by
  have answer := desk.answer_handleEncrypted party gateway payload
  have effect := desk.effect_handleEncrypted party payload gateway known
  refine .of_written ?_ ?_
  · generalize (desk.handleEncrypted party payload).written gateway = written at answer
    generalize (desk.handleEncrypted party payload).sent gateway = sent at answer
    generalize ((desk.handleEncrypted party payload).run gateway).1 = outcome at answer other
    cases answer with
    | refused code denied => simp [Message.keyFailure, KeyResponse.failure, Message.key?]
    | dropped code denied => simp
    | issued grants resolved drawn => exact absurd rfl other
    | revoked asked other keyless => exact keyless
  · generalize (desk.handleEncrypted party payload).run gateway = result at effect other
    cases effect with
    | idle failure drifts => exact drifts.sheds.stagesNothing
    | issued => exact absurd rfl other
    | deleted asked first active last =>
        exact ((first.sheds.trans (.deactivate _ _)).trans last.sheds).stagesNothing

theorem Answer.keyIssued_of_grants {outcome : EncryptedOutcome} {written : List Message}
    {sent : List (Handle × Bytes)} {target : Identity} {requested : Option UInt32}
    (answer : desk.Answer gateway party payload outcome written sent)
    (grants : desk.Grants gateway party payload target requested) : outcome = .keyIssued := by
  cases answer with
  | refused code denied | dropped code denied => exact absurd grants (denied _ _)
  | issued granted resolved drawn => rfl
  | revoked asked other keyless => cases asked.symm.trans grants.asked

theorem Answer.eq_issued {written : List Message} {sent : List (Handle × Bytes)}
    (answer : desk.Answer gateway party payload .keyIssued written sent) :
    ∃ target requested key rest, desk.Grants gateway party payload target requested ∧
      desk.policy.resolve requested = .ok key.size ∧
        Key.generate desk.policy key.size gateway.entropy = .ok (key, rest) ∧
          written = [.keyResponse (.issued key.bytes)] ∧
            sent = [(party.handle, desk.codec.encode (.keyResponse (.issued key.bytes)))] := by
  cases answer with
  | @issued target requested size key rest granted resolved drawn =>
      obtain ⟨other, left, again, sized⟩ := Key.generate_of_resolve resolved gateway.entropy
      cases drawn.symm.trans again
      subst sized
      exact ⟨target, requested, key, rest, granted, resolved, drawn, rfl, rfl⟩
  | revoked asked other keyless => exact absurd rfl other

/-- A granted request hands over nothing but the answer on its own channel, so that every other
connection stays as it is. -/
theorem mouthOf?_of_keyIssued
    (issued : ((desk.handleEncrypted party payload).run gateway).1 = .keyIssued) {handle : Handle}
    (other : handle ≠ party.handle) :
    ((desk.handleEncrypted party payload).run gateway).2.mouthOf? handle =
      gateway.mouthOf? handle := by
  have answer := desk.answer_handleEncrypted party gateway payload
  apply Gateway.mouthOf?_run_of_apart
  · rw [issued] at answer
    obtain ⟨target, requested, key, rest, granted, resolved, drawn, written, sent⟩ :=
      answer.eq_issued
    simp [Script.sentTo, sent, Ne.symm other]
  · intro made
    rcases desk.mem_calls_handleEncrypted party gateway payload made with early | closing
    · cases early
    · cases closing
      exact other rfl

/-- The key that was drawn is the staged key of the target afterwards. -/
theorem holding_of_keyIssued (known : gateway.Knows party)
    (apart : ¬ gateway.IsAttached party.handle) (positive : 0 < gateway.staged.expiry)
    (issued : ((desk.handleEncrypted party payload).run gateway).1 = .keyIssued)
    {target : Identity} {requested : Option UInt32} {size : Nat} {key : Key} {rest : Entropy}
    (asked : desk.codec.decode payload = .ok (.keyRequest (.newKey target requested)))
    (resolved : desk.policy.resolve requested = .ok size)
    (drawn : Key.generate desk.policy size gateway.entropy = .ok (key, rest)) :
    ((desk.handleEncrypted party payload).run gateway).2.holding target =
      ⟨gateway.active.get? target, some ⟨key, gateway.staged.generation⟩⟩ := by
  have effect := desk.effect_handleEncrypted party payload gateway known
  have calm (handle : Handle) (attached : gateway.IsAttached handle) :
      ((desk.handleEncrypted party payload).run gateway).2.isOpen handle = true := by
    have other : handle ≠ party.handle := fun same => apart (same ▸ attached)
    rw [Gateway.isOpen_eq_mouthOf?, mouthOf?_of_keyIssued issued other,
      ← Gateway.isOpen_eq_mouthOf?]
    exact attached.isOpen
  generalize (desk.handleEncrypted party payload).run gateway = result at effect issued calm ⊢
  cases effect with
  | idle failure drifts => cases issued; cases failure
  | deleted => cases issued
  | @issued middle after other size' requested' key' entropy asked' allowed first found drawn'
      last =>
      cases asked.symm.trans asked'
      cases resolved.symm.trans allowed
      rw [first.sheds.entropy] at drawn'
      cases drawn.symm.trans drawn'
      have lives : 0 < middle.staged.expiry := by
        rwa [first.sheds.expiry]
      obtain ⟨same, moved⟩ := Gateway.holding_of_spares first.spares last.spares rfl calm target
      rw [moved, Gateway.holding_stageNew _ _ _ lives, if_pos rfl, same, first.sheds.generation]
      rfl

/-- A key is issued exactly to those whose request is to be granted. The one payload that is then
handed over is the answer with the staged key; in all other cases, and on clear channels, no key is
given away. -/
theorem keyIssued_iff_grants (desk : Desk) {gateway : Gateway} {party : Party}
    (known : gateway.Knows party) (apart : ¬ gateway.IsAttached party.handle)
    (positive : 0 < gateway.staged.expiry) (payload : Bytes) :
    let script := desk.handleEncrypted party payload
    ((script.run gateway).1 = .keyIssued ↔
        ∃ target requested, desk.Grants gateway party payload target requested) ∧
      (∀ target requested, desk.Grants gateway party payload target requested →
        ∃ key, desk.policy.resolve requested = .ok key.size ∧
          (script.run gateway).2.holding target =
            ⟨gateway.active.get? target, some ⟨key, gateway.staged.generation⟩⟩ ∧
          script.written gateway = [.keyResponse (.issued key.bytes)] ∧
          script.sent gateway =
            [(party.handle, desk.codec.encode (.keyResponse (.issued key.bytes)))] ∧
          (script.run gateway).2.mouthOf? party.handle =
            (gateway.mouthOf? party.handle).map (fun mouth =>
              (mouth.push (desk.codec.encode (.keyResponse (.issued key.bytes)))).shut) ∧
          ∀ handle, handle ≠ party.handle →
            (script.run gateway).2.mouthOf? handle = gateway.mouthOf? handle) ∧
      ((script.run gateway).1 ≠ .keyIssued → script.Withholds gateway) ∧
      ∀ channel message, (desk.handleClear channel message).Withholds gateway := by
  intro script
  have answer := desk.answer_handleEncrypted party gateway payload
  refine ⟨⟨fun issued => ?_, fun ⟨target, requested, grants⟩ => ?_⟩, ?_, ?_, ?_⟩
  · rw [issued] at answer
    obtain ⟨target, requested, -, -, grants, -⟩ := answer.eq_issued
    exact ⟨target, requested, grants⟩
  · exact answer.keyIssued_of_grants grants
  · intro target requested grants
    have issued := answer.keyIssued_of_grants grants
    rw [issued] at answer
    obtain ⟨other, size, key, rest, granted, resolved, drawn, written, sent⟩ := answer.eq_issued
    cases granted.eq_of_asked grants.asked
    have staged := holding_of_keyIssued known apart positive issued grants.asked resolved drawn
    have handed := desk.mouthOf?_handleEncrypted party gateway payload
    have to_party : (desk.handleEncrypted party payload).sentTo party.handle gateway =
        [desk.codec.encode (.keyResponse (.issued key.bytes))] := by
      simp [Script.sentTo, sent]
    rw [to_party] at handed
    exact ⟨key, resolved, staged, written, sent, handed,
      fun handle => mouthOf?_of_keyIssued issued⟩
  · exact withholds_handleEncrypted known
  · exact fun channel message => desk.withholds_handleClear channel gateway message

/-- The request of the sample run is granted, and the connection that made it is sent the key. -/
theorem sample_request_is_granted :
    (Desk.Grants {} (Desk.run {} Sample.start (Sample.acts.take 3)) ⟨1, 2⟩
        (Codec.json.encode (.keyRequest (.newKey 1 (some 1)))) 1 (some 1)) ∧
      ∃ key, (Desk.handleEncrypted {} ⟨1, 2⟩
          (Codec.json.encode (.keyRequest (.newKey 1 (some 1))))).sent
            (Desk.run {} Sample.start (Sample.acts.take 3)) =
              [(1, Codec.json.encode (.keyResponse (.issued key)))] := by
  have known : (Desk.run {} Sample.start (Sample.acts.take 3)).Knows ⟨1, 2⟩ := by
    rw [Gateway.Knows]
    decide +kernel
  have apart : ¬ (Desk.run {} Sample.start (Sample.acts.take 3)).IsAttached 1 := by
    rintro ⟨connection, identity, found, -, waits⟩
    have nothing : ((Desk.run {} Sample.start (Sample.acts.take 3)).connections.get? 1).map
        (fun connection => connection.life.waiting) = some [] := by
      decide +kernel
    rw [found, Option.map_some, Option.some.injEq] at nothing
    rw [nothing] at waits
    cases waits
  have positive : 0 < (Desk.run {} Sample.start (Sample.acts.take 3)).staged.expiry := by
    decide +kernel
  have sameHost : (Desk.run {} Sample.start (Sample.acts.take 3)).connectionOf .socket 1 .clear =
      some ⟨0, 1⟩ ∧
        (Desk.run {} Sample.start (Sample.acts.take 3)).remoteOf? 1 = some .loopback ∧
          (Desk.run {} Sample.start (Sample.acts.take 3)).remoteOf? 0 = some .loopback := by
    decide +kernel
  have allowed : SizePolicy.standard.Allows (some 1) := by
    rintro size ⟨⟩
    exact ⟨⟨0, rfl⟩, by decide⟩
  have grants : Desk.Grants {} (Desk.run {} Sample.start (Sample.acts.take 3)) ⟨1, 2⟩
      (Codec.json.encode (.keyRequest (.newKey 1 (some 1)))) 1 (some 1) :=
    ⟨Codec.decode_encode (Codec.carries_keyRequest .json _), by decide +kernel,
      ⟨⟨0, 1⟩, .loopback, .loopback, sameHost.1, sameHost.2.1, sameHost.2.2, rfl⟩, allowed⟩
  obtain ⟨key, -, -, -, sent, -⟩ := (keyIssued_iff_grants {} known apart positive
    (Codec.json.encode (.keyRequest (.newKey 1 (some 1))))).2.1 1 (some 1) grants
  exact ⟨grants, key.bytes, sent⟩

end Desk

end PadRelay
