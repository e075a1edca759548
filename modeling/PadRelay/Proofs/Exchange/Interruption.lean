import PadRelay.Proofs.Exchange.Reach

/-!
# Closes in the middle of a handler

A clear channel can close between any two calls of a handler. Whatever the handler has done by then
is taken away by the close; what it does afterwards must not bring a key back. Issuing looks at the
channel again after staging and takes the key back if the channel has gone. Activating does not: it
first takes the staged key out, and a close right then finds no key to take away.
-/

namespace PadRelay

/-- A call that activates no key and enters nothing into a clear slot. -/
def Call.IsOrdinary : Call → Prop
  | .place _ _ role _ => role = .encrypted
  | .activate _ _ => False
  | _ => True

namespace Call

variable {request : Call}

theorem IsPlain.isOrdinary (plain : request.IsPlain) : request.IsOrdinary := by
  cases request with
  | place | activate => cases plain
  | _ => trivial

theorem IsMild.isOrdinary (mild : request.IsMild) : request.IsOrdinary := by
  cases request with
  | place => exact mild
  | activate => cases mild
  | _ => trivial

theorem IsMild.not_mayClose (mild : request.IsMild) : ¬ request.MayClose := by
  cases request with
  | send | close => cases mild
  | _ => exact id

end Call

namespace Script

variable {α β : Type} {family : Family} {party : Party} {exposes : Prop}

/-- Run without the clear channel of an identity, a script leaves no key of it. -/
def Quiet (family : Family) (identity : Identity) (script : Script α) : Prop :=
  ∀ gateway, gateway.Gone family identity → (script.run gateway).2.Gone family identity

/-- The channel of a party may close before any call of a script without leaving a key behind. Where
the script `exposes` keys, the calls that activate one are excepted. -/
inductive Cautious (family : Family) (party : Party) (exposes : Prop) : Script α → Prop
  | done (value : α) : Cautious family party exposes (.done value)
  | step {request : Call} {next : request.Reply → Script α}
      (quiet : (Script.call request next).Quiet family party.id)
      (ordinary : request.IsOrdinary)
      (closing : request.MayClose → ∀ reply, (next reply).Only Call.IsPlain)
      (rest : ∀ reply, Cautious family party exposes (next reply)) :
      Cautious family party exposes (.call request next)
  | activates {key : Key} {next : Unit → Script α} (exposed : exposes)
      (answers : ∀ reply, (next reply).Only (Call.Addresses party.handle)) :
      Cautious family party exposes (.call (.activate party.id key) next)

/-- A script that needs no channel, wherever in it the channel closes. -/
structure Careful (family : Family) (party : Party) (exposes : Prop) (script : Script α) :
    Prop where
  /-- The channel may have closed before. -/
  quiet : script.Quiet family party.id
  /-- The channel may close in between. -/
  cautious : script.Cautious family party exposes

theorem Only.quiet_of_plain {script : Script α} (plain : script.Only Call.IsPlain)
    (identity : Identity) : script.Quiet family identity :=
  fun gateway gone => gone.drifts (Gateway.drifts_run plain gateway)

theorem Only.quiet_of_mild {script : Script α} (mild : script.Only Call.IsMild)
    (identity : Identity) : script.Quiet family identity :=
  fun _ gone => mild.preserves (fun state => state.Gone family identity)
    (fun _ permitted _ gone => gone.mild permitted) gone

theorem Quiet.bind {script : Script α} {next : α → Script β} {identity : Identity}
    (first : script.Quiet family identity) (rest : ∀ value, (next value).Quiet family identity) :
    (script >>= next).Quiet family identity := by
  intro gateway gone
  rw [run_bind]
  exact rest _ _ (first gateway gone)

namespace Careful

theorem of_plain {script : Script α} (plain : script.Only Call.IsPlain) :
    script.Careful family party exposes := by
  refine ⟨plain.quiet_of_plain _, ?_⟩
  induction script with
  | done value => exact .done value
  | call request next induction =>
      exact .step (plain.quiet_of_plain _) plain.1.isOrdinary (fun _ => plain.2)
        fun reply => induction reply (plain.2 reply)

/-- Calls in front that leave a closed channel without keys. -/
theorem after {script : Script α} {next : α → Script β} (mild : script.Only Call.IsMild)
    (rest : ∀ value, (next value).Careful family party exposes) :
    (script >>= next).Careful family party exposes := by
  have quiet {script : Script α} (mild : script.Only Call.IsMild) :
      (script >>= next).Quiet family party.id :=
    (mild.quiet_of_mild _).bind fun value => (rest value).quiet
  refine ⟨quiet mild, ?_⟩
  induction script with
  | done value => exact (rest value).cautious
  | call request others induction =>
      exact .step (quiet mild) mild.1.isOrdinary (fun closes => absurd closes mild.1.not_mayClose)
        fun reply => induction reply (mild.2 reply)

/-- Plain calls behind. Where a key is exposed, they address the party alone. -/
theorem before {script : Script α} {next : α → Script β}
    (first : script.Careful family party exposes)
    (plain : ∀ value, (next value).Only Call.IsPlain)
    (answers : exposes → ∀ value, (next value).Only (Call.Addresses party.handle)) :
    (script >>= next).Careful family party exposes := by
  refine ⟨first.quiet.bind fun value => (plain value).quiet_of_plain _, ?_⟩
  obtain ⟨-, cautious⟩ := first
  induction cautious with
  | done value => exact (of_plain (plain value)).cautious
  | step quiet ordinary closing rest induction =>
      exact .step (quiet.bind fun value => (plain value).quiet_of_plain _) ordinary
        (fun closes reply => (closing closes reply).bind plain) induction
  | activates exposed told =>
      exact .activates exposed fun reply => (told reply).bind (answers exposed)

end Careful

theorem Cautious.advance {script : Script α} (cautious : script.Cautious family party exposes)
    {gateway : Gateway} (channel : gateway.Channel family party) (count : Nat) :
    (script.advance count gateway).1.Cautious family party exposes ∧
        (script.advance count gateway).2.Channel family party ∨
      (script.advance count gateway).1.Only Call.IsPlain ∧
        (script.advance count gateway).2.Gone family party.id := by
  induction count generalizing script gateway with
  | zero => exact .inl ⟨cautious, channel⟩
  | succ count induction =>
      cases cautious with
      | done value => exact .inl ⟨.done value, channel⟩
      | @step request next quiet ordinary closing rest =>
          have spares (other : Family) (subject : Identity) (entering : Party) :
              request ≠ .place other subject .clear entering := by
            intro equal
            rw [equal] at ordinary
            cases ordinary
          -- A full outlet can close the channel before the close does.
          rcases channel.perform spares with stays | ⟨gone, closes⟩
          · exact induction (rest _) stays
          · have plain := closing closes (gateway.perform request).1
            refine .inr ⟨plain.advance _ _, ?_⟩
            exact plain.preserves_advance (fun state => state.Gone family party.id)
              (fun _ permitted _ gone => gone.drifts (Gateway.drifts_perform permitted _)) _ gone
      | @activates key next exposed answers =>
          have stays : (gateway.perform (.activate party.id key)).2.Channel family party :=
            (channel.perform fun _ _ _ => Call.noConfusion).resolve_right fun gone => gone.2
          have plain := (answers ()).mono fun _ => Call.Addresses.isPlain
          exact induction (Careful.of_plain plain).cautious stays

/-- The close falls just before a key becomes active, which stays, or it leaves no key behind. -/
theorem Cautious.runClosing {script : Script α} (cautious : script.Cautious family party exposes)
    {gateway : Gateway} (channel : gateway.Channel family party) (count : Nat) :
    (script.runClosing count party.handle gateway).Gone family party.id ∧
        (∀ identity key, script.stopsAt count gateway ≠ some (.activate identity key)) ∨
      exposes ∧ ∃ key, script.stopsAt count gateway = some (.activate party.id key) ∧
        (script.runClosing count party.handle gateway).active.get? party.id = some key := by
  have stopped := cautious.advance channel count
  rw [stopsAt, Script.runClosing]
  generalize (script.advance count gateway).1 = rest at stopped
  generalize (script.advance count gateway).2 = middle at stopped
  rcases stopped with ⟨left, stays⟩ | ⟨plain, gone⟩
  · have gone := stays.gone_close
    cases left with
    | done value => exact .inl ⟨gone, fun _ _ equal => by cases equal⟩
    | step quiet ordinary closing left =>
        refine .inl ⟨quiet _ gone, ?_⟩
        intro identity key equal
        cases equal
        exact ordinary
    | @activates key next exposed answers =>
        refine .inr ⟨exposed, key, rfl, ?_⟩
        -- Its hooks have run already, so nothing that follows takes the new key away.
        have closed : ((middle.close party.handle).perform
            (.activate party.id key)).2.isOpen party.handle = false :=
          Gateway.isOpen_close middle party.handle
        rw [run_call, (answers ()).active_of_closed closed]
        exact Table.get?_insert_self _ _ _
  · refine .inl ⟨?_, ?_⟩
    · exact plain.quiet_of_plain _ _ (gone.drifts (.single (.close party.handle)))
    · intro identity key equal
      cases rest with
      | done value => cases equal
      | call request next =>
          cases equal
          exact plain.1

end Script

namespace Desk

open Script (ask)

variable (desk : Desk) (party : Party)

theorem mild_deleteKey (identity : Identity) : (desk.deleteKey identity).Only Call.IsMild := by
  apply Script.Only.bind (.ask trivial)
  intro dropped
  cases dropped with
  | some key => exact Script.Only.bind (.ask trivial) fun _ => trivial
  | none => trivial

/-- Without its channel, an acknowledgement finds no staged key. -/
theorem careful_takeStaged {α : Type} {family : Family} {exposes : Prop} (expected : StagedKey)
    {next : Option Key → Script α} (absent : (next none).Only Call.IsPlain)
    (present : ∀ key, (next (some key)).Cautious family party exposes) :
    (ask (.takeStaged party.id expected) >>= next).Careful family party exposes := by
  have quiet : (ask (.takeStaged party.id expected) >>= next).Quiet family party.id := by
    intro gateway gone
    rw [Script.run_bind, Script.run_ask]
    simp only [Gateway.perform, Gateway.onStaged_fst, Gateway.onStaged_snd]
    cases took : gateway.staged.takeIf gateway.now party.id expected with
    | mk taken rest =>
        cases taken with
        | none =>
            have same : rest = gateway.staged := StagedKeys.takeIf_eq_none _ _ _ took
            subst same
            exact absent.quiet_of_plain party.id gateway gone
        | some held =>
            obtain ⟨staging, found, -⟩ := StagedKeys.takeIf_eq_some _ _ _ took
            rw [gone.keyless.2.1] at found
            cases found
  refine ⟨quiet, .step quiet trivial (fun closes => closes.elim) ?_⟩
  intro taken
  cases taken with
  | none => exact (Script.Careful.of_plain absent).cautious
  | some key => exact present key

theorem careful_activate (target : Identity) (expected : StagedKey) :
    (desk.activate party target expected).Careful desk.family party True := by
  rw [activate]
  split
  · exact .of_plain (desk.plain_rejectAck party _)
  · have told : (ask (.count desk.family .activated) >>= fun _ =>
        desk.respond party (.ackOutcome .ok) >>= fun _ =>
          (pure .activated : Script ClearOutcome)).Only (Call.Addresses party.handle) :=
      Script.Only.bind (.ask trivial) fun _ =>
        Script.Only.bind (desk.addresses_respond party _) fun _ => trivial
    exact careful_takeStaged party expected (desk.plain_rejectAck party .noPendingKey)
      fun key => .activates trivial fun _ => told

theorem careful_clearRequest (request : KeyRequest) :
    (desk.clearRequest party request).Careful desk.family party True := by
  rw [clearRequest]
  split
  · split
    · exact .of_plain (desk.plain_rejectDelete party _)
    · refine .after (desk.mild_deleteKey party.id) ?_
      intro code
      split
      · exact .of_plain (Script.Only.bind (desk.plain_respond party _) fun _ => trivial)
      · exact .of_plain (desk.plain_rejectDelete party _)
  · exact .of_plain (desk.plain_reject party _)
  · exact .of_plain (desk.plain_reject party _)

theorem careful_readPlain (payload : Bytes) :
    (desk.readPlain party payload).Careful desk.family party True := by
  rw [readPlain]
  split
  · exact desk.careful_clearRequest party _
  · exact .of_plain (desk.plain_rejectAck party _)
  · exact .of_plain (desk.plain_reject party _)
  · split
    · exact .of_plain (desk.plain_reject party _)
    · exact .of_plain trivial

theorem mild_openWith (key : Key) (payload : Bytes) :
    (desk.openWith key payload).Only Call.IsMild :=
  Script.Only.bind (.ask trivial) fun _ => trivial

theorem careful_readActive (payload : Bytes) :
    (desk.readActive party payload).Careful desk.family party True := by
  refine .after (.ask trivial) ?_
  intro key
  cases key with
  | some key =>
      exact .after (desk.mild_openWith key payload) fun plain => desk.careful_readPlain party plain
  | none => exact desk.careful_readPlain party payload

theorem careful_readRetired (payload : Bytes) :
    (desk.readRetired party payload).Careful desk.family party True := by
  refine .after (.ask trivial) ?_
  intro key
  cases key with
  | some key =>
      refine .after (desk.mild_openWith key payload) ?_
      intro plain
      split
      · exact .of_plain (desk.plain_rejectAck party _)
      · exact desk.careful_readActive party payload
  | none => exact desk.careful_readActive party payload

theorem careful_readStaged (payload : Bytes) :
    (desk.readStaged party payload).Careful desk.family party True := by
  refine .after (.ask trivial) ?_
  intro held
  cases held with
  | some held =>
      refine .after (desk.mild_openWith held.key payload) ?_
      intro plain
      split
      · exact desk.careful_activate party _ held
      · exact .after (.ask trivial) fun _ => desk.careful_readRetired party payload
  | none => exact desk.careful_readRetired party payload

/-- Handling a message on a clear channel exposes a key while it becomes active. -/
theorem careful_handleClear (payload : Bytes) :
    (desk.handleClear party payload).Careful desk.family party True := by
  have counted (outcome : ClearOutcome) :
      (do
        if outcome.isRejected then
          ask (.count desk.family .rejected)
        return outcome : Script ClearOutcome).Only (Call.Addresses party.handle) := by
    dsimp only
    split
    · exact Script.Only.bind (.ask trivial) fun _ => trivial
    · trivial
  exact (desk.careful_readStaged party payload).before
    (fun outcome => (counted outcome).mono fun _ => Call.Addresses.isPlain) fun _ => counted

/-- A key that is staged without the channel is taken back as soon as the channel is looked at. -/
theorem careful_stage {α : Type} {family : Family} (target : Identity) (key : Key)
    {next : Option Party → Script α} {refused : Unit → Script α}
    (absent : next none = (ask (.unstage target) >>= refused))
    (plain_refused : ∀ reply, (refused reply).Only Call.IsPlain)
    (present : ∀ clear, (next (some clear)).Only Call.IsPlain) :
    (ask (.stage target key) >>= fun _ => ask (.clearOf family target) >>= next).Careful family
      party False := by
  have careful_next (seen : Option Party) : (next seen).Careful family party False := by
    cases seen with
    | none =>
        rw [absent]
        exact .after (.ask trivial) fun reply => .of_plain (plain_refused reply)
    | some clear => exact .of_plain (present clear)
  have quiet : (ask (.stage target key) >>= fun _ =>
      ask (.clearOf family target) >>= next).Quiet family party.id := by
    intro gateway gone
    rw [Script.run_bind, Script.run_ask, Script.run_bind, Script.run_ask]
    by_cases same : party.id = target
    · subst same
      have unseen : ((gateway.perform (.stage party.id key)).2.perform
          (.clearOf family party.id)).1 = none := gone.unseen
      rw [unseen, absent, Script.run_bind, Script.run_ask]
      exact (plain_refused _).quiet_of_plain party.id _ (gone.unstage_stage key)
    · exact (careful_next _).quiet _ (gone.stage_of_ne key same)
  have rest : (ask (.clearOf family target) >>= next).Careful family party False :=
    .after (.ask trivial) careful_next
  exact ⟨quiet, .step quiet trivial (fun closes => closes.elim) fun _ => rest.cautious⟩

theorem careful_issue (requester : Party) (target : Identity) (size : Option UInt32) :
    (desk.issue requester target size).Careful desk.family party False := by
  rw [issue]
  split
  · exact .of_plain (Script.Only.bind (desk.plain_refuse requester _) fun _ => trivial)
  · refine .after (.ask trivial) ?_
    intro drawn
    cases drawn with
    | error error => exact .of_plain trivial
    | ok key =>
        refine .after (.ask trivial) ?_
        intro encoded
        cases encoded with
        | error error => exact .of_plain trivial
        | ok payload =>
            apply careful_stage party target key rfl
            · intro _
              exact Script.Only.bind (desk.plain_refuse requester _) fun _ => trivial
            · intro clear
              exact Script.Only.bind (.ask trivial) fun _ =>
                Script.Only.bind (plain_deliver requester payload) fun _ => trivial

theorem careful_revoke (requester : Party) (target : Identity) :
    (desk.revoke requester target).Careful desk.family party False := by
  refine .after (desk.mild_deleteKey target) ?_
  intro code
  split
  · refine .after (.ask trivial) ?_
    intro seen
    cases seen with
    | some clear => exact .of_plain (Script.Only.bind (desk.plain_respond clear _) fun _ => trivial)
    | none => exact .of_plain trivial
  · exact .of_plain (Script.Only.bind (desk.plain_reply requester _) fun _ => trivial)

theorem mild_setEncrypted (family : Family) (identity : Identity) (entering : Party) :
    (Script.setEncrypted family identity entering).Only Call.IsMild := by
  apply Script.Only.bind (.ask trivial)
  intro secure
  split
  · refine Script.Only.bind (Script.Only.bind (.ask rfl) ?_) fun _ => trivial
    intro held
    split
    · trivial
    · exact .ask ⟨family, identity, entering.id, rfl⟩
  · trivial

theorem careful_serve (requester : Party) (function : KeyFunction) (target : Identity)
    (size : Option UInt32) :
    (desk.serve requester function target size).Careful desk.family party False := by
  refine .after (.ask trivial) ?_
  intro seen
  cases seen with
  | none => exact .of_plain (Script.Only.bind (desk.plain_refuse requester _) fun _ => trivial)
  | some clear =>
      refine .after (.ask trivial) ?_
      intro near
      split
      · refine .after (mild_setEncrypted desk.family target requester) ?_
        intro entered
        cases entered with
        | error error => exact .of_plain trivial
        | ok _ =>
            cases function with
            | new => exact desk.careful_issue party requester target size
            | delete =>
                exact (desk.careful_revoke party requester target).before (fun _ => trivial)
                  fun exposed => exposed.elim
      · exact .of_plain trivial

theorem careful_readRequest (requester : Party) (payload : Bytes) :
    (desk.readRequest requester payload).Careful desk.family party False := by
  have refused (code : Code) : (desk.refuse requester code >>= fun outcome =>
      (pure (.ok outcome) : Script (Except RequestError EncryptedOutcome))).Only Call.IsPlain :=
    Script.Only.bind (desk.plain_refuse requester code) fun _ => trivial
  rw [readRequest]
  split
  · refine .after (.ask trivial) ?_
    intro secure
    split
    · split
      · exact .of_plain (refused _)
      · exact .of_plain (refused _)
      · exact desk.careful_serve party requester _ _ _
    · exact .of_plain trivial
  · exact .of_plain trivial

/-- Handling the request of an encrypted channel exposes no key. -/
theorem careful_handleEncrypted (requester : Party) (payload : Bytes) :
    (desk.handleEncrypted requester payload).Careful desk.family party False := by
  refine (desk.careful_readRequest party requester payload).before ?_ fun exposed => exposed.elim
  intro result
  have finished (outcome : EncryptedOutcome) :
      (do
        if outcome.isFailure then
          ask (.count desk.family .rejected)
        ask (.close requester.handle)
        return outcome : Script EncryptedOutcome).Only Call.IsPlain := by
    dsimp only
    split
    · exact Script.Only.bind (.ask trivial) fun _ =>
        Script.Only.bind (.ask trivial) fun _ => trivial
    · exact Script.Only.bind (.ask trivial) fun _ => trivial
  cases result with
  | ok outcome => exact finished outcome
  | error error => exact Script.Only.bind (desk.plain_refuse requester _) finished

/-- A clear channel that closes between two calls of a handler leaves no key behind, but for one
moment. The close takes away what is there, and an encrypted channel that has staged a key looks
again. An acknowledgement does not: when its channel closes after the staged key was taken out and
before it becomes active, it stays as the active key. -/
theorem keyless_of_interruption_iff (desk : Desk) {gateway : Gateway} {party : Party}
    (channel : gateway.Channel desk.family party) (count : Nat) (payload : Bytes) :
    (∀ requester, ((desk.handleEncrypted requester payload).runClosing count party.handle
      gateway).Keyless party.id) ∧
    (((desk.handleClear party payload).runClosing count party.handle gateway).Keyless party.id ↔
      ∀ key, (desk.handleClear party payload).stopsAt count gateway ≠
        some (.activate party.id key)) ∧
    ∀ key, (desk.handleClear party payload).stopsAt count gateway = some (.activate party.id key) →
      ((desk.handleClear party payload).runClosing count party.handle gateway).active.get?
        party.id = some key := by
  constructor
  · intro requester
    rcases (desk.careful_handleEncrypted party requester payload).cautious.runClosing channel
      count with ⟨gone, -⟩ | ⟨exposed, -⟩
    · exact gone.keyless
    · exact exposed.elim
  · rcases (desk.careful_handleClear party payload).cautious.runClosing channel count with
      ⟨gone, elsewhere⟩ | ⟨-, key, stops, active⟩
    · exact ⟨⟨fun _ => elsewhere party.id, fun _ => gone.keyless⟩,
        fun key stops => absurd stops (elsewhere party.id key)⟩
    · refine ⟨⟨?_, fun elsewhere => absurd stops (elsewhere key)⟩, ?_⟩
      · intro keyless
        rw [keyless.1] at active
        cases active
      · intro other again
        rw [stops] at again
        cases again
        exact active

/-- The channel of the sample run, once a key has been issued to it. -/
theorem channel_sample :
    (Desk.run {} Sample.start (Sample.acts.take 4)).Channel .socket ⟨0, 1⟩ := by
  have waits : (Desk.run {} Sample.start (Sample.acts.take 4)).Waits 0 (.dropKeys 1) := by
    decide +kernel
  have reached := Desk.reached_run {} Sample.start.entropy 30 (Sample.acts.take 4)
  exact reached.channel (by decide) .socket ⟨0, 1⟩ waits

/-- The acknowledgement of the sample run, when its channel closes before the key becomes active. -/
theorem sample_key_outlives_its_channel :
    (Desk.run {} Sample.start (Sample.acts.take 4)).Channel .socket ⟨0, 1⟩ ∧
      ∃ key, (Desk.handleClear {} ⟨0, 1⟩ Sample.ack).stopsAt 3
          (Desk.run {} Sample.start (Sample.acts.take 4)) = some (.activate 1 key) ∧
        ((Desk.handleClear {} ⟨0, 1⟩ Sample.ack).runClosing 3 0
          (Desk.run {} Sample.start (Sample.acts.take 4))).active.get? 1 = some key := by
  obtain ⟨-, keyless_iff, active⟩ := keyless_of_interruption_iff {} channel_sample 3 Sample.ack
  have left : ((Desk.handleClear {} ⟨0, 1⟩ Sample.ack).runClosing 3 0
      (Desk.run {} Sample.start (Sample.acts.take 4))).active.contains 1 = true := by
    decide +kernel
  refine ⟨channel_sample, ?_⟩
  by_contra elsewhere
  have keyless := keyless_iff.2 fun key stops => elsewhere ⟨key, stops, active key stops⟩
  rw [Table.contains, keyless.1] at left
  cases left

/-- A clear channel can close while its acknowledgement is handled and leave its key behind. -/
theorem exists_key_without_channel :
    ∃ gateway count payload, gateway.Channel .socket ⟨0, 1⟩ ∧
      ¬ ((Desk.handleClear {} ⟨0, 1⟩ payload).runClosing count 0 gateway).Keyless 1 := by
  refine ⟨_, 3, Sample.ack, channel_sample, ?_⟩
  intro keyless
  have left : ((Desk.handleClear {} ⟨0, 1⟩ Sample.ack).runClosing 3 0
      (Desk.run {} Sample.start (Sample.acts.take 4))).active.get? 1 = some Sample.key := by
    decide +kernel
  rw [keyless.1] at left
  cases left

end Desk

end PadRelay
