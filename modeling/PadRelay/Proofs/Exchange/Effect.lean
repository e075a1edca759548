import PadRelay.Proofs.Exchange.Answers
import PadRelay.Proofs.Gateway.Slots

/-!
# What handling a message does to the keys

However a handler runs, it moves at most one key, and everything before and after that is drifting.
Its outcome tells which move it was: a failure and an application payload mean that there was none.
-/

namespace PadRelay

namespace Gateway

/-- A staged key becomes the active key of its identity. -/
def promote (gateway : Gateway) (identity : Identity) (staging : Staging) : Gateway :=
  { gateway with
    active := gateway.active.insert identity staging.held.key
    staged := { gateway.staged with
      entries := gateway.staged.entries.erase identity
      retired := gateway.staged.retired.erase identity } }

/-- A key that was drawn from the random source is staged. -/
def stageNew (gateway : Gateway) (identity : Identity) (key : Key) (entropy : Entropy) : Gateway :=
  { gateway with entropy, staged := gateway.staged.put gateway.now identity key }

/-- The active key of an identity is dropped. -/
def deactivate (gateway : Gateway) (identity : Identity) : Gateway :=
  { gateway with active := gateway.active.erase identity }

end Gateway

/-- What handling a message on a clear channel does to the keys. -/
inductive ClearEffect (party : Party) (before : Gateway) : ClearOutcome × Gateway → Prop
  /-- A failure or an application payload: no key moves. -/
  | idle {outcome : ClearOutcome} {after : Gateway}
      (quiet : outcome ≠ .activated ∧ outcome ≠ .deleted) (drifts : before.Drifts after) :
      ClearEffect party before (outcome, after)
  /-- The staged key of the channel, still in time, becomes its active key. -/
  | activated {middle after : Gateway} {staging : Staging} (first : before.Drifts middle)
      (found : middle.staged.entries.get? party.id = some staging)
      (inTime : staging.isLive middle.now = true)
      (last : (middle.promote party.id staging).Drifts after) :
      ClearEffect party before (.activated, after)
  /-- The active key of the channel is dropped. -/
  | deleted {middle after : Gateway} {key : Key} (first : before.Drifts middle)
      (active : middle.active.get? party.id = some key)
      (last : (middle.deactivate party.id).Drifts after) :
      ClearEffect party before (.deleted, after)

/-- What handling the request of an encrypted channel does to the keys. -/
inductive EncryptedEffect (desk : Desk) (payload : Bytes) (before : Gateway) :
    EncryptedOutcome × Gateway → Prop
  | idle {outcome : EncryptedOutcome} {after : Gateway} (failure : outcome.isFailure = true)
      (drifts : before.Drifts after) : EncryptedEffect desk payload before (outcome, after)
  | issued {middle after : Gateway} {target : Identity} {requested : Option UInt32} {size : Nat}
      {key : Key} {entropy : Entropy}
      (asked : desk.codec.decode payload = .ok (.keyRequest (.newKey target requested)))
      (allowed : desk.policy.resolve requested = .ok size) (first : before.Drifts middle)
      (attached : (middle.connectionOf desk.family target .clear).isSome = true)
      (drawn : Key.generate desk.policy size middle.entropy = .ok (key, entropy))
      (last : (middle.stageNew target key entropy).Drifts after) :
      EncryptedEffect desk payload before (.keyIssued, after)
  | deleted {middle after : Gateway} {target : Identity} {requested : Option UInt32} {key : Key}
      (asked : desk.codec.decode payload =
        .ok (.keyRequest ⟨some .delete, some target, requested⟩))
      (first : before.Drifts middle) (active : middle.active.get? target = some key)
      (last : (middle.deactivate target).Drifts after) :
      EncryptedEffect desk payload before (.keyDeleted, after)

/-- What carrying out a request does to the keys, where an error is still to be answered. -/
def RequestEffect (desk : Desk) (payload : Bytes) (before : Gateway) :
    Except RequestError EncryptedOutcome × Gateway → Prop
  | (.ok outcome, after) => EncryptedEffect desk payload before (outcome, after)
  | (.error _, after) => before.Drifts after

namespace ClearEffect

variable {party : Party} {before middle : Gateway}

theorem of_drifts {result : ClearOutcome × Gateway} (drifts : before.Drifts middle)
    (effect : ClearEffect party middle result) : ClearEffect party before result := by
  cases effect with
  | idle quiet rest => exact .idle quiet (drifts.trans rest)
  | activated first found inTime last => exact .activated (drifts.trans first) found inTime last
  | deleted first active last => exact .deleted (drifts.trans first) active last

theorem drifts_after {outcome : ClearOutcome} {after : Gateway}
    (effect : ClearEffect party before (outcome, middle)) (drifts : middle.Drifts after) :
    ClearEffect party before (outcome, after) := by
  cases effect with
  | idle quiet rest => exact .idle quiet (rest.trans drifts)
  | activated first found inTime last => exact .activated first found inTime (last.trans drifts)
  | deleted first active last => exact .deleted first active (last.trans drifts)

theorem bind {α : Type} {script : Script α} {next : α → Script ClearOutcome}
    (plain : script.Only Call.IsPlain)
    (rest : ∀ value middle, ClearEffect party middle ((next value).run middle)) :
    ClearEffect party before ((script >>= next).run before) := by
  rw [Script.run_bind]
  exact of_drifts (Gateway.drifts_run plain before) (rest _ _)

theorem attached {outcome : ClearOutcome} {after : Gateway} {handle : Handle}
    (effect : ClearEffect party before (outcome, after)) (attached : after.IsAttached handle) :
    before.IsAttached handle := by
  cases effect with
  | idle quiet drifts => exact drifts.spares.attached handle attached
  | activated first found inTime last =>
      have moved := last.spares.attached handle attached
      exact first.spares.attached handle ((Gateway.isAttached_congr rfl handle).1 moved)
  | deleted first active last =>
      have moved := last.spares.attached handle attached
      exact first.spares.attached handle ((Gateway.isAttached_congr rfl handle).1 moved)

end ClearEffect

namespace EncryptedEffect

variable {desk : Desk} {payload : Bytes} {before middle : Gateway}

theorem of_drifts {result : EncryptedOutcome × Gateway} (drifts : before.Drifts middle)
    (effect : EncryptedEffect desk payload middle result) :
    EncryptedEffect desk payload before result := by
  cases effect with
  | idle failure rest => exact .idle failure (drifts.trans rest)
  | issued asked allowed first attached drawn last =>
      exact .issued asked allowed (drifts.trans first) attached drawn last
  | deleted asked first active last => exact .deleted asked (drifts.trans first) active last

theorem drifts_after {outcome : EncryptedOutcome} {after : Gateway}
    (effect : EncryptedEffect desk payload before (outcome, middle))
    (drifts : middle.Drifts after) : EncryptedEffect desk payload before (outcome, after) := by
  cases effect with
  | idle failure rest => exact .idle failure (rest.trans drifts)
  | issued asked allowed first attached drawn last =>
      exact .issued asked allowed first attached drawn (last.trans drifts)
  | deleted asked first active last => exact .deleted asked first active (last.trans drifts)

theorem attached {outcome : EncryptedOutcome} {after : Gateway} {handle : Handle}
    (effect : EncryptedEffect desk payload before (outcome, after))
    (attached : after.IsAttached handle) : before.IsAttached handle := by
  cases effect with
  | idle failure drifts => exact drifts.spares.attached handle attached
  | issued asked allowed first found drawn last =>
      have moved := last.spares.attached handle attached
      exact first.spares.attached handle ((Gateway.isAttached_congr rfl handle).1 moved)
  | deleted asked first active last =>
      have moved := last.spares.attached handle attached
      exact first.spares.attached handle ((Gateway.isAttached_congr rfl handle).1 moved)

end EncryptedEffect

theorem RequestEffect.of_drifts {desk : Desk} {payload : Bytes} {before middle : Gateway}
    {result : Except RequestError EncryptedOutcome × Gateway} (drifts : before.Drifts middle)
    (effect : RequestEffect desk payload middle result) :
    RequestEffect desk payload before result := by
  obtain ⟨carried, after⟩ := result
  cases carried with
  | ok outcome => exact EncryptedEffect.of_drifts drifts effect
  | error error => exact drifts.trans effect

namespace Desk

open Script (ask)

section Clear

variable (desk : Desk) (party : Party) (gateway : Gateway)

theorem effect_rejected (message : Message) (code : Code) :
    ClearEffect party gateway
      ((desk.respond party message >>= fun _ => pure (.rejected code)).run gateway) := by
  rw [Script.run_bind, Script.run_pure]
  exact .idle (by simp) (Gateway.drifts_run (desk.plain_respond party message) gateway)

theorem effect_activate (target : Identity) (expected : StagedKey) :
    ClearEffect party gateway ((desk.activate party target expected).run gateway) := by
  rw [activate]
  split
  · exact desk.effect_rejected party gateway _ _
  · rw [Script.run_bind, Script.run_ask]
    simp only [Gateway.perform, Gateway.onStaged_fst, Gateway.onStaged_snd]
    cases took : gateway.staged.takeIf gateway.now party.id expected with
    | mk taken rest =>
        cases taken with
        | none =>
            have same : rest = gateway.staged := StagedKeys.takeIf_eq_none _ _ _ took
            subst same
            exact desk.effect_rejected party gateway _ _
        | some held =>
            obtain ⟨staging, found, inTime, rfl, rfl⟩ := StagedKeys.takeIf_eq_some _ _ _ took
            have answered : (ask (.count desk.family .activated) >>= fun _ =>
                desk.respond party (.ackOutcome .ok)).Only Call.IsPlain :=
              Script.Only.bind (.ask trivial) fun _ => desk.plain_respond party _
            have drifts := Gateway.drifts_run answered (gateway.promote party.id staging)
            exact .activated (.refl gateway) found inTime drifts

/-- Dropping a key that is there succeeds, and dropping one that is not there changes nothing. -/
theorem deleteKey_cases (identity : Identity) :
    (∃ key, gateway.active.get? identity = some key ∧
        (desk.deleteKey identity).run gateway =
          (.ok, (gateway.deactivate identity).count desk.family .deleted)) ∨
      ∃ code : Code, code.isOk = false ∧
        (desk.deleteKey identity).run gateway = (code, gateway) := by
  rw [deleteKey]
  rw [Script.run_bind, Script.run_ask]
  cases active : gateway.active.get? identity with
  | some key =>
      refine .inl ⟨key, rfl, ?_⟩
      simp only [Gateway.perform, active]
      rfl
  | none =>
      have same : gateway.active.erase identity = gateway.active :=
        Table.erase_of_get?_eq_none _ active
      refine .inr ⟨(ChannelError.noActiveKey identity).code, rfl, ?_⟩
      simp only [Gateway.perform, active, same]
      rfl

theorem effect_clearRequest (request : KeyRequest) :
    ClearEffect party gateway ((desk.clearRequest party request).run gateway) := by
  rw [clearRequest]
  split
  · split
    · exact desk.effect_rejected party gateway _ _
    · rw [Script.run_bind]
      rcases desk.deleteKey_cases gateway party.id with ⟨key, active, ran⟩ | ⟨code, failed, ran⟩
      · rw [ran]
        have counted : (gateway.deactivate party.id).Drifts
            ((gateway.deactivate party.id).count desk.family .deleted) :=
          .single (.count desk.family .deleted)
        have told := Gateway.drifts_run (desk.plain_respond party (.deleteOutcome .ok))
          ((gateway.deactivate party.id).count desk.family .deleted)
        exact .deleted (.refl gateway) active (counted.trans told)
      · rw [ran]
        simp only [failed, Bool.false_eq_true, if_false]
        exact desk.effect_rejected party gateway _ _
  · exact desk.effect_rejected party gateway _ _
  · exact desk.effect_rejected party gateway _ _

theorem effect_readPlain (payload : Bytes) :
    ClearEffect party gateway ((desk.readPlain party payload).run gateway) := by
  rw [readPlain]
  split
  · exact desk.effect_clearRequest party gateway _
  · exact desk.effect_rejected party gateway _ _
  · exact desk.effect_rejected party gateway _ _
  · split
    · exact desk.effect_rejected party gateway _ _
    · exact .idle (by simp) (.refl gateway)

theorem effect_readActive (payload : Bytes) :
    ClearEffect party gateway ((desk.readActive party payload).run gateway) := by
  refine ClearEffect.bind (.ask trivial) ?_
  intro key middle
  cases key with
  | some key =>
      exact ClearEffect.bind (desk.plain_openWith key payload) fun plain middle =>
        desk.effect_readPlain party middle plain
  | none => exact desk.effect_readPlain party middle payload

theorem effect_readRetired (payload : Bytes) :
    ClearEffect party gateway ((desk.readRetired party payload).run gateway) := by
  refine ClearEffect.bind (.ask trivial) ?_
  intro key middle
  cases key with
  | some key =>
      apply ClearEffect.bind (desk.plain_openWith key payload)
      intro plain middle
      split
      · exact desk.effect_rejected party middle _ _
      · exact desk.effect_readActive party middle payload
  | none => exact desk.effect_readActive party middle payload

theorem effect_readStaged (payload : Bytes) :
    ClearEffect party gateway ((desk.readStaged party payload).run gateway) := by
  refine ClearEffect.bind (.ask trivial) ?_
  intro held middle
  cases held with
  | some held =>
      apply ClearEffect.bind (desk.plain_openWith held.key payload)
      intro plain middle
      split
      · exact desk.effect_activate party middle _ held
      · exact ClearEffect.bind (.ask trivial) fun _ middle =>
          desk.effect_readRetired party middle payload
  | none => exact desk.effect_readRetired party middle payload

/-- Handling a message on a clear channel moves at most one key, one of that channel. -/
theorem effect_handleClear (payload : Bytes) :
    ClearEffect party gateway ((desk.handleClear party payload).run gateway) := by
  have read := desk.effect_readStaged party gateway payload
  rw [handleClear]
  rw [Script.run_bind]
  split
  · rw [Script.run_bind, Script.run_ask, Script.run_pure]
    exact read.drifts_after (.single (.count desk.family .rejected))
  · exact read

end Clear

section Encrypted

variable (desk : Desk) (party : Party) (payload : Bytes) (gateway : Gateway)

theorem effect_refuse (code : Code) :
    EncryptedEffect desk payload gateway ((desk.refuse party code).run gateway) := by
  rw [refuse]
  rw [Script.run_bind, Script.run_pure]
  exact .idle rfl (Gateway.drifts_run (desk.plain_reply party _) gateway)

/-- A request for a new key ends with the key staged, unless its size is refused: the clear channel
of its target is still open when it is looked at again. -/
theorem effect_issue {target : Identity} {requested : Option UInt32} {clear : Party}
    (asked : desk.codec.decode payload = .ok (.keyRequest (.newKey target requested)))
    (found : gateway.connectionOf desk.family target .clear = some clear) :
    RequestEffect desk payload gateway ((desk.issue party target requested).run gateway) := by
  rw [issue]
  cases allowed : desk.policy.resolve requested with
  | error error =>
      simp only [Script.run_bind, Script.run_pure]
      exact desk.effect_refuse party payload gateway _
  | ok size =>
      simp only []
      rw [Script.run_bind, Script.run_ask]
      simp only [Gateway.perform]
      cases drawn : Key.generate desk.policy size gateway.entropy with
      | error error => exact Gateway.Drifts.refl gateway
      | ok result =>
          obtain ⟨key, entropy⟩ := result
          have still : (gateway.stageNew target key entropy).connectionOf desk.family target
              .clear = some clear := found
          have told : (ask (.count desk.family .issued) >>= fun _ =>
              deliver party (desk.codec.encode (.keyResponse (.issued key.bytes)))).Only
                Call.IsPlain :=
            Script.Only.bind (.ask trivial) fun _ => plain_deliver party _
          have last := Gateway.drifts_run told (gateway.stageNew target key entropy)
          simp only [Script.run_bind, Script.ask, Script.run_call, Script.run_done,
            Gateway.perform]
          split
          · next gone => exact absurd (still.symm.trans gone) (by simp)
          · simp only [Script.run_bind, Script.run_pure]
            have attached : (gateway.connectionOf desk.family target .clear).isSome = true := by
              rw [found]
              rfl
            exact EncryptedEffect.issued asked allowed (.refl gateway) attached drawn last

theorem effect_revoke {target : Identity} {requested : Option UInt32}
    (asked : desk.codec.decode payload =
      .ok (.keyRequest ⟨some .delete, some target, requested⟩)) :
    EncryptedEffect desk payload gateway ((desk.revoke party target).run gateway) := by
  rw [revoke]
  rw [Script.run_bind]
  rcases desk.deleteKey_cases gateway target with ⟨key, active, ran⟩ | ⟨code, failed, ran⟩
  · rw [ran]
    have counted : (gateway.deactivate target).Drifts
        ((gateway.deactivate target).count desk.family .deleted) :=
      .single (.count desk.family .deleted)
    have moved : EncryptedEffect desk payload gateway
        (.keyDeleted, (gateway.deactivate target).count desk.family .deleted) :=
      .deleted asked (.refl gateway) active counted
    have succeeds : Code.ok.isOk = true := rfl
    simp only [succeeds, if_true]
    rw [Script.run_bind, Script.run_ask]
    split
    · next clear _ =>
        rw [Script.run_bind, Script.run_pure]
        exact moved.drifts_after (Gateway.drifts_run (desk.plain_respond clear _) _)
    · exact moved
  · rw [ran]
    simp only [failed, Bool.false_eq_true, if_false, Script.run_bind, Script.run_pure]
    exact .idle rfl (Gateway.drifts_run (desk.plain_reply party _) gateway)

theorem effect_serve {function : KeyFunction} {target : Identity} {requested : Option UInt32}
    (known : gateway.Knows party)
    (asked : desk.codec.decode payload =
      .ok (.keyRequest ⟨some function, some target, requested⟩)) :
    RequestEffect desk payload gateway
      ((desk.serve party function target requested).run gateway) := by
  unfold serve
  rw [Script.run_bind, Script.run_ask]
  simp only [Gateway.perform]
  cases found : gateway.connectionOf desk.family target .clear with
  | none =>
      simp only [Script.run_bind, Script.run_pure]
      exact desk.effect_refuse party payload gateway _
  | some clear =>
      simp only []
      rw [Script.run_bind, Script.run_ask]
      split
      · rw [Script.run_bind]
        rcases Gateway.setEncrypted_cases gateway desk.family target party with
          ⟨error, ran⟩ | ran
        · simp only [Gateway.perform, ran]
          exact Gateway.Drifts.refl gateway
        · simp only [Gateway.perform, ran]
          have entered : gateway.Drifts
              ((Script.occupy desk.family target .encrypted party).run gateway).2 :=
            .single (.occupy desk.family target known)
          have still := Gateway.connectionOf_occupy_of_ne gateway desk.family desk.family target
            .encrypted .clear party target Role.noConfusion
          cases function with
          | new =>
              have issued := desk.effect_issue party payload _ asked (still.trans found)
              exact issued.of_drifts entered
          | delete =>
              simp only [Script.run_bind, Script.run_pure]
              exact (desk.effect_revoke party payload _ asked).of_drifts entered
      · exact EncryptedEffect.idle rfl (.refl gateway)

theorem effect_readRequest (known : gateway.Knows party) :
    RequestEffect desk payload gateway ((desk.readRequest party payload).run gateway) := by
  rw [readRequest]
  split
  · next request asked =>
      rw [Script.run_bind, Script.run_ask]
      split
      · obtain ⟨function, target, requested⟩ := request
        simp only
        split
        · simp only [Script.run_bind, Script.run_pure]
          exact desk.effect_refuse party payload gateway _
        · simp only [Script.run_bind, Script.run_pure]
          exact desk.effect_refuse party payload gateway _
        · exact desk.effect_serve party payload gateway known asked
      · exact EncryptedEffect.idle rfl (.refl gateway)
  · exact EncryptedEffect.idle rfl (.refl gateway)

/-- Counting a failure and closing the channel belong to the effect. -/
theorem effect_finish {outcome : EncryptedOutcome} {middle : Gateway}
    (effect : EncryptedEffect desk payload gateway (outcome, middle)) :
    EncryptedEffect desk payload gateway
      ((do
        if outcome.isFailure then
          ask (.count desk.family .rejected)
        ask (.close party.handle)
        return outcome : Script EncryptedOutcome).run middle) := by
  have closed (state : Gateway) : state.Drifts (state.close party.handle) :=
    .single (.close party.handle)
  dsimp only
  split
  · have counted : middle.Drifts (middle.count desk.family .rejected) :=
      .single (.count desk.family .rejected)
    exact (effect.drifts_after counted).drifts_after (closed _)
  · exact effect.drifts_after (closed middle)

/-- Handling the request of an encrypted channel moves at most one key, one of the target of the
request. -/
theorem effect_handleEncrypted (known : gateway.Knows party) :
    EncryptedEffect desk payload gateway ((desk.handleEncrypted party payload).run gateway) := by
  have read := desk.effect_readRequest party payload gateway known
  rw [handleEncrypted]
  rw [Script.run_bind]
  generalize (desk.readRequest party payload).run gateway = result at read
  obtain ⟨carried, middle⟩ := result
  cases carried with
  | ok outcome => exact desk.effect_finish party payload gateway read
  | error error =>
      have refused := (desk.effect_refuse party payload middle error.code).of_drifts read
      dsimp only
      rw [Script.run_bind]
      exact desk.effect_finish party payload gateway refused

end Encrypted

end Desk

end PadRelay
