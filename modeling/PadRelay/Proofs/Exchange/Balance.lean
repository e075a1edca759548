import PadRelay.Proofs.Exchange.Calls
import PadRelay.Proofs.Exchange.Effect
import PadRelay.Proofs.Gateway.Balance
import PadRelay.Proofs.Gateway.Occurrence

/-!
# The exchange of keys balances

A handler works on behalf of one family. What it activates was staged and is counted at the home of
its identity, what it stages it issues there or takes back, and it counts nothing of the other
family.
-/

namespace PadRelay

namespace Gateway

theorem homed_fresh (entropy : Entropy) (expiry : Nat) {home : Identity → Family} :
    (fresh entropy expiry).Homed home := by
  intro family identity party found
  cases family <;> cases found

variable (gateway : Gateway) (occurrence : Occurrence)

/-- The identities whose keys expire when something happens around the handlers: a timer looks at
the staging for which it was set. -/
def lapsingIn : Occurrence → List Identity
  | .rings identity generation =>
      if gateway.staged.stages identity generation then gateway.lapsing identity else []
  | _ => []

theorem Balances.undergo {home : Identity → Family} :
    gateway.Balances home (gateway.lapsingIn occurrence) (gateway.undergo occurrence) := by
  cases occurrence with
  | opens id secure remote outlet => exact .of_layers rfl fun family => by cases family <;> rfl
  | outlet handle outlet => exact .of_layers rfl fun family => by cases family <;> rfl
  | passes duration => exact .of_layers rfl fun family => by cases family <;> rfl
  | closes handle => exact .close gateway handle
  | rings identity generation => exact .ring gateway identity generation

theorem tally_undergo (family : Family) :
    (gateway.undergo occurrence).tally family = gateway.tally family := by
  cases occurrence with
  | closes handle => exact gateway.tally_close family handle
  | _ => cases family <;> rfl

theorem tally_dropState (family other : Family) :
    (gateway.dropState family).tally other = gateway.tally other := by
  cases family <;> cases other <;> rfl

end Gateway

namespace Desk

open Script (ask)

variable {home : Identity → Family} (desk : Desk) (party : Party) (gateway : Gateway)
  (payload : Bytes)

theorem ReadCall.isSteady {desk : Desk} {party : Party} {request : Call}
    (call : desk.ReadCall party request) : request.IsSteady home desk.family := by
  cases call with
  | decrypted => exact ⟨rfl, Event.noConfusion, Event.noConfusion⟩
  | deleted => exact ⟨rfl, Event.noConfusion, Event.noConfusion⟩
  | sealFor plain => rfl
  | _ => trivial

theorem steady_readCalls {α : Type} {script : Script α}
    (reads : script.Only (desk.ReadCall party)) : script.Only (Call.IsSteady home desk.family) :=
  reads.mono fun _ => ReadCall.isSteady

theorem balances_activate (own : home party.id = desk.family) (target : Identity)
    (expected : StagedKey) :
    gateway.Balances home [] ((desk.activate party target expected).run gateway).2 := by
  have rejected (state : Gateway) (code : Code) :
      state.Balances home [] ((desk.rejectAck party code).run state).2 :=
    .run state (desk.steady_readCalls party (desk.readCalls_rejectAck party code))
  rw [activate]
  split
  · exact rejected gateway _
  · rw [Script.run_bind, Script.run_ask]
    simp only [Gateway.perform, Gateway.onStaged_fst, Gateway.onStaged_snd]
    cases took : gateway.staged.takeIf gateway.now party.id expected with
    | mk taken rest =>
        cases taken with
        | none =>
            have same : rest = gateway.staged := StagedKeys.takeIf_eq_none _ _ _ took
            subst same
            exact rejected gateway _
        | some held =>
            obtain ⟨staging, found, -, rfl, rfl⟩ := StagedKeys.takeIf_eq_some _ _ _ took
            have moved : gateway.Balances home []
                ((gateway.promote party.id staging).count desk.family .activated) := by
              refine .activated found ?_ ?_ (fun family => ?_) fun family => ?_
              · simp [Gateway.count, Gateway.promote]
              · simp [Gateway.count, Gateway.promote]
              · rw [Gateway.tally_count, own]
                cases family <;> rfl
              · rw [Gateway.count, Gateway.layer_modifyLayer]
                split <;> cases family <;> rfl
            have told (state : Gateway) :
                state.Balances home [] ((desk.respond party (.ackOutcome .ok)).run state).2 :=
              .run state (desk.steady_readCalls party (desk.readCalls_respond party rfl))
            exact moved.trans (told _)

theorem steady_openWith (key : Key) :
    (desk.openWith key payload).Only (Call.IsSteady home desk.family) :=
  Script.Only.bind (.ask ⟨rfl, Event.noConfusion, Event.noConfusion⟩) fun _ => trivial

theorem steady_readRetired :
    (desk.readRetired party payload).Only (Call.IsSteady home desk.family) := by
  have active : (desk.readActive party payload).Only (Call.IsSteady home desk.family) :=
    desk.steady_readCalls party (desk.readCalls_readActive party payload)
  refine Script.Only.bind (.ask trivial) fun key => ?_
  cases key with
  | some key =>
      refine Script.Only.bind (desk.steady_openWith payload key) fun plain => ?_
      split
      · exact desk.steady_readCalls party (desk.readCalls_rejectAck party _)
      · exact active
  | none => exact active

/-- Reading a message lets the staged key of its channel expire, if that is overdue. -/
theorem balances_readStaged (own : home party.id = desk.family) :
    gateway.Balances home (gateway.lapsing party.id)
      ((desk.readStaged party payload).run gateway).2 := by
  have looked : gateway.Balances home (gateway.lapsing party.id)
      (gateway.perform (.staged party.id)).2 := by
    simp only [Gateway.perform, Gateway.stagedKey, Gateway.onStaged_snd, StagedKeys.get_snd]
    exact .look gateway party.id
  rw [readStaged, Script.run_bind, Script.run_ask]
  refine looked.calm ?_
  generalize (gateway.perform (.staged party.id)).2 = middle
  split
  · next staged _ =>
      rw [Script.run_bind]
      refine (Gateway.Balances.run middle (desk.steady_openWith payload staged.key)).calm ?_
      split
      · exact desk.balances_activate party _ own _ staged
      · rw [Script.run_bind, Script.run_ask]
        exact (Gateway.Balances.count _ _ ⟨Event.noConfusion, Event.noConfusion⟩).calm
          (.run _ (desk.steady_readRetired party payload))
  · exact .run middle (desk.steady_readRetired party payload)

theorem balances_handleClear (own : home party.id = desk.family) :
    gateway.Balances home (gateway.lapsing party.id)
      ((desk.handleClear party payload).run gateway).2 := by
  have read := desk.balances_readStaged party gateway payload own
  rw [handleClear, Script.run_bind]
  split
  · rw [Script.run_bind, Script.run_ask]
    exact read.calm (.count _ _ ⟨Event.noConfusion, Event.noConfusion⟩)
  · exact read

theorem steady_reply (message : Message) :
    (desk.reply party message).Only (Call.IsSteady home desk.family) := by
  refine Script.Only.bind (.ask trivial) fun encoded => ?_
  cases encoded with
  | ok payload => exact Script.Only.bind (.ask trivial) fun _ => trivial
  | error error => trivial

theorem steady_respond {message : Message} (keyless : message.key? = none) :
    (desk.respond party message).Only (Call.IsSteady home desk.family) :=
  desk.steady_readCalls party (desk.readCalls_respond party keyless)

theorem steady_refuse (code : Code) :
    (desk.refuse party code).Only (Call.IsSteady home desk.family) :=
  Script.Only.bind (desk.steady_reply party _) fun _ => trivial

theorem steady_occupy {identity : Identity} {role : Role}
    (own : role = .clear → home identity = desk.family) :
    (Script.occupy desk.family identity role party).Only (Call.IsSteady home desk.family) := by
  refine Script.Only.bind (.ask own) fun held => ?_
  split
  · trivial
  · exact .ask trivial

theorem steady_attach (own : home party.id = desk.family) :
    (desk.attach party).Only (Call.IsSteady home desk.family) :=
  Script.Only.bind (desk.steady_occupy party fun _ => own) fun _ =>
    Script.Only.bind (.ask trivial) fun _ => desk.steady_reply party _

theorem steady_setEncrypted (identity : Identity) :
    (Script.setEncrypted desk.family identity party).Only (Call.IsSteady home desk.family) := by
  refine Script.Only.bind (.ask trivial) fun secure => ?_
  split
  · exact Script.Only.bind (desk.steady_occupy party Role.noConfusion) fun _ => trivial
  · trivial

theorem steady_deleteKey (identity : Identity) :
    (desk.deleteKey identity).Only (Call.IsSteady home desk.family) := by
  refine Script.Only.bind (.ask trivial) fun key => ?_
  cases key with
  | some key =>
      exact Script.Only.bind (.ask ⟨rfl, Event.noConfusion, Event.noConfusion⟩) fun _ => trivial
  | none => trivial

theorem steady_revoke (target : Identity) :
    (desk.revoke party target).Only (Call.IsSteady home desk.family) := by
  refine Script.Only.bind (desk.steady_deleteKey target) fun code => ?_
  split
  · refine Script.Only.bind (.ask trivial) fun clear => ?_
    cases clear with
    | some clear =>
        have keyless : (Message.deleteOutcome .ok).key? = none := rfl
        exact Script.Only.bind (desk.steady_respond clear keyless) fun _ => trivial
    | none => trivial
  · exact Script.Only.bind (desk.steady_reply party _) fun _ => trivial

/-- A key is staged only for an identity with an open clear channel, so it is counted at its home;
otherwise it is taken back. -/
theorem balances_issue (homed : gateway.Homed home) (target : Identity) (size : Option UInt32) :
    gateway.Balances home [] ((desk.issue party target size).run gateway).2 := by
  have refused (state : Gateway) (code : Code) :
      state.Balances home [] ((desk.refuse party code).run state).2 :=
    .run state (desk.steady_refuse party code)
  rw [issue]
  split
  · rw [Script.run_bind]
    exact refused gateway _
  · next size _ =>
      rw [Script.run_bind, Script.run_ask]
      have steady : (Call.generate desk.policy size).IsSteady home desk.family := trivial
      have drawn : gateway.Balances home [] (gateway.perform (.generate desk.policy size)).2 :=
        .perform gateway steady
      have still := drawn.homed homed
      refine drawn.calm ?_
      generalize (gateway.perform (.generate desk.policy size)).2 = middle at still
      split
      · exact .refl middle
      · next key _ =>
          rw [Script.run_bind, Script.run_ask]
          split
          · exact .refl middle
          · next payload _ =>
              rw [Script.run_bind, Script.run_ask, Script.run_bind, Script.run_ask]
              split
              · rw [Script.run_bind, Script.run_ask, Script.run_bind]
                exact (Gateway.Balances.unstage_stage middle target key).calm (refused _ _)
              · next clear found =>
                  rw [Script.run_bind, Script.run_ask, Script.run_bind, Script.run_pure]
                  have own : home target = desk.family := still.of_connectionOf found
                  have delivered : (deliver party payload).Only (Call.IsSteady home desk.family) :=
                    Script.Only.bind (.ask trivial) fun _ => trivial
                  exact (Gateway.Balances.count_stage middle own key).calm (.run _ delivered)

theorem balances_serve (homed : gateway.Homed home) (function : KeyFunction) (target : Identity)
    (size : Option UInt32) :
    gateway.Balances home [] ((desk.serve party function target size).run gateway).2 := by
  unfold serve
  rw [Script.run_bind, Script.run_ask]
  split
  · rw [Script.run_bind]
    exact .run gateway (desk.steady_refuse party _)
  · rw [Script.run_bind, Script.run_ask]
    split
    · rw [Script.run_bind]
      have entered : gateway.Balances home []
          ((Script.setEncrypted desk.family target party).run gateway).2 :=
        .run gateway (desk.steady_setEncrypted party target)
      refine entered.calm ?_
      have still := entered.homed homed
      split
      · exact .refl _
      · cases function with
        | new => exact desk.balances_issue party _ still target size
        | delete =>
            rw [Script.run_bind]
            exact .run _ (desk.steady_revoke party target)
    · exact .refl gateway

theorem balances_readRequest (homed : gateway.Homed home) :
    gateway.Balances home [] ((desk.readRequest party payload).run gateway).2 := by
  have refused (code : Code) :
      gateway.Balances home [] ((desk.refuse party code).run gateway).2 :=
    .run gateway (desk.steady_refuse party code)
  rw [readRequest]
  split
  · rw [Script.run_bind, Script.run_ask]
    split
    · split
      · rw [Script.run_bind]
        exact refused _
      · rw [Script.run_bind]
        exact refused _
      · exact desk.balances_serve party gateway homed _ _ _
    · exact .refl gateway
  · exact .refl gateway

theorem steady_finish (outcome : EncryptedOutcome) :
    (desk.finish party outcome).Only (Call.IsSteady home desk.family) := by
  rw [finish]
  split
  · exact Script.Only.bind (.ask ⟨rfl, Event.noConfusion, Event.noConfusion⟩) fun _ =>
      Script.Only.bind (.ask trivial) fun _ => trivial
  · exact Script.Only.bind (.ask trivial) fun _ => trivial

theorem balances_handleEncrypted (homed : gateway.Homed home) :
    gateway.Balances home [] ((desk.handleEncrypted party payload).run gateway).2 := by
  have read := desk.balances_readRequest party gateway payload homed
  rw [handleEncrypted_eq, Script.run_bind]
  refine .calm ?_ (.run _ (desk.steady_finish party _))
  rw [attempt, Script.run_bind]
  refine read.calm ?_
  split
  · exact .refl _
  · exact .run _ (desk.steady_refuse party _)

theorem ClearCall.countsNothing {desk : Desk} {party : Party} {request : Call}
    (call : desk.ClearCall party request) {family : Family} (different : family ≠ desk.family) :
    request.CountsNothing family := by
  intro event counts
  cases call with
  | count => exact different counts.1.symm
  | sealFor => exact different counts.1.symm
  | _ => exact counts

theorem RequestCall.countsNothing {desk : Desk} {party : Party} {payload : Bytes} {request : Call}
    (call : desk.RequestCall party payload request) {family : Family}
    (different : family ≠ desk.family) : request.CountsNothing family := by
  intro event counts
  cases call with
  | count => exact different counts.1.symm
  | sealFor => exact different counts.1.symm
  | _ => exact counts

theorem countsNothing_handleClear {family : Family} (different : family ≠ desk.family) :
    (desk.handleClear party payload).Only (Call.CountsNothing family) :=
  (desk.clearCalls_handleClear party payload).mono fun _ call => call.countsNothing different

theorem countsNothing_handleEncrypted {family : Family} (different : family ≠ desk.family) :
    (desk.handleEncrypted party payload).Only (Call.CountsNothing family) := by
  rw [handleEncrypted_eq]
  refine Script.Only.bind ((desk.requestCalls_attempt party payload).mono fun _ call =>
    call.countsNothing different) fun outcome => ?_
  exact (desk.steady_finish party outcome).countsNothing different

end Desk

end PadRelay
