import PadRelay.Proofs.Relay.Audience
import PadRelay.Proofs.Relay.Delivery

/-!
# What clients say to each other

What belongs to the application is read without moving a key, and goes to everyone who hears the
speaker. Each gets one copy, sealed with its own active key, whatever becomes of the others.
-/

namespace PadRelay

theorem Client.openBytes_wrap {client : Client} {stock : Stock}
    (same : client.active = stock.active) (payload : Bytes) :
    client.openBytes (stock.wrap payload) = payload := by
  have alike (bytes : Bytes) : client.openBytes bytes = stock.wrap bytes := by
    rw [openBytes, sealBytes_eq_wrap, Stock.wrap, Stock.wrap, ← same]
    rfl
  rw [alike, Stock.wrap_wrap]

namespace Desk

open Script (ask)

/-- If a payload turns out to belong to the application, reading it was no more than a glance. -/
def Overhears (before : Gateway) (result : ClearOutcome × Gateway) : Prop :=
  ∀ plain, result.1 = .application plain → before.Glances result.2

namespace Overhears

variable {before middle : Gateway}

theorem of_ne {result : ClearOutcome × Gateway} (other : ∀ plain, result.1 ≠ .application plain) :
    Overhears before result := fun plain said => absurd said (other plain)

theorem bind {α : Type} {script : Script α} {next : α → Script ClearOutcome}
    (first : before.Glances (script.run before).2)
    (rest : ∀ value middle, Overhears middle ((next value).run middle)) :
    Overhears before ((script >>= next).run before) := by
  rw [Script.run_bind]
  exact fun plain said => first.trans (rest _ _ plain said)

end Overhears

variable (desk : Desk) (party : Party) (gateway : Gateway)

theorem overhears_rejected (message : Message) (code : Code) :
    Overhears gateway ((do
      desk.respond party message
      return .rejected code : Script ClearOutcome).run gateway) :=
  .of_ne fun _ => ClearOutcome.noConfusion

theorem overhears_activate (target : Identity) (expected : StagedKey) :
    Overhears gateway ((desk.activate party target expected).run gateway) := by
  refine .of_ne fun plain => ?_
  rw [activate]
  split
  · exact ClearOutcome.noConfusion
  · rw [Script.run_bind, Script.run_ask]
    split <;> exact ClearOutcome.noConfusion

theorem overhears_clearRequest (request : KeyRequest) :
    Overhears gateway ((desk.clearRequest party request).run gateway) := by
  refine .of_ne fun plain => ?_
  rw [outcome_clearRequest]
  repeat' split
  all_goals exact ClearOutcome.noConfusion

theorem overhears_readPlain (payload : Bytes) :
    Overhears gateway ((desk.readPlain party payload).run gateway) := by
  rw [readPlain]
  split
  · exact desk.overhears_clearRequest party gateway _
  · exact desk.overhears_rejected party gateway _ _
  · exact desk.overhears_rejected party gateway _ _
  · split
    · exact desk.overhears_rejected party gateway _ _
    · exact fun _ _ => .refl gateway

theorem glances_openWith (key : Key) (payload : Bytes) :
    gateway.Glances ((desk.openWith key payload).run gateway).2 :=
  .count gateway desk.family .decrypted

theorem overhears_readActive (payload : Bytes) :
    Overhears gateway ((desk.readActive party payload).run gateway) := by
  refine .bind (.refl gateway) fun key middle => ?_
  cases key with
  | none => exact desk.overhears_readPlain party middle payload
  | some key =>
      exact .bind (desk.glances_openWith middle key payload) fun plain last =>
        desk.overhears_readPlain party last plain

theorem overhears_readRetired (payload : Bytes) :
    Overhears gateway ((desk.readRetired party payload).run gateway) := by
  refine .bind (.refl gateway) fun key middle => ?_
  cases key with
  | none => exact desk.overhears_readActive party middle payload
  | some key =>
      refine .bind (desk.glances_openWith middle key payload) fun plain last => ?_
      split
      · exact desk.overhears_rejected party last _ _
      · exact desk.overhears_readActive party last payload

theorem overhears_readStaged (payload : Bytes) :
    Overhears gateway ((desk.readStaged party payload).run gateway) := by
  have looked : gateway.Glances ((ask (.staged party.id)).run gateway).2 := by
    change gateway.Glances (gateway.stagedKey party.id).2
    rw [Gateway.stagedKey, Gateway.onStaged_snd, StagedKeys.get_snd]
    exact .look gateway party.id
  refine .bind looked fun held middle => ?_
  cases held with
  | none => exact desk.overhears_readRetired party middle payload
  | some held =>
      refine .bind (desk.glances_openWith middle held.key payload) fun plain last => ?_
      split
      · exact desk.overhears_activate party last _ held
      · exact .bind (.count last desk.family .ambiguous) fun _ final =>
          desk.overhears_readRetired party final payload

/-- Handling what belongs to the application is no more than a glance. -/
theorem overhears_handleClear (payload : Bytes) :
    Overhears gateway ((desk.handleClear party payload).run gateway) := by
  have read := desk.overhears_readStaged party gateway payload
  intro plain said
  rw [handleClear, Script.run_bind] at said ⊢
  generalize (desk.readStaged party payload).run gateway = result at read said ⊢
  obtain ⟨outcome, after⟩ := result
  cases outcome with
  | application opened => exact read opened rfl
  | _ => cases said

variable {desk gateway party}

/-- What a channel says to the application is recognised as such, if it is sealed with the active
key and reads as no acknowledgement. -/
theorem said_of_isForeign {plain : Bytes} (foreign : desk.codec.IsForeign plain)
    (unstaged : desk.ackUnder? (gateway.keyRing party.id).staged
      ((gateway.stock party.id).wrap plain) = none)
    (unretired : desk.ackUnder? (gateway.keyRing party.id).retired
      ((gateway.stock party.id).wrap plain) = none) :
    ((desk.handleClear party ((gateway.stock party.id).wrap plain)).run gateway).1 =
      .application plain := by
  have unsealed : (gateway.keyRing party.id).unseal ((gateway.stock party.id).wrap plain) = plain :=
    (gateway.stock party.id).wrap_wrap plain
  rw [outcome_handleClear, verdict_of_unread unstaged unretired, unsealed]
  exact plainVerdict_of_isForeign foreign _

theorem delivered_receive (sound : gateway.Sound [] none)
    (sealed : (gateway.layer desk.family).dressing = .sealed)
    (indexed : (gateway.layer desk.family).directory.Indexed) {payload plain : Bytes}
    (said : ((desk.handleClear party payload).run gateway).1 = .application plain) :
    ((desk.receive party payload).run gateway).1 = .application plain ∧
      gateway.Delivered
        (· ∈ (gateway.layer desk.family).directory.audience everyone [.identity party.id]) plain
        ((desk.receive party payload).run gateway).2 := by
  have glances := desk.overhears_handleClear party gateway payload plain said
  have sound_after := sound.handleClear desk party payload
  rw [receive, Script.run_bind, said]
  dsimp only
  rw [Script.run_bind, Script.run_pure]
  refine ⟨rfl, .of_glances glances ?_⟩
  generalize ((desk.handleClear party payload).run gateway).2 = after at glances sound_after ⊢
  have broadcast := desk.delivered_broadcast sound_after
    ((glances.dressing desk.family).trans sealed) (glances.directory desk.family ▸ indexed) everyone
    [.identity party.id] plain
  rwa [glances.directory] at broadcast

end Desk

/-- A payload has been relayed to its recipients and to nobody else. -/
structure Relayed (before : Gateway) (recipient : Party → Prop) (plain : Bytes)
    (after : Gateway) : Prop where
  /-- A recipient whose connection accepts the payload, sealed with the recipient's own active key,
  has got just that in addition, and is still open. -/
  taken : ∀ party, recipient party →
    (before.send party.handle ((before.stock party.id).wrap plain)).1 = true →
      after.contents party.handle =
          before.contents party.handle ++ [(before.stock party.id).wrap plain] ∧
        after.isOpen party.handle = true
  /-- A recipient whose connection does not accept it has got nothing. -/
  refused : ∀ party, recipient party →
    (before.send party.handle ((before.stock party.id).wrap plain)).1 = false →
      after.contents party.handle = before.contents party.handle
  /-- A client that holds the active key of a recipient opens its copy to the payload. -/
  opened : ∀ party, recipient party → ∀ client : Client,
    client.active = (before.stock party.id).active →
      client.openBytes ((before.stock party.id).wrap plain) = plain
  /-- All other connections are as they were. -/
  passed : ∀ handle, (∀ party, recipient party → party.handle ≠ handle) →
    after.mouthOf? handle = before.mouthOf? handle
  /-- No active key and no staged key in time has changed but those of a recipient that was closed
  by its copy. -/
  spared : ∀ identity, after.holding identity = before.holding identity ∨
    ∃ party, recipient party ∧ party.id = identity ∧ before.isOpen party.handle = true ∧
      after.isOpen party.handle = false

theorem Gateway.Delivered.relayed {before after : Gateway} {recipient : Party → Prop}
    {plain : Bytes} (delivered : before.Delivered recipient plain after) :
    Relayed before recipient plain after where
  taken party chosen accepts := by
    rw [Gateway.send_fst, Option.any_eq_true] at accepts
    obtain ⟨mouth, found, taking⟩ := accepts
    obtain ⟨contents, isOpen⟩ := Mouth.push_of_takes ((before.stock party.id).wrap plain) taking
    have reached := delivered.reached party chosen
    rw [found, Option.map_some] at reached
    simp only [Gateway.contents, Gateway.isOpen_eq_mouthOf?, reached, found, Option.elim_some,
      Option.any_some]
    exact ⟨contents, isOpen⟩
  refused party chosen refuses := by
    have reached := delivered.reached party chosen
    rw [Gateway.send_fst] at refuses
    rw [Gateway.contents, Gateway.contents, reached]
    cases found : before.mouthOf? party.handle with
    | none => rfl
    | some mouth =>
        rw [found, Option.any_some] at refuses
        exact Mouth.push_of_not_takes _ refuses
  opened _ _ _ same := Client.openBytes_wrap same plain
  passed := delivered.passed
  spared := delivered.spared

namespace Relay

/-- What an accepted connection says to the application, sealed with its active key if it has one,
is relayed exactly: to every other open connection that was accepted in the same family, and to
nobody else. It must not read as an acknowledgement under the staged or the retired key, which are
tried before the active one. -/
theorem relays_exactly (policy : SizePolicy) (family : Family) (entropy : Entropy) (expiry : Nat)
    (acts : List Act) (distinct : (acts.filterMap Act.opened?).Nodup)
    (named : ∀ act ∈ acts, act.NamesUsers) {gateway : Gateway}
    (reached : run policy (.fresh entropy expiry) acts = gateway) {speaker : Party}
    (accepted : AcceptedBy policy family (.fresh entropy expiry) acts speaker)
    (isOpen : gateway.isOpen speaker.handle = true) {plain payload : Bytes}
    (foreign : Codec.json.IsForeign plain)
    (sealed : payload = (gateway.stock speaker.id).wrap plain)
    (unstaged : (deskOf policy family).ackUnder? (gateway.keyRing speaker.id).staged payload = none)
    (unretired :
      (deskOf policy family).ackUnder? (gateway.keyRing speaker.id).retired payload = none) :
    (((deskOf policy family).receive speaker payload).run gateway).1 = .application plain ∧
      Relayed gateway (Hears policy family (.fresh entropy expiry) acts speaker) plain
        (((deskOf policy family).receive speaker payload).run gateway).2 := by
  subst reached sealed
  have logged := logged_run policy family entropy expiry acts distinct
  have sound := (kept_fresh policy entropy expiry acts).sound
  have said := Desk.said_of_isForeign foreign unstaged unretired
  obtain ⟨outcome, delivered⟩ := Desk.delivered_receive sound logged.dressing logged.indexed said
  refine ⟨outcome, (delivered.congr fun party => ?_).relayed⟩
  exact (mem_audience_iff party distinct named accepted isOpen).symm

/-- A client with an active key, another one without, and a third whose connection takes nothing. -/
def sampleTalk : List Act :=
  [.occurs (.opens 1 false Sample.remote (.record [] false)),
    .occurs (.opens 2 false Sample.remote (.record [] false)),
    .occurs (.opens 3 true Sample.remote (.record [] false)),
    .occurs (.opens 4 false Sample.remote (.record [] true)),
    .accept .socket 0, .accept .socket 1, .accept .socket 3,
    .request .socket 2 (Codec.json.encode (.keyRequest (.newKey 1 (some 1)))),
    .receive .socket 0 Sample.ack]

/-- What the second client of the sample says reaches the first one under that one's key. -/
theorem sample_talk_is_sealed :
    (sampleTalk.filterMap Act.opened?).Nodup ∧ (∀ act ∈ sampleTalk, act.NamesUsers) ∧
      (((deskOf .standard .socket).receive ⟨1, 2⟩ [255]).run
          (run .standard Sample.start sampleTalk)).1 = .application [255] ∧
      (((deskOf .standard .socket).receive ⟨1, 2⟩ [255]).run
          (run .standard Sample.start sampleTalk)).2.contents 0 =
        (run .standard Sample.start sampleTalk).contents 0 ++ [[254]] := by
  have distinct : (sampleTalk.filterMap Act.opened?).Nodup := by decide
  have named : ∀ act ∈ sampleTalk, act.NamesUsers := by simp [sampleTalk, Act.NamesUsers]
  have accepted (position : Nat) (party : Party)
      (asked : sampleTalk[position]? = some (.accept .socket party.handle))
      (known : (run .standard Sample.start (sampleTalk.take position)).idOf? party.handle =
        some party.id) :
      AcceptedBy .standard .socket Sample.start sampleTalk party := by
    obtain ⟨inside, found⟩ := List.getElem?_eq_some_iff.1 asked
    refine ⟨sampleTalk.take position, sampleTalk.drop (position + 1), ?_, known⟩
    rw [← found, List.getElem_cons_drop, List.take_append_drop]
  have speaks : AcceptedBy .standard .socket Sample.start sampleTalk ⟨1, 2⟩ :=
    accepted 5 ⟨1, 2⟩ rfl (by decide +kernel)
  have foreign : Codec.json.IsForeign [255] := .inl ⟨"no tagged document", by decide +kernel⟩
  have keyless : [255] = ((run .standard Sample.start sampleTalk).stock 2).wrap [255] := by
    decide +kernel
  obtain ⟨said, heard⟩ := relays_exactly .standard .socket (.arithmetic 1 1) 30 sampleTalk distinct
    named rfl speaks (by decide +kernel) foreign keyless (by decide +kernel) (by decide +kernel)
  have hears : Hears .standard .socket Sample.start sampleTalk ⟨1, 2⟩ ⟨0, 1⟩ :=
    ⟨accepted 4 ⟨0, 1⟩ rfl (by decide +kernel), by decide +kernel, by decide⟩
  obtain ⟨taken, -⟩ := heard.taken ⟨0, 1⟩ hears (by decide +kernel)
  have key : ((run .standard Sample.start sampleTalk).stock 1).wrap [255] = [254] := by
    decide +kernel
  refine ⟨distinct, named, said, ?_⟩
  rw [← key]
  exact taken

end Relay

end PadRelay
