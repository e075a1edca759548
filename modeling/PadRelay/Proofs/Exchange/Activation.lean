import PadRelay.Proofs.Exchange.Replies

/-!
# When a key becomes active

A message on a clear channel makes a key active exactly if that key is staged for the channel and in
time, and the message, opened with it, acknowledges it for the channel's own identity. No other path
leads there. The staging is gone then, and so is its generation: its timer will never find it again.
-/

namespace PadRelay

namespace Desk

open Script (ask)

theorem ackTarget?_eq_some_iff {desk : Desk} {plain : Bytes} {target : Identity} :
    desk.ackTarget? plain = some target ↔ desk.codec.decode plain = .ok (.keyAck target) := by
  rw [ackTarget?]
  cases desk.codec.decode plain with
  | error error => simp
  | ok message => cases message <;> simp

end Desk

namespace Gateway

variable {gateway : Gateway} {identity : Identity} {staging : Staging}

theorem Awaits.isLive (awaits : gateway.Awaits identity staging) :
    staging.isLive gateway.now = true := decide_eq_true awaits.2

theorem Awaits.of_rests {after : Gateway} (awaits : gateway.Awaits identity staging)
    (rests : gateway.Rests after) : after.Awaits identity staging := by
  rw [Awaits, rests.staged, rests.now]
  exact awaits

theorem exists_awaits {held : StagedKey}
    (live : gateway.staged.live gateway.now identity = some held) :
    ∃ staging, gateway.Awaits identity staging ∧ staging.held = held := by
  rw [StagedKeys.live, Option.map_eq_some_iff] at live
  obtain ⟨staging, found, rfl⟩ := live
  rw [Option.filter_eq_some_iff] at found
  exact ⟨staging, ⟨found.1, of_decide_eq_true found.2⟩, rfl⟩

theorem Awaits.perform_staged (awaits : gateway.Awaits identity staging) :
    gateway.perform (.staged identity) = (some staging.held, gateway) := by
  simp [perform, stagedKey, onStaged, StagedKeys.get, awaits.1, awaits.isLive]

theorem Awaits.perform_takeStaged (awaits : gateway.Awaits identity staging) :
    gateway.perform (.takeStaged identity staging.held) = (some staging.held.key,
      { gateway with
        staged := { gateway.staged with
          entries := gateway.staged.entries.erase identity
          retired := gateway.staged.retired.erase identity } }) := by
  simp [perform, onStaged, StagedKeys.takeIf, awaits.1, awaits.isLive]

end Gateway

namespace Desk

open Script (ask)

variable (desk : Desk) (party : Party) {gateway : Gateway} {staging : Staging} {payload : Bytes}

/-- An acknowledgement under the staged key in time is acted on at once. -/
theorem run_readStaged_of_acknowledged {target : Identity}
    (awaits : gateway.Awaits party.id staging)
    (acknowledged : desk.ackTarget? (Cipher.transform staging.held.key payload) = some target) :
    (desk.readStaged party payload).run gateway =
      (desk.activate party target staging.held).run (gateway.count desk.family .decrypted) := by
  rw [readStaged, Script.run_bind, Script.run_ask, awaits.perform_staged]
  dsimp only
  rw [Script.run_bind, run_openWith, acknowledged]

/-- Taking the key, making it active and saying so. -/
theorem run_activate_of_awaits (awaits : gateway.Awaits party.id staging) :
    (desk.activate party party.id staging.held).run gateway =
      (.activated, ((desk.respond party (.ackOutcome .ok)).run
        ((gateway.promote party.id staging).count desk.family .activated)).2) := by
  rw [activate, if_neg (fun other => other rfl), Script.run_bind, Script.run_ask,
    awaits.perform_takeStaged]
  rfl

theorem run_handleClear_of_own (awaits : gateway.Awaits party.id staging)
    (acknowledged : desk.ackTarget? (Cipher.transform staging.held.key payload) = some party.id) :
    (desk.handleClear party payload).run gateway =
      (.activated, ((desk.respond party (.ackOutcome .ok)).run
        (((gateway.count desk.family .decrypted).promote party.id staging).count
          desk.family .activated)).2) := by
  have counted := awaits.of_rests (gateway.rests_count desk.family .decrypted)
  rw [handleClear, Script.run_bind, desk.run_readStaged_of_acknowledged party awaits acknowledged,
    desk.run_activate_of_awaits party counted]
  rfl

theorem run_handleClear_of_foreign {target : Identity} (awaits : gateway.Awaits party.id staging)
    (acknowledged : desk.ackTarget? (Cipher.transform staging.held.key payload) = some target)
    (foreign : target ≠ party.id) :
    (desk.handleClear party payload).run gateway =
      (.rejected .identityMismatch,
        ((desk.respond party (.ackOutcome .identityMismatch)).run
          (gateway.count desk.family .decrypted)).2.count desk.family .rejected) := by
  rw [handleClear, Script.run_bind, desk.run_readStaged_of_acknowledged party awaits acknowledged,
    activate, if_pos foreign]
  rfl

end Desk

/-- The staging of an identity with a generation is gone for good: there is none with this
generation, and new ones get later generations. -/
structure Gateway.Outruns (gateway : Gateway) (identity : Identity) (generation : Nat) : Prop where
  behind : generation < gateway.staged.generation
  other : ∀ staging, gateway.staged.entries.get? identity = some staging →
    staging.generation ≠ generation

namespace Gateway.Outruns

variable {desk : Desk} {gateway : Gateway} {identity : Identity} {generation : Nat}

theorem act (outruns : gateway.Outruns identity generation) (act : Act) :
    (desk.act gateway act).2.Outruns identity generation := by
  have moves := desk.moves_act gateway act
  refine ⟨Nat.lt_of_lt_of_le outruns.behind moves.generation_le, fun staging found => ?_⟩
  rcases moves.entry identity with gone | kept | ⟨fresh, entered, issues⟩
  · cases gone.symm.trans found
  · exact outruns.other staging (kept.symm.trans found)
  · cases entered.symm.trans found
    rw [issues.generation]
    exact Nat.ne_of_gt outruns.behind

theorem run (outruns : gateway.Outruns identity generation) (acts : List Act) :
    (desk.run gateway acts).Outruns identity generation := by
  induction acts using List.reverseRecOn with
  | nil => exact outruns
  | append_singleton acts last induction =>
      rw [Desk.run_append]
      exact induction.act last

/-- The timer that was set for the staging finds nothing. -/
theorem undergo_rings (outruns : gateway.Outruns identity generation) :
    gateway.undergo (.rings identity generation) = gateway := by
  have same : gateway.staged.ring gateway.now identity generation = gateway.staged := by
    rw [StagedKeys.ring]
    split
    · next staging found => simp [outruns.other staging found]
    · rfl
  rw [undergo, same]

end Gateway.Outruns

namespace Desk

variable (desk : Desk) (party : Party) (gateway : Gateway) (payload : Bytes)

/-- What is left after a message has made a staged key active. -/
structure HasActivated (staging : Staging) (after : Gateway) : Prop where
  /-- It is the active key. -/
  active : after.active.get? party.id = some staging.held.key
  /-- No key is staged any more. -/
  staged : after.staged.entries.get? party.id = none
  /-- No key is retired. -/
  retired : after.staged.retired.get? party.id = none
  /-- Whatever happens from then on, the timer of the key does nothing when it goes off. -/
  timer : ∀ acts, (desk.run after acts).undergo (.rings party.id staging.generation) =
    desk.run after acts
  /-- Nothing was sent but the confirmation on the channel, sealed with the key. -/
  confirmed : (desk.handleClear party payload).sent gateway = [(party.handle,
    Cipher.transform staging.held.key (desk.codec.encode (.ackOutcome .ok)))]

/-- What the handling of a message does about the keys of its channel, given what becomes of the
message and the gateway afterwards. -/
structure ActivatesExactly (outcome : ClearOutcome) (after : Gateway) : Prop where
  /-- A key is activated exactly if it is staged and in time, and the message acknowledges it under
  itself for the channel. -/
  activated_iff : outcome = .activated ↔ ∃ staging, gateway.Awaits party.id staging ∧
    desk.codec.decode (Cipher.transform staging.held.key payload) = .ok (.keyAck party.id)
  /-- Then it is the active key, and no trace of its staging is left. -/
  activated : outcome = .activated → ∀ staging, gateway.Awaits party.id staging →
    desk.HasActivated party gateway payload staging after
  /-- Without an activation the active key stays what it was, unless it is deleted. -/
  otherwise : outcome ≠ .activated → after.active.get? party.id =
    if outcome = .deleted then none else gateway.active.get? party.id
  /-- An acknowledgement of the staged key for somebody else is refused, and the key stays staged
  and in time. -/
  foreign : ∀ staging target, gateway.Awaits party.id staging →
    desk.codec.decode (Cipher.transform staging.held.key payload) = .ok (.keyAck target) →
    target ≠ party.id → outcome = .rejected .identityMismatch ∧ after.Awaits party.id staging

/-- Without an activation the active key stays what it was, unless it is deleted. -/
theorem active_of_ne_activated (accepts : gateway.Accepts party.handle)
    (idle : ((desk.handleClear party payload).run gateway).1 ≠ .activated) :
    ((desk.handleClear party payload).run gateway).2.active.get? party.id =
      if ((desk.handleClear party payload).run gateway).1 = .deleted then none
      else gateway.active.get? party.id := by
  obtain ⟨read, concludes, mirrors, -⟩ := desk.exists_concluded party gateway payload
  generalize (desk.handleClear party payload).sent gateway = sent at concludes
  generalize (desk.handleClear party payload).run gateway = result at concludes mirrors idle ⊢
  obtain ⟨outcome, after⟩ := result
  rw [← mirrors.active]
  cases concludes with
  | passed passed => rw [← passed.active, if_neg ClearOutcome.noConfusion]
  | @told _ message middle told shifts connections =>
      obtain ⟨-, active, -⟩ := desk.respond_of_accepts party (accepts.congr connections) message
      rw [active]
      generalize middle.active = now at shifts ⊢
      cases shifts with
      | activated key => exact absurd rfl idle
      | deleted => rw [if_pos rfl, Table.get?_erase_self]
      | rejected code => rw [if_neg ClearOutcome.noConfusion]

variable {party gateway payload} {staging : Staging}

/-- An acknowledgement of the staged key, in time and for the channel, makes it active. -/
theorem hasActivated_of_own (accepts : gateway.Accepts party.handle)
    (earlier : staging.generation < gateway.staged.generation)
    (awaits : gateway.Awaits party.id staging)
    (acknowledged : desk.ackTarget? (Cipher.transform staging.held.key payload) = some party.id) :
    desk.HasActivated party gateway payload staging
      ((desk.handleClear party payload).run gateway).2 := by
  let middle := ((gateway.count desk.family .decrypted).promote party.id staging).count
    desk.family .activated
  have same : middle.connections = gateway.connections := by
    simp [middle, Gateway.count, Gateway.promote]
  have active_middle : middle.active = gateway.active.insert party.id staging.held.key := by
    simp [middle, Gateway.count, Gateway.promote]
  have staged_middle : middle.staged = (gateway.promote party.id staging).staged := by
    simp [middle, Gateway.count, Gateway.promote]
  have ran := desk.run_handleClear_of_own party awaits acknowledged
  have sent := desk.sent_handleClear party gateway payload accepts
  obtain ⟨-, active, rests⟩ :=
    desk.respond_of_accepts party (accepts.congr same) (.ackOutcome .ok)
  rw [ran] at sent ⊢
  have key : ((desk.respond party (.ackOutcome .ok)).run middle).2.active.get? party.id =
      some staging.held.key := by
    rw [active, active_middle, Table.get?_insert_self]
  have staged := rests.staged.trans staged_middle
  have gone : ((desk.respond party (.ackOutcome .ok)).run middle).2.staged.entries.get? party.id =
      none := by
    rw [staged]
    exact Table.get?_erase_self _ _
  refine ⟨key, gone, ?_, fun acts => ?_, ?_⟩
  · rw [staged]
    exact Table.get?_erase_self _ _
  · have outruns : ((desk.respond party (.ackOutcome .ok)).run middle).2.Outruns party.id
        staging.generation :=
      ⟨by rw [staged]; exact earlier, fun other found => by cases gone.symm.trans found⟩
    exact (outruns.run acts).undergo_rings
  · rcases sent with ⟨_, passed, -⟩ | ⟨message, told, sent⟩
    · cases passed
    · cases told
      have sealing : (((desk.respond party (.ackOutcome .ok)).run middle).2.stock
          party.id).active = some staging.held.key := key
      rw [sent, Stock.wrap, sealing]

theorem generation_lt_of_entry (entropy : Entropy) (expiry : Nat) (acts : List Act)
    {identity : Identity}
    (found : (desk.run (.fresh entropy expiry) acts).staged.entries.get? identity = some staging) :
    staging.generation < (desk.run (.fresh entropy expiry) acts).staged.generation := by
  rw [← stateAt_length] at found ⊢
  obtain ⟨origin, before, issued⟩ :=
    issuedAt_of_entry (Gateway.keyless_fresh entropy expiry) found
  exact issued.generation_lt before

variable (party gateway payload)

theorem activated_iff_acknowledged :
    ((desk.handleClear party payload).run gateway).1 = .activated ↔
      ∃ staging, gateway.Awaits party.id staging ∧
        desk.ackTarget? (Cipher.transform staging.held.key payload) = some party.id := by
  constructor
  · intro activated
    rw [outcome_handleClear, verdict_eq_activated_iff, ackUnder?, Gateway.keyRing,
      Option.bind_eq_some_iff] at activated
    obtain ⟨key, live, acknowledged⟩ := activated
    obtain ⟨held, inTime, rfl⟩ := Option.map_eq_some_iff.1 live
    obtain ⟨staging, awaits, rfl⟩ := Gateway.exists_awaits inTime
    exact ⟨staging, awaits, acknowledged⟩
  · rintro ⟨staging, awaits, acknowledged⟩
    rw [desk.run_handleClear_of_own party awaits acknowledged]

/-- **A key becomes active exactly when it is acknowledged in time, on the channel that it is staged
for.** -/
theorem activates_exactly (entropy : Entropy) (expiry : Nat) (acts : List Act)
    (accepts : (desk.run (.fresh entropy expiry) acts).Accepts party.handle) :
    desk.ActivatesExactly party (desk.run (.fresh entropy expiry) acts) payload
      ((desk.handleClear party payload).run (desk.run (.fresh entropy expiry) acts)).1
      ((desk.handleClear party payload).run (desk.run (.fresh entropy expiry) acts)).2 := by
  have earlier (staging : Staging)
      (found : (desk.run (.fresh entropy expiry) acts).staged.entries.get? party.id =
        some staging) := desk.generation_lt_of_entry entropy expiry acts found
  generalize desk.run (.fresh entropy expiry) acts = gateway at accepts earlier ⊢
  have activated_iff := desk.activated_iff_acknowledged party gateway payload
  refine ⟨?_, ?_, desk.active_of_ne_activated party gateway payload accepts, ?_⟩
  · simp only [activated_iff, ackTarget?_eq_some_iff]
  · intro activated staging awaits
    obtain ⟨other, also, acknowledged⟩ := activated_iff.1 activated
    cases awaits.1.symm.trans also.1
    exact desk.hasActivated_of_own accepts (earlier staging awaits.1) awaits acknowledged
  · intro staging target awaits acknowledged foreign
    have ran := desk.run_handleClear_of_foreign party awaits
      (ackTarget?_eq_some_iff.2 acknowledged) foreign
    have counted := gateway.rests_count desk.family .decrypted
    have same : (gateway.count desk.family .decrypted).connections = gateway.connections := by
      simp [Gateway.count]
    obtain ⟨-, -, answered⟩ :=
      desk.respond_of_accepts party (accepts.congr same) (.ackOutcome .identityMismatch)
    rw [ran]
    exact ⟨rfl, awaits.of_rests ((counted.trans answered).trans (Gateway.rests_count _ _ _))⟩

/-- In the sample the acknowledgement makes the staged key active. -/
theorem sample_ack_is_exact :
    let gateway := Desk.run {} Sample.start (Sample.acts.take 4)
    gateway.Accepts 0 ∧ ((handleClear {} ⟨0, 1⟩ Sample.ack).run gateway).1 = .activated ∧
      gateway.staged.live gateway.now 1 = some ⟨Sample.key, 0⟩ ∧
      ActivatesExactly {} ⟨0, 1⟩ gateway Sample.ack .activated
        ((handleClear {} ⟨0, 1⟩ Sample.ack).run gateway).2 := by
  intro gateway
  have mouth : gateway.mouthOf? 0 =
      some ⟨.record [Codec.json.encode (.welcome 1)] false, true⟩ := by decide +kernel
  have accepts := Gateway.accepts_of_mouthOf? mouth
  have outcome : ((handleClear {} ⟨0, 1⟩ Sample.ack).run gateway).1 = .activated := by
    decide +kernel
  have exactly := activates_exactly {} ⟨0, 1⟩ Sample.ack (.arithmetic 1 1) 30 (Sample.acts.take 4)
    accepts
  exact ⟨accepts, outcome, by decide +kernel, outcome ▸ exactly⟩

end Desk

end PadRelay
