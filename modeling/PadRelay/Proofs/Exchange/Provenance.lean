import PadRelay.Proofs.Exchange.Effect
import PadRelay.Proofs.Exchange.Run

/-!
# Where active keys come from

Staged keys come from nowhere but a request that was answered with the key, and active keys from
nowhere but staged ones that were acknowledged in time. Every staging has a generation of its own,
so one that has gone does not come back.
-/

namespace PadRelay

/-- A staging is the latest of its identity, and in time. -/
def Gateway.Awaits (gateway : Gateway) (identity : Identity) (staging : Staging) : Prop :=
  gateway.staged.entries.get? identity = some staging ∧ gateway.now < staging.deadline

namespace Desk

variable (desk : Desk)

/-- The act issues a key for an identity: an encrypted channel asks for it, the answer is that it
was issued, and it is drawn from the random source in a size that the policy allows. -/
structure Issues (gateway : Gateway) (act : Act) (identity : Identity) (staging : Staging) :
    Prop where
  /-- A request on an encrypted channel asks for a new key of the identity. -/
  asked : ∃ handle payload requested size entropy,
    act = .encrypted handle payload ∧
    desk.codec.decode payload = .ok (.keyRequest (.newKey identity requested)) ∧
    desk.policy.resolve requested = .ok size ∧
    Key.generate desk.policy size gateway.entropy = .ok (staging.held.key, entropy)
  /-- The answer is that the key was issued. -/
  answered : (desk.act gateway act).1 = .encrypted .keyIssued
  /-- The key is stamped as the new key that it is. -/
  stamp : staging.held.stamp = gateway.staged.generation
  /-- The staging is new. -/
  generation : staging.generation = gateway.staged.generation
  /-- The deadline is one lifetime away. -/
  deadline : staging.deadline = gateway.now + gateway.staged.expiry

/-- The act makes the staged key of an identity its active one: a message on the clear channel of
the identity is answered with the activation, while the staging is waited for. -/
structure Activates (gateway : Gateway) (act : Act) (identity : Identity) (staging : Staging) :
    Prop where
  /-- A message comes over the clear channel of the identity. -/
  heard : ∃ handle payload, act = .clear handle payload ∧ gateway.idOf? handle = some identity
  /-- The answer is the activation. -/
  answered : (desk.act gateway act).1 = .clear .activated
  /-- The staging is waited for. -/
  awaited : gateway.Awaits identity staging

/-- What an act does to the keys. -/
inductive Moves (before : Gateway) (act : Act) : Gateway → Prop
  /-- Only time passes. -/
  | passes (duration : Nat) : Moves before act (before.advance duration)
  /-- Keys are at most taken away. -/
  | sheds {after : Gateway} (sheds : before.Sheds after) : Moves before act after
  /-- A new key is staged, and keys are taken away before and after. -/
  | issues {middle after : Gateway} {identity : Identity} {staging : Staging} {entropy : Entropy}
      (issues : desk.Issues before act identity staging) (first : before.Sheds middle)
      (last : (middle.stageNew identity staging.held.key entropy).Sheds after) :
      Moves before act after
  /-- A staged key becomes active, and keys are taken away before and after. -/
  | activates {middle after : Gateway} {identity : Identity} {staging : Staging}
      (activates : desk.Activates before act identity staging) (first : before.Sheds middle)
      (last : (middle.promote identity staging).Sheds after) : Moves before act after

end Desk

namespace Gateway

theorem Sheds.deactivate (gateway : Gateway) (identity : Identity) :
    gateway.Sheds (gateway.deactivate identity) where
  now := rfl
  entropy := rfl
  expiry := rfl
  generation := rfl
  entry _ := .inr rfl
  active other := by
    simp only [Gateway.deactivate, Table.get?_erase]
    split
    · exact .inl rfl
    · exact .inr rfl

theorem Sheds.dropState (gateway : Gateway) (family : Family) :
    gateway.Sheds (gateway.dropState family) := by
  constructor <;> simp [Gateway.dropState, StagedKeys.clear]

end Gateway

namespace Desk

variable (desk : Desk) (gateway : Gateway)

theorem sheds_attach (party : Party) : gateway.Sheds ((desk.attach party).run gateway).2 := by
  rw [attach]
  simp only [Script.run_bind]
  have entered := Gateway.Sheds.occupy gateway desk.family party.id .clear party
  have registered := Gateway.Sheds.onClose
    ((Script.occupy desk.family party.id .clear party).run gateway).2 party.handle
    (.dropKeys party.id)
  have welcomed := Gateway.drifts_run (desk.plain_reply party (.welcome party.id))
    (((Script.occupy desk.family party.id .clear party).run gateway).2.onClose party.handle
      (.dropKeys party.id))
  exact (entered.trans registered).trans welcomed.sheds

theorem moves_undergo (occurrence : Occurrence) :
    desk.Moves gateway (.occurs occurrence) (gateway.undergo occurrence) := by
  cases occurrence with
  | passes duration => exact .passes duration
  | opens id secure remote outlet => exact .sheds (.of_eq rfl rfl rfl rfl)
  | outlet handle outlet => exact .sheds (.of_eq rfl rfl rfl rfl)
  | closes handle => exact .sheds (.close gateway handle)
  | rings identity generation =>
      rcases gateway.staged.ring_eq gateway.now identity generation with same | same
      · simp only [Gateway.undergo, same]
        exact .sheds (.refl gateway)
      · simp only [Gateway.undergo, same]
        exact .sheds (.look gateway identity)

theorem moves_clear {party : Party} (payload : Bytes) (known : gateway.Knows party) :
    desk.Moves gateway (.clear party.handle payload)
      ((desk.handleClear party payload).run gateway).2 := by
  have answered : (desk.act gateway (.clear party.handle payload)).1 =
      .clear ((desk.handleClear party payload).run gateway).1 := by
    simp only [act, Gateway.attend_of_knows known]
    rfl
  have effect := desk.effect_handleClear party gateway payload
  generalize (desk.handleClear party payload).run gateway = result at answered effect
  cases effect with
  | idle quiet drifts => exact .sheds drifts.sheds
  | deleted first active last =>
      exact .sheds ((first.sheds.trans (.deactivate _ _)).trans last.sheds)
  | @activated middle after staging first found inTime last =>
      have entry : gateway.staged.entries.get? party.id = some staging := by
        rcases first.sheds.entry party.id with gone | kept
        · rw [found] at gone
          cases gone
        · rw [← kept, found]
      have waited : gateway.now < staging.deadline := by
        rw [← first.sheds.now]
        simpa [Staging.isLive] using inTime
      exact .activates ⟨⟨_, _, rfl, known⟩, answered, entry, waited⟩ first.sheds last.sheds

theorem issues_of_drawn {gateway : Gateway} {handle : Handle} {payload : Bytes}
    {target : Identity} {requested : Option UInt32} {size : Nat} {key : Key} {entropy : Entropy}
    (answered : (desk.act gateway (.encrypted handle payload)).1 = .encrypted .keyIssued)
    (asked : desk.codec.decode payload = .ok (.keyRequest (.newKey target requested)))
    (allowed : desk.policy.resolve requested = .ok size)
    (drawn : Key.generate desk.policy size gateway.entropy = .ok (key, entropy)) :
    desk.Issues gateway (.encrypted handle payload) target
      ⟨⟨key, gateway.staged.generation⟩, gateway.now + gateway.staged.expiry,
        gateway.staged.generation⟩ :=
  ⟨⟨_, _, _, _, _, rfl, asked, allowed, drawn⟩, answered, rfl, rfl, rfl⟩

theorem moves_encrypted {party : Party} (payload : Bytes) (known : gateway.Knows party) :
    desk.Moves gateway (.encrypted party.handle payload)
      ((desk.handleEncrypted party payload).run gateway).2 := by
  have answered : (desk.act gateway (.encrypted party.handle payload)).1 =
      .encrypted ((desk.handleEncrypted party payload).run gateway).1 := by
    simp only [act, Gateway.attend_of_knows known]
    rfl
  have effect := desk.effect_handleEncrypted party payload gateway known
  generalize (desk.handleEncrypted party payload).run gateway = result at answered effect
  cases effect with
  | idle failure drifts => exact .sheds drifts.sheds
  | deleted asked first active last =>
      exact .sheds ((first.sheds.trans (.deactivate _ _)).trans last.sheds)
  | issued asked allowed first attached drawn last =>
      rw [first.sheds.entropy] at drawn
      exact .issues (desk.issues_of_drawn answered asked allowed drawn) first.sheds last.sheds

theorem moves_act (act : Act) : desk.Moves gateway act (desk.act gateway act).2 := by
  cases act with
  | occurs occurrence => exact desk.moves_undergo gateway occurrence
  | attach handle =>
      exact Gateway.attend_cases handle desk.attach (.sheds (.refl gateway)) fun party _ _ =>
        .sheds (desk.sheds_attach gateway party)
  | clear handle payload =>
      apply Gateway.attend_cases handle (fun party => desk.handleClear party payload)
        (.sheds (.refl gateway))
      intro party known equal
      subst equal
      exact desk.moves_clear gateway payload known
  | encrypted handle payload =>
      apply Gateway.attend_cases handle (fun party => desk.handleEncrypted party payload)
        (.sheds (.refl gateway))
      intro party known equal
      subst equal
      exact desk.moves_encrypted gateway payload known
  | shutdown => exact .sheds (.dropState gateway desk.family)

namespace Moves

variable {desk : Desk} {before after : Gateway} {act : Act}

theorem now_le (moves : desk.Moves before act after) : before.now ≤ after.now := by
  cases moves with
  | passes duration => exact Nat.le_add_right _ _
  | sheds sheds => exact Nat.le_of_eq sheds.now.symm
  | issues issues first last => exact Nat.le_of_eq (last.now.trans first.now).symm
  | activates activates first last => exact Nat.le_of_eq (last.now.trans first.now).symm

theorem expiry (moves : desk.Moves before act after) :
    after.staged.expiry = before.staged.expiry := by
  cases moves with
  | passes duration => rfl
  | sheds sheds => exact sheds.expiry
  | issues issues first last => exact last.expiry.trans first.expiry
  | activates activates first last => exact last.expiry.trans first.expiry

theorem generation_le (moves : desk.Moves before act after) :
    before.staged.generation ≤ after.staged.generation := by
  cases moves with
  | passes duration => exact Nat.le_refl _
  | sheds sheds => exact Nat.le_of_eq sheds.generation.symm
  | issues issues first last =>
      have next := last.generation
      simp only [Gateway.stageNew, StagedKeys.put, StagedKeys.putHeld, first.generation] at next
      omega
  | activates activates first last =>
      exact Nat.le_of_eq (last.generation.trans first.generation).symm

/-- After an act an identity has no staged key, the one from before, or one that the act issued. -/
theorem entry (moves : desk.Moves before act after) (identity : Identity) :
    after.staged.entries.get? identity = none ∨
      after.staged.entries.get? identity = before.staged.entries.get? identity ∨
      ∃ staging, after.staged.entries.get? identity = some staging ∧
        desk.Issues before act identity staging := by
  cases moves with
  | passes duration => exact .inr (.inl rfl)
  | sheds sheds => exact (sheds.entry identity).imp_right .inl
  | @issues middle after target staging entropy issues first last =>
      rcases last.entry identity with gone | kept
      · exact .inl gone
      · by_cases same : identity = target
        · subst same
          refine .inr (.inr ⟨staging, ?_, issues⟩)
          rw [kept]
          simp only [Gateway.stageNew, StagedKeys.get?_entries_put, if_true, first.generation,
            first.now, first.expiry]
          have stamp := issues.stamp
          have generation := issues.generation
          have deadline := issues.deadline
          obtain ⟨⟨key, _⟩, _, _⟩ := staging
          simp_all
        · rw [kept]
          simp only [Gateway.stageNew, StagedKeys.get?_entries_put, same, if_false]
          exact (first.entry identity).imp_right .inl
  | @activates middle after target staging activates first last =>
      rcases last.entry identity with gone | kept
      · exact .inl gone
      · rw [kept]
        simp only [Gateway.promote, Table.get?_erase]
        split
        · exact .inl rfl
        · exact (first.entry identity).imp_right .inl

theorem active (moves : desk.Moves before act after) (identity : Identity) :
    after.active.get? identity = none ∨
      after.active.get? identity = before.active.get? identity ∨
      ∃ staging, after.active.get? identity = some staging.held.key ∧
        desk.Activates before act identity staging := by
  cases moves with
  | passes duration => exact .inr (.inl rfl)
  | sheds sheds => exact (sheds.active identity).imp_right .inl
  | issues issues first last =>
      rcases last.active identity with gone | kept
      · exact .inl gone
      · rw [kept]
        exact (first.active identity).imp_right .inl
  | @activates middle after target staging activates first last =>
      rcases last.active identity with gone | kept
      · exact .inl gone
      · by_cases same : identity = target
        · subst same
          refine .inr (.inr ⟨staging, ?_, activates⟩)
          rw [kept]
          simp [Gateway.promote]
        · rw [kept]
          simp only [Gateway.promote, Table.get?_insert, same, if_false]
          exact (first.active identity).imp_right .inl

end Moves

section Acts

variable {desk : Desk} {gateway : Gateway} {act : Act} {identity : Identity} {staging : Staging}

/-- An act that issues a key stages one key of the identity and otherwise takes keys away. -/
theorem Issues.stages (issues : desk.Issues gateway act identity staging) :
    ∃ middle key entropy, gateway.Sheds middle ∧
      (middle.stageNew identity key entropy).Sheds (desk.act gateway act).2 := by
  obtain ⟨⟨handle, payload, requested, size, rest, rfl, asked, -, -⟩, answered, -, -, -⟩ := issues
  cases found : gateway.idOf? handle with
  | none => simp [Desk.act, Gateway.attend_of_absent found] at answered
  | some id =>
      have known : gateway.Knows ⟨handle, id⟩ := found
      have effect := desk.effect_handleEncrypted ⟨handle, id⟩ payload gateway known
      simp only [Desk.act, Gateway.attend_of_knows known, Option.elim_some] at answered ⊢
      generalize (desk.handleEncrypted ⟨handle, id⟩ payload).run gateway = result at *
      cases effect with
      | idle failure drifts =>
          cases answered
          cases failure
      | deleted asked first active last => cases answered
      | issued asked_again allowed first attached drawn last =>
          have same := asked.symm.trans asked_again
          simp only [KeyRequest.newKey, Except.ok.injEq, Message.keyRequest.injEq,
            KeyRequest.mk.injEq, Option.some.injEq] at same
          obtain ⟨-, rfl, -⟩ := same
          exact ⟨_, _, _, first.sheds, last.sheds⟩

/-- An act that makes a staged key the active one leaves the identity without a staged key. -/
theorem Activates.entry (activates : desk.Activates gateway act identity staging) :
    (desk.act gateway act).2.staged.entries.get? identity = none := by
  obtain ⟨⟨handle, payload, rfl, known⟩, answered, -⟩ := activates
  have known : gateway.Knows ⟨handle, identity⟩ := known
  have effect := desk.effect_handleClear ⟨handle, identity⟩ gateway payload
  simp only [Desk.act, Gateway.attend_of_knows known, Option.elim_some] at answered ⊢
  generalize (desk.handleClear ⟨handle, identity⟩ payload).run gateway = result at *
  cases effect with
  | idle quiet drifts => exact absurd (Report.clear.inj answered) quiet.1
  | deleted first active last => cases answered
  | activated first found inTime last =>
      have taken := last.sheds.entry identity
      simpa [Gateway.promote] using taken

theorem Issues.generation_lt (issues : desk.Issues gateway act identity staging) :
    gateway.staged.generation < (desk.act gateway act).2.staged.generation := by
  obtain ⟨middle, key, entropy, first, last⟩ := issues.stages
  have next := last.generation
  simp only [Gateway.stageNew, StagedKeys.put, StagedKeys.putHeld, first.generation] at next
  omega

/-- Whatever is staged for the identity after an act that issued a key was staged by that act. -/
theorem Issues.generation_of_entry (issues : desk.Issues gateway act identity staging)
    {later : Staging} (found : (desk.act gateway act).2.staged.entries.get? identity = some later) :
    later.generation = gateway.staged.generation := by
  obtain ⟨middle, key, entropy, first, last⟩ := issues.stages
  rcases last.entry identity with gone | kept
  · rw [found] at gone
    cases gone
  · rw [found] at kept
    simp only [Gateway.stageNew, StagedKeys.get?_entries_put, if_true, Option.some.injEq] at kept
    rw [kept]
    exact first.generation

theorem exists_issues {handle : Handle} {payload : Bytes}
    (answered : (desk.act gateway (.encrypted handle payload)).1 = .encrypted .keyIssued) :
    ∃ identity staging, desk.Issues gateway (.encrypted handle payload) identity staging := by
  cases found : gateway.idOf? handle with
  | none => simp [Desk.act, Gateway.attend_of_absent found] at answered
  | some id =>
      have known : gateway.Knows ⟨handle, id⟩ := found
      have effect := desk.effect_handleEncrypted ⟨handle, id⟩ payload gateway known
      have same := answered
      simp only [Desk.act, Gateway.attend_of_knows known, Option.elim_some] at same
      generalize (desk.handleEncrypted ⟨handle, id⟩ payload).run gateway = result at *
      cases effect with
      | idle failure drifts =>
          cases same
          cases failure
      | deleted asked first active last => cases same
      | issued asked allowed first attached drawn last =>
          rw [first.sheds.entropy] at drawn
          exact ⟨_, _, desk.issues_of_drawn answered asked allowed drawn⟩

end Acts

section Runs

variable (desk : Desk) (start : Gateway) (acts : List Act)

/-- The act at a position of a run issues a key. -/
def IssuedAt (position : Nat) (identity : Identity) (staging : Staging) : Prop :=
  ∃ act, acts[position]? = some act ∧
    desk.Issues (desk.stateAt start acts position) act identity staging

/-- The act at a position of a run makes a staged key the active one. -/
def ActivatedAt (position : Nat) (identity : Identity) (staging : Staging) : Prop :=
  ∃ act, acts[position]? = some act ∧
    desk.Activates (desk.stateAt start acts position) act identity staging

theorem stateAt_cases (position : Nat) :
    (acts[position]? = none ∧
        desk.stateAt start acts (position + 1) = desk.stateAt start acts position) ∨
      ∃ act, acts[position]? = some act ∧
        desk.Moves (desk.stateAt start acts position) act
          (desk.stateAt start acts (position + 1)) := by
  cases found : acts[position]? with
  | none => exact .inl ⟨rfl, desk.stateAt_succ_of_none start acts found⟩
  | some act =>
      refine .inr ⟨act, rfl, ?_⟩
      rw [desk.stateAt_succ start acts found]
      exact desk.moves_act _ act

theorem generation_mono {early late : Nat} (order : early ≤ late) :
    (desk.stateAt start acts early).staged.generation ≤
      (desk.stateAt start acts late).staged.generation := by
  induction order with
  | refl => exact Nat.le_refl _
  | @step late order induction =>
      rcases desk.stateAt_cases start acts late with ⟨-, same⟩ | ⟨act, -, moves⟩
      · rwa [same]
      · exact Nat.le_trans induction moves.generation_le

variable {desk start acts} {identity : Identity} {staging : Staging}

theorem IssuedAt.generation_lt {position later : Nat}
    (issued : desk.IssuedAt start acts position identity staging) (order : position < later) :
    staging.generation < (desk.stateAt start acts later).staged.generation := by
  obtain ⟨act, found, issues⟩ := issued
  have next := issues.generation_lt
  rw [← desk.stateAt_succ start acts found] at next
  have later_on : (desk.stateAt start acts (position + 1)).staged.generation ≤
      (desk.stateAt start acts later).staged.generation := desk.generation_mono start acts order
  have generation := issues.generation
  omega

theorem issuedAt_of_entry (empty : ∀ identity, start.Keyless identity) {position : Nat}
    (found : (desk.stateAt start acts position).staged.entries.get? identity = some staging) :
    ∃ origin, origin < position ∧ desk.IssuedAt start acts origin identity staging := by
  induction position with
  | zero =>
      rw [stateAt_zero, (empty identity).2.1] at found
      cases found
  | succ position induction =>
      have kept (before : (desk.stateAt start acts position).staged.entries.get? identity =
          some staging) :
          ∃ origin, origin < position + 1 ∧ desk.IssuedAt start acts origin identity staging := by
        obtain ⟨origin, order, issued⟩ := induction before
        exact ⟨origin, Nat.lt_succ_of_lt order, issued⟩
      rcases desk.stateAt_cases start acts position with ⟨-, same⟩ | ⟨act, present, moves⟩
      · exact kept (same ▸ found)
      · rcases moves.entry identity with gone | before | ⟨other, fresh, issues⟩
        · rw [found] at gone
          cases gone
        · exact kept (before ▸ found)
        · rw [found] at fresh
          cases fresh
          exact ⟨position, Nat.lt_succ_self _, act, present, issues⟩

/-- A staging that is waited for no more is never waited for again. -/
theorem not_awaits_of_le {origin early late : Nat}
    (issued : desk.IssuedAt start acts origin identity staging) (after : origin < early)
    (gone : ¬ (desk.stateAt start acts early).Awaits identity staging) (order : early ≤ late) :
    ¬ (desk.stateAt start acts late).Awaits identity staging := by
  induction order with
  | refl => exact gone
  | @step late order induction =>
      rintro ⟨entry, inTime⟩
      rcases desk.stateAt_cases start acts late with ⟨-, same⟩ | ⟨act, found, moves⟩
      · rw [same] at entry inTime
        exact induction ⟨entry, inTime⟩
      · rcases moves.entry identity with none | kept | ⟨other, fresh, issues⟩
        · rw [entry] at none
          cases none
        · rw [entry] at kept
          exact induction ⟨kept.symm, Nat.lt_of_le_of_lt moves.now_le inTime⟩
        · rw [entry] at fresh
          cases fresh
          -- What an act stages is of the current generation, and this one is behind it.
          have behind := issued.generation_lt (Nat.lt_of_lt_of_le after order)
          have generation := issues.generation
          omega

theorem activatedAt_of_active (empty : ∀ identity, start.Keyless identity) {position : Nat}
    {key : Key}
    (found : (desk.stateAt start acts position).active.get? identity = some key) :
    ∃ staging switch, switch < position ∧
      desk.ActivatedAt start acts switch identity staging ∧ staging.held.key = key := by
  induction position with
  | zero =>
      rw [stateAt_zero, (empty identity).1] at found
      cases found
  | succ position induction =>
      have kept (before : (desk.stateAt start acts position).active.get? identity = some key) :
          ∃ staging switch, switch < position + 1 ∧
            desk.ActivatedAt start acts switch identity staging ∧ staging.held.key = key := by
        obtain ⟨staging, switch, order, activated, same⟩ := induction before
        exact ⟨staging, switch, Nat.lt_succ_of_lt order, activated, same⟩
      rcases desk.stateAt_cases start acts position with ⟨-, same⟩ | ⟨act, present, moves⟩
      · rw [same] at found
        exact kept found
      · rcases moves.active identity with none | before | ⟨staging, switched, activates⟩
        · rw [found] at none
          cases none
        · rw [found] at before
          exact kept before.symm
        · rw [found] at switched
          cases switched
          exact ⟨staging, position, Nat.lt_succ_self _, ⟨act, present, activates⟩, rfl⟩

end Runs

end Desk

end PadRelay
