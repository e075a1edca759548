import PadRelay.Proofs.Exchange.Reach
import PadRelay.Proofs.Exchange.Reading

/-!
# Keys that fade

Where no key of an identity is staged or activated, it has at most the keys that it had. Only a
request for a new key of its own stages one, and only an acknowledgement of the staged key, over its
own clear channel, activates one.
-/

namespace PadRelay

namespace Gateway

/-- No connection ever had an identity. -/
def Unused (gateway : Gateway) (id : Identity) : Prop := ∀ handle, gateway.idOf? handle ≠ some id

/-- An identity has at most the keys that it had: none has been staged or activated. -/
structure Fades (before after : Gateway) (identity : Identity) : Prop where
  staged : ∀ held, after.staged.live after.now identity = some held →
    before.staged.live before.now identity = some held
  active : ∀ key, after.active.get? identity = some key → before.active.get? identity = some key

namespace Fades

variable {before middle after : Gateway} {identity : Identity}

theorem trans (first : before.Fades middle identity) (second : middle.Fades after identity) :
    before.Fades after identity where
  staged held found := first.staged held (second.staged held found)
  active key found := first.active key (second.active key found)

theorem of_cases (order : before.now ≤ after.now)
    (entry : after.staged.entries.get? identity = none ∨
      after.staged.entries.get? identity = before.staged.entries.get? identity)
    (active : after.active.get? identity = none ∨
      after.active.get? identity = before.active.get? identity) :
    before.Fades after identity where
  staged held found := by
    rcases entry with gone | same
    · rw [StagedKeys.live_of_absent gone] at found
      cases found
    · rw [StagedKeys.live_congr same] at found
      exact StagedKeys.live_of_live_later order found
  active key found := by
    rcases active with gone | same
    · rw [gone] at found
      cases found
    · exact same ▸ found

theorem of_sheds (sheds : before.Sheds after) : before.Fades after identity :=
  .of_cases (Nat.le_of_eq sheds.now.symm) (sheds.entry identity) (sheds.active identity)

theorem stageNew_of_ne {target : Identity} (other : identity ≠ target) (key : Key)
    (entropy : Entropy) : before.Fades (before.stageNew target key entropy) identity :=
  .of_cases (Nat.le_refl _)
    (.inr (by simp [stageNew, StagedKeys.get?_entries_put, other])) (.inr rfl)

theorem promote_of_ne {target : Identity} (other : identity ≠ target) (staging : Staging) :
    before.Fades (before.promote target staging) identity :=
  .of_cases (Nat.le_refl _) (.inr (Table.get?_erase_of_ne _ other))
    (.inr (Table.get?_insert_of_ne _ _ other))

end Fades

/-- Distinct connections were made, with distinct identities, and what holds of every run holds. -/
def Settled (gateway : Gateway) (expiry : Nat) : Prop :=
  ∃ ids, ids.Nodup ∧ gateway.Reached ids expiry

namespace Settled

variable {gateway : Gateway} {expiry : Nat}

theorem fresh (entropy : Entropy) (expiry : Nat) : (Gateway.fresh entropy expiry).Settled expiry :=
  ⟨[], List.nodup_nil, lists_fresh entropy expiry, sound_fresh entropy expiry, rfl⟩

theorem handle_eq (settled : gateway.Settled expiry) {left right : Handle} {id : Identity}
    (one : gateway.Knows ⟨left, id⟩) (two : gateway.Knows ⟨right, id⟩) : left = right := by
  obtain ⟨ids, distinct, reached⟩ := settled
  exact reached.lists.handle_eq distinct one two

theorem keyless (settled : gateway.Settled expiry) {id : Identity} (unused : gateway.Unused id) :
    gateway.Keyless id := by
  obtain ⟨ids, -, reached⟩ := settled
  by_contra needs
  obtain ⟨handle, waits⟩ := reached.sound.exists_waits (.dropKeys id) needs
  exact unused handle waits.idOf?_eq

/-- After an act that takes an unused identity, if any, everybody is still known. -/
theorem act (settled : gateway.Settled expiry) (desk : Desk) (act : Act)
    (unused : ∀ id, act.opened? = some id → gateway.Unused id) :
    (desk.act gateway act).2.Settled expiry ∧
      ∀ party, gateway.Knows party → (desk.act gateway act).2.Knows party := by
  obtain ⟨ids, distinct, reached⟩ := settled
  have after := desk.reached_act reached act
  constructor
  · refine ⟨_, ?_, after⟩
    cases opened : act.opened? with
    | none => simpa using distinct
    | some id =>
        have absent : id ∉ ids := by
          intro member
          obtain ⟨handle, found⟩ := List.mem_iff_getElem?.1 member
          exact unused id opened handle ((reached.lists.idOf? handle).trans found)
        rw [Option.toList_some, List.nodup_append]
        refine ⟨distinct, by simp, fun other member last here same => ?_⟩
        cases List.mem_singleton.1 here
        exact absent (same ▸ member)
  · exact fun party known => desk.knows_act reached act known

end Settled

end Gateway

/-- An act that neither issues nor activates a key of an identity leaves it at most what it had. -/
theorem Desk.fades_act (desk : Desk) (gateway : Gateway) (act : Act) {identity : Identity}
    (unissued : ∀ staging, ¬ desk.Issues gateway act identity staging)
    (kept : ∀ staging, ¬ desk.Activates gateway act identity staging) :
    gateway.Fades (desk.act gateway act).2 identity := by
  have moves := desk.moves_act gateway act
  apply Gateway.Fades.of_cases moves.now_le
  · rcases moves.entry identity with gone | same | ⟨staging, -, issues⟩
    · exact .inl gone
    · exact .inr same
    · exact absurd issues (unissued staging)
  · rcases moves.active identity with gone | same | ⟨staging, -, activates⟩
    · exact .inl gone
    · exact .inr same
    · exact absurd activates (kept staging)

/-- A message on a clear channel that is no acknowledgement of its staged key activates nothing. -/
theorem Desk.fades_clear (desk : Desk) (gateway : Gateway) {handle : Handle} {payload : Bytes}
    (unread : ∀ id, gateway.idOf? handle = some id →
      desk.ackUnder? (gateway.keyRing id).staged payload ≠ some id) (identity : Identity) :
    gateway.Fades (desk.act gateway (.clear handle payload)).2 identity := by
  apply desk.fades_act gateway
  · rintro staging ⟨⟨_, _, _, _, _, impossible, -⟩, -⟩
    cases impossible
  · rintro staging ⟨⟨_, _, same, known⟩, answered, -⟩
    cases same
    have known : gateway.Knows ⟨handle, identity⟩ := known
    rw [desk.report_clear known, Report.clear.injEq, Desk.verdict_eq_activated_iff] at answered
    exact unread identity known answered

/-- A message on a clear channel that acknowledges its staged key makes that the active one. -/
theorem Desk.promotes_clear {desk : Desk} {gateway : Gateway} {handle : Handle} {payload : Bytes}
    {id : Identity} (known : gateway.Knows ⟨handle, id⟩)
    (read : desk.ackUnder? (gateway.keyRing id).staged payload = some id) :
    ∃ middle staging, gateway.staged.live gateway.now id = some staging.held ∧
      gateway.Sheds middle ∧
        (middle.promote id staging).Sheds (desk.act gateway (.clear handle payload)).2 := by
  have answered := desk.outcome_handleClear ⟨handle, id⟩ gateway payload
  rw [Desk.verdict_eq_activated_iff.2 read] at answered
  have effect := desk.effect_handleClear ⟨handle, id⟩ gateway payload
  simp only [Desk.act, Gateway.attend_of_knows known]
  generalize (desk.handleClear ⟨handle, id⟩ payload).run gateway = result at answered effect ⊢
  cases effect with
  | idle quiet drifts => exact absurd answered quiet.1
  | deleted first active last => cases answered
  | @activated middle after staging first found inTime last =>
      refine ⟨middle, staging, ?_, first.sheds, last.sheds⟩
      rcases first.sheds.entry id with gone | kept
      · rw [found] at gone
        cases gone
      · rw [first.sheds.now] at inTime
        exact StagedKeys.live_of_entry (kept.symm.trans found) inTime

/-- A request on an encrypted channel that asks for no new key of an identity stages none for it. -/
theorem Desk.fades_encrypted {desk : Desk} {gateway : Gateway} {handle : Handle} {payload : Bytes}
    {identity : Identity} (unasked : ∀ requested,
      desk.codec.decode payload ≠ .ok (.keyRequest (.newKey identity requested))) :
    gateway.Fades (desk.act gateway (.encrypted handle payload)).2 identity := by
  apply desk.fades_act gateway
  · rintro staging ⟨⟨_, _, requested, _, _, same, asked, -⟩, -⟩
    cases same
    exact unasked requested asked
  · rintro staging ⟨⟨_, _, impossible, -⟩, -⟩
    cases impossible

/-- Where no message comes, no key is staged or activated. -/
theorem Desk.fades_of_no_message (desk : Desk) (gateway : Gateway) (act : Act)
    (unheard : ∀ handle payload, act ≠ .clear handle payload)
    (unasked : ∀ handle payload, act ≠ .encrypted handle payload) (identity : Identity) :
    gateway.Fades (desk.act gateway act).2 identity := by
  apply desk.fades_act gateway
  · rintro staging ⟨⟨handle, payload, _, _, _, same, -⟩, -⟩
    exact unasked handle payload same
  · rintro staging ⟨⟨handle, payload, same, -⟩, -⟩
    exact unheard handle payload same

theorem Desk.fades_occurs (desk : Desk) (gateway : Gateway) (occurrence : Occurrence)
    (identity : Identity) : gateway.Fades (gateway.undergo occurrence) identity :=
  desk.fades_of_no_message gateway (.occurs occurrence) (fun _ _ => Act.noConfusion)
    (fun _ _ => Act.noConfusion) identity

theorem Desk.fades_attach (desk : Desk) (gateway : Gateway) (handle : Handle)
    (identity : Identity) : gateway.Fades (desk.act gateway (.attach handle)).2 identity :=
  desk.fades_of_no_message gateway (.attach handle) (fun _ _ => Act.noConfusion)
    (fun _ _ => Act.noConfusion) identity

end PadRelay
