import PadRelay.Proofs.Gateway.Sweep

/-!
# The log of a directory

The edits that were asked of a directory, in order, decide what it holds: a key leads to the
connection last entered under it, and a group has the connections that have joined it, as far as
nothing took them out since and they are open. Closing connections keeps this true, and an edit
makes it true of the log with that edit.
-/

namespace PadRelay

namespace Gateway

open Directory (Edit)

/-- The directory of a family holds what the log of its edits says. -/
structure Logged (gateway : Gateway) (family : Family) (log : List (Edit ChannelKey)) : Prop where
  dressing : (gateway.layer family).dressing = .sealed
  indexed : (gateway.layer family).directory.Indexed
  knows : ∀ edit ∈ log, ∀ party, edit.party? = some party → gateway.Knows party
  key : ∀ key party, (gateway.layer family).directory.get? key = some party ↔
    gateway.isOpen party.handle = true ∧ Since log (.put key party) (·.Frees key party.id)
  member : ∀ group party, (gateway.layer family).directory.member? group party.id = some party ↔
    gateway.isOpen party.handle = true ∧ Since log (.join group party) (·.Expels group party.id)

namespace Logged

variable {before after : Gateway} {family : Family} {log : List (Edit ChannelKey)}
  {ids : List Identity}

theorem fresh (entropy : Entropy) (expiry : Nat) (family : Family) :
    (Gateway.fresh entropy expiry).Logged family [] where
  dressing := by cases family <;> rfl
  indexed := by cases family <;> exact .empty
  knows edit member := absurd member List.not_mem_nil
  key key party := by
    refine ⟨fun found => ?_, fun since => absurd since.2 not_since_nil⟩
    cases family <;> cases found
  member group party := by
    refine ⟨fun found => ?_, fun since => absurd since.2 not_since_nil⟩
    cases family <;> cases found

theorem knows_key (logged : before.Logged family log) {key : ChannelKey} {party : Party}
    (since : Since log (.put key party) (·.Frees key party.id)) : before.Knows party :=
  logged.knows _ since.mem party rfl

theorem knows_member (logged : before.Logged family log) {group : String} {party : Party}
    (since : Since log (.join group party) (·.Expels group party.id)) : before.Knows party :=
  logged.knows _ since.mem party rfl

/-- A directory that is revised holds what a log says if the change makes it so for the connections
that are open afterwards. -/
theorem of_revises {change : Directory ChannelKey → Directory ChannelKey}
    (revises : before.Revises family change after) (sound : after.Sound [] none)
    (lists : after.Lists ids) (distinct : ids.Nodup)
    (dressing : (before.layer family).dressing = .sealed)
    (indexed : (change (before.layer family).directory).Indexed)
    (knows : ∀ edit ∈ log, ∀ party, edit.party? = some party → after.Knows party)
    (keys : ∀ key party, after.isOpen party.handle = true →
      ((change (before.layer family).directory).get? key = some party ↔
        Since log (.put key party) (·.Frees key party.id)))
    (members : ∀ group party, after.isOpen party.handle = true →
      ((change (before.layer family).directory).member? group party.id = some party ↔
        Since log (.join group party) (·.Expels group party.id))) :
    after.Logged family log where
  dressing := revises.dressing.trans dressing
  indexed := revises.sweeps.indexed indexed
  knows := knows
  key key party := by
    constructor
    · intro found
      have known := sound.knows party (.directory (.key found))
      obtain ⟨isOpen, changed⟩ := (revises.get?_iff sound lists distinct known key).1 found
      exact ⟨isOpen, (keys key party isOpen).1 changed⟩
    · rintro ⟨isOpen, since⟩
      have known := knows _ since.mem party rfl
      exact (revises.get?_iff sound lists distinct known key).2
        ⟨isOpen, (keys key party isOpen).2 since⟩
  member group party := by
    constructor
    · intro found
      have known := sound.knows party (.directory (.member found))
      obtain ⟨isOpen, changed⟩ := (revises.member?_iff sound lists distinct known group).1 found
      exact ⟨isOpen, (members group party isOpen).1 changed⟩
    · rintro ⟨isOpen, since⟩
      have known := knows _ since.mem party rfl
      exact (revises.member?_iff sound lists distinct known group).2
        ⟨isOpen, (members group party isOpen).2 since⟩

/-- What holds of the connections that are open holds of those that stay open. -/
theorem keep (logged : before.Logged family log) (revises : before.Revises family id after)
    (sound : after.Sound [] none) (lists : after.Lists ids) (distinct : ids.Nodup) :
    after.Logged family log := by
  refine of_revises revises sound lists distinct logged.dressing logged.indexed
    (fun edit member party brings => revises.knows party (logged.knows edit member party brings))
    (fun key party isOpen => ?_) (fun group party isOpen => ?_)
  · refine ⟨fun found => ((logged.key key party).1 found).2, fun since => ?_⟩
    exact (logged.key key party).2
      ⟨revises.opened party (logged.knows_key since) isOpen, since⟩
  · refine ⟨fun found => ((logged.member group party).1 found).2, fun since => ?_⟩
    exact (logged.member group party).2
      ⟨revises.opened party (logged.knows_member since) isOpen, since⟩

/-- An edit is added to the log. -/
theorem edit (logged : before.Logged family log) (edit : Edit ChannelKey)
    (brings : ∀ party, edit.party? = some party → before.Knows party)
    (revises : before.Revises family edit.apply after) (sound : after.Sound [] none)
    (lists : after.Lists ids) (distinct : ids.Nodup) : after.Logged family (log ++ [edit]) := by
  have knows : ∀ other ∈ log ++ [edit], ∀ party, other.party? = some party →
      before.Knows party := by
    intro other member party found
    rcases List.mem_append.1 member with earlier | last
    · exact logged.knows other earlier party found
    · rw [List.mem_singleton.1 last] at found
      exact brings party found
  -- A connection that joins a group finds nobody else there under its identity.
  have alone : ∀ name joined holder, edit = .join name joined →
      (before.layer family).directory.member? name joined.id = some holder → holder = joined := by
    intro name joined holder equal found
    have own := logged.indexed.own found
    have since := ((logged.member name holder).1 (own ▸ found)).2
    have known_holder := revises.knows holder (logged.knows_member since)
    have known_joined := revises.knows joined (brings joined (by rw [equal]; rfl))
    exact lists.party_eq distinct known_holder known_joined own
  refine of_revises revises sound lists distinct logged.dressing
    (Edit.indexed_apply logged.indexed edit)
    (fun other member party found => revises.knows party (knows other member party found))
    (fun key party isOpen => ?_) (fun group party isOpen => ?_)
  · rw [Edit.get?_apply logged.indexed, since_append_singleton]
    refine or_congr_right (and_congr_left fun _ => ⟨fun found => ?_, fun since => ?_⟩)
    · exact ((logged.key key party).1 found).2
    · exact (logged.key key party).2
        ⟨revises.opened party (logged.knows_key since) isOpen, since⟩
  · rw [Edit.member?_apply _ alone, since_append_singleton]
    refine or_congr_right (and_congr_left fun _ => ⟨fun found => ?_, fun since => ?_⟩)
    · exact ((logged.member group party).1 found).2
    · exact (logged.member group party).2
        ⟨revises.opened party (logged.knows_member since) isOpen, since⟩

end Logged

end Gateway

end PadRelay
