import PadRelay.Key.Staged

/-!
# Staged keys, one entry at a time

What each operation on staged keys leaves of the entry and of the retired key of an identity. Only
staging makes a new entry, and its generation is new; everything else leaves an entry as it is or
takes it away.
-/

namespace PadRelay.StagedKeys

variable (keys : StagedKeys) (now : Nat) (identity other : Identity)

/-- The staged key of an identity that is still in time. -/
def live : Option StagedKey :=
  ((keys.entries.get? identity).filter fun staging => staging.isLive now).map Staging.held

theorem live_congr {before after : StagedKeys} {now : Nat} {identity : Identity}
    (same : after.entries.get? identity = before.entries.get? identity) :
    after.live now identity = before.live now identity := by
  rw [live, same, live]

theorem live_of_absent {keys : StagedKeys} {identity : Identity}
    (absent : keys.entries.get? identity = none) (now : Nat) : keys.live now identity = none := by
  rw [live, absent]
  rfl

theorem live_of_entry {keys : StagedKeys} {now : Nat} {identity : Identity} {staging : Staging}
    (found : keys.entries.get? identity = some staging) (inTime : staging.isLive now = true) :
    keys.live now identity = some staging.held := by
  rw [live, found, Option.filter_some, if_pos inTime]
  rfl

theorem live_of_live_later {keys : StagedKeys} {now later : Nat} {identity : Identity}
    {held : StagedKey} (order : now ≤ later) (still : keys.live later identity = some held) :
    keys.live now identity = some held := by
  rw [live] at still
  rw [Option.map_eq_some_iff] at still
  obtain ⟨staging, kept, rfl⟩ := still
  rw [Option.filter_eq_some_iff] at kept
  obtain ⟨found, inTime⟩ := kept
  refine live_of_entry found ?_
  simp only [Staging.isLive, decide_eq_true_eq] at inTime ⊢
  omega

theorem get_fst : (keys.get now identity).1 = keys.live now identity := by
  rw [get, live]
  cases keys.entries.get? identity with
  | none => rfl
  | some staging => by_cases inTime : staging.isLive now <;> simp [Option.filter_some, inTime]

/-- The timer of a staging goes off. It does nothing unless that staging is still there and
overdue. -/
def ring (generation : Nat) : StagedKeys :=
  match keys.entries.get? identity with
  | some staging =>
      if staging.generation = generation && !staging.isLive now then
        keys.expire identity generation
      else keys
  | none => keys

theorem expireDue_of_live {staging : Staging} (found : keys.entries.get? identity = some staging)
    (inTime : staging.isLive now = true) : keys.expireDue now identity = keys := by
  simp [expireDue, found, inTime]

theorem expireDue_of_overdue {staging : Staging}
    (found : keys.entries.get? identity = some staging) (overdue : staging.isLive now = false) :
    keys.expireDue now identity =
      { keys with
        entries := keys.entries.erase identity
        retired := keys.retired.insert identity staging.held
        expired := keys.expired + 1 } := by
  simp [expireDue, expire, found, overdue]

theorem expireDue_of_absent (absent : keys.entries.get? identity = none) :
    keys.expireDue now identity = keys := by
  simp [expireDue, absent]

theorem get?_entries_expireDue :
    (keys.expireDue now identity).entries.get? other =
      if other = identity then
        (keys.entries.get? identity).filter fun staging => staging.isLive now
      else keys.entries.get? other := by
  cases found : keys.entries.get? identity with
  | none =>
      rw [expireDue_of_absent keys now identity found]
      split <;> simp_all
  | some staging =>
      cases inTime : staging.isLive now with
      | true =>
          rw [expireDue_of_live keys now identity found inTime]
          split <;> simp_all [Option.filter_some]
      | false =>
          rw [expireDue_of_overdue keys now identity found inTime]
          simp [Table.get?_erase, Option.filter_some, inTime]

@[simp]
theorem live_expireDue : (keys.expireDue now identity).live now other = keys.live now other := by
  unfold live
  rw [get?_entries_expireDue]
  split
  · next same =>
      subst same
      cases keys.entries.get? other <;> simp
  · rfl

theorem retired_expireDue_of_absent (absent : keys.entries.get? other = none)
    (none_retired : keys.retired.get? other = none) :
    (keys.expireDue now identity).retired.get? other = none := by
  cases found : keys.entries.get? identity with
  | none => rwa [expireDue_of_absent keys now identity found]
  | some staging =>
      have different : other ≠ identity := by
        rintro rfl
        rw [absent] at found
        cases found
      cases inTime : staging.isLive now with
      | true => rwa [expireDue_of_live keys now identity found inTime]
      | false =>
          rw [expireDue_of_overdue keys now identity found inTime]
          exact (Table.get?_insert_of_ne _ _ different).trans none_retired

/-- A key that is retired after a look at its identity was retired before, or was staged. -/
theorem retired_or_staged_of_expireDue {keys : StagedKeys} {now : Nat} {identity : Identity}
    {held : StagedKey} (found : (keys.expireDue now identity).retired.get? identity = some held) :
    keys.retired.get? identity = some held ∨
      ∃ staging, keys.entries.get? identity = some staging ∧ staging.held = held := by
  cases entry : keys.entries.get? identity with
  | none => exact .inl (expireDue_of_absent keys now identity entry ▸ found)
  | some staging =>
      cases inTime : staging.isLive now with
      | true => exact .inl (expireDue_of_live keys now identity entry inTime ▸ found)
      | false =>
          rw [expireDue_of_overdue keys now identity entry inTime] at found
          exact .inr ⟨staging, rfl, Option.some.inj ((Table.get?_insert_self _ _ _).symm.trans found)⟩

@[simp]
theorem expiry_expireDue : (keys.expireDue now identity).expiry = keys.expiry := by
  unfold expireDue expire
  grind

@[simp]
theorem generation_expireDue : (keys.expireDue now identity).generation = keys.generation := by
  unfold expireDue expire
  grind

def stages (generation : Nat) : Bool :=
  (keys.entries.get? identity).any (·.generation = generation)

/-- The timer of a staging that is still there is a look at its key. -/
theorem ring_eq_ite (generation : Nat) :
    keys.ring now identity generation =
      if keys.stages identity generation then keys.expireDue now identity else keys := by
  rw [ring, expireDue, stages]
  cases keys.entries.get? identity with
  | none => rfl
  | some staging =>
      by_cases named : staging.generation = generation
      · subst named
        cases inTime : staging.isLive now <;> simp [inTime]
      · simp [named]

theorem ring_eq (generation : Nat) :
    keys.ring now identity generation = keys ∨
      keys.ring now identity generation = keys.expireDue now identity := by
  rw [ring_eq_ite]
  split
  · exact .inr rfl
  · exact .inl rfl

theorem remove_snd :
    (keys.remove now identity).2 =
      { keys with
        entries := keys.entries.erase identity
        retired := keys.retired.erase identity } := by
  rw [remove]
  cases keys.entries.get? identity <;> rfl

theorem takeIf_eq_some {expected taken : StagedKey} {rest : StagedKeys}
    (took : keys.takeIf now identity expected = (some taken, rest)) :
    ∃ staging, keys.entries.get? identity = some staging ∧ staging.isLive now = true ∧
      staging.held = taken ∧
      rest = { keys with
        entries := keys.entries.erase identity
        retired := keys.retired.erase identity } := by
  rw [takeIf] at took
  split at took
  · next staging found =>
      split at took
      · next fits =>
          cases took
          rw [Bool.and_eq_true] at fits
          exact ⟨staging, found, fits.2, rfl, rfl⟩
      · cases took
  · cases took

theorem takeIf_eq_none {expected : StagedKey} {rest : StagedKeys}
    (took : keys.takeIf now identity expected = (none, rest)) : rest = keys := by
  rw [takeIf] at took
  split at took
  · split at took <;> cases took
    rfl
  · cases took
    rfl

theorem get?_entries_put (key : Key) :
    (keys.put now identity key).entries.get? other =
      if other = identity then
        some ⟨⟨key, keys.generation⟩, now + keys.expiry, keys.generation⟩
      else keys.entries.get? other := by
  simp [put, putHeld, Table.get?_insert]

theorem retired_put_of_ne (key : Key) (different : other ≠ identity) :
    (keys.put now identity key).retired.get? other = keys.retired.get? other := by
  rw [put, putHeld]
  cases keys.entries.get? identity with
  | none => exact Table.get?_erase_of_ne _ different
  | some previous => exact Table.get?_insert_of_ne _ _ different

end PadRelay.StagedKeys
