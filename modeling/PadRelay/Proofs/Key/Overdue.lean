import PadRelay.Proofs.Key.Staged

/-!
# Overdue keys and their timers

A timer that is due retires its key. Until it has run, the key is still entered, but a lookup takes
it for retired all the same. So two stores of staged keys that differ only in which due timers have
run show the same to every operation but one: staging over an overdue key retires it, where staging
after its timer drops it.
-/

namespace PadRelay.StagedKeys

variable (keys : StagedKeys) (now : Nat) (identity other : Identity)

/-- What a store shows of an identity: its staging in time, and its retired key, which is the staged
one if that is overdue. -/
def shown : Option Staging × Option StagedKey :=
  match keys.entries.get? identity with
  | some staging =>
      if staging.isLive now then (some staging, keys.retired.get? identity)
      else (none, some staging.held)
  | none => (none, keys.retired.get? identity)

/-- Whether an identity has no overdue key that its timer has left. -/
def IsTidy : Prop :=
  ∀ staging, keys.entries.get? identity = some staging → staging.isLive now = true

theorem shown_of_isTidy {keys : StagedKeys} {now : Nat} {identity : Identity}
    (tidy : keys.IsTidy now identity) :
    keys.shown now identity = (keys.entries.get? identity, keys.retired.get? identity) := by
  rw [shown]
  cases found : keys.entries.get? identity with
  | none => rfl
  | some staging => exact if_pos (tidy staging found)

theorem live_eq_shown : keys.live now identity = (keys.shown now identity).1.map Staging.held := by
  rw [live, shown]
  cases keys.entries.get? identity with
  | none => rfl
  | some staging =>
      by_cases inTime : staging.isLive now = true <;> simp [Option.filter_some, inTime]

theorem live_of_isTidy {keys : StagedKeys} {now : Nat} {identity : Identity}
    (tidy : keys.IsTidy now identity) :
    keys.live now identity = (keys.entries.get? identity).map Staging.held := by
  rw [live_eq_shown, shown_of_isTidy tidy]

/-- Running a timer that is due shows nothing new. -/
theorem shown_expireDue : (keys.expireDue now identity).shown now other = keys.shown now other := by
  cases found : keys.entries.get? identity with
  | none => rw [expireDue_of_absent keys now identity found]
  | some staging =>
      cases inTime : staging.isLive now with
      | true => rw [expireDue_of_live keys now identity found inTime]
      | false =>
          rw [expireDue_of_overdue keys now identity found inTime]
          by_cases same : other = identity
          · subst same
            simp [shown, found, inTime]
          · simp [shown, Table.get?_erase_of_ne _ same, Table.get?_insert_of_ne _ _ same]

theorem shown_later {later : Nat} (order : now ≤ later) :
    keys.shown later identity =
      match keys.shown now identity with
      | (some staging, retired) =>
          if staging.isLive later then (some staging, retired) else (none, some staging.held)
      | (none, retired) => (none, retired) := by
  have overdue_later (staging : Staging) (overdue : staging.isLive now = false) :
      staging.isLive later = false := by
    simp only [Staging.isLive, decide_eq_false_iff_not] at overdue ⊢
    omega
  rw [shown, shown]
  cases keys.entries.get? identity with
  | none => rfl
  | some staging =>
      cases inTime : staging.isLive now with
      | true => simp [inTime]
      | false => simp [inTime, overdue_later staging inTime]

theorem shown_remove :
    (keys.remove now identity).2.shown now other =
      if other = identity then (none, none) else keys.shown now other := by
  rw [remove_snd]
  split
  · next same => simp [shown, same]
  · next different => simp [shown, Table.get?_erase_of_ne _ different]

theorem takeIf_eq (expected : StagedKey) :
    keys.takeIf now identity expected =
      match (keys.shown now identity).1 with
      | some staging =>
          if staging.held.stamp = expected.stamp then
            (some staging.held, (keys.remove now identity).2)
          else (none, keys)
      | none => (none, keys) := by
  rw [takeIf, shown, remove_snd]
  cases keys.entries.get? identity with
  | none => rfl
  | some staging => by_cases inTime : staging.isLive now = true <;> simp [inTime]

/-- A new staging is shown, and the key that it replaces is retired, overdue or not. -/
theorem shown_put (key : Key) :
    (keys.put now identity key).shown now other =
      if other = identity then
        let staging : Staging :=
          ⟨⟨key, keys.generation⟩, now + keys.expiry, keys.generation⟩
        if staging.isLive now then
          (some staging, (keys.entries.get? identity).map Staging.held)
        else (none, some staging.held)
      else keys.shown now other := by
  have entry := keys.get?_entries_put now identity other key
  split
  · next same =>
      subst same
      have retired : (keys.put now other key).retired.get? other =
          (keys.entries.get? other).map Staging.held := by
        rw [put, putHeld]
        cases keys.entries.get? other <;> simp
      rw [if_pos rfl] at entry
      simp only [shown, entry, retired]
  · next different =>
      rw [if_neg different] at entry
      rw [shown, entry, retired_put_of_ne keys now identity other key different, shown]

namespace IsTidy

variable {keys : StagedKeys} {now : Nat} {other : Identity}

theorem remove (tidy : keys.IsTidy now other) (identity : Identity) :
    (keys.remove now identity).2.IsTidy now other := by
  intro staging found
  rw [remove_snd] at found
  by_cases same : other = identity
  · simp [same] at found
  · simp only [Table.get?_erase_of_ne _ same] at found
    exact tidy staging found

theorem expireDue (tidy : keys.IsTidy now other) (identity : Identity) :
    (keys.expireDue now identity).IsTidy now other := by
  intro staging found
  rw [get?_entries_expireDue] at found
  split at found
  · exact (Option.filter_eq_some_iff.1 found).2
  · exact tidy staging found

theorem put (tidy : keys.IsTidy now other) (positive : 0 < keys.expiry) (identity : Identity)
    (key : Key) : (keys.put now identity key).IsTidy now other := by
  intro staging found
  rw [get?_entries_put] at found
  split at found
  · cases found
    exact decide_eq_true (Nat.lt_add_of_pos_right positive)
  · exact tidy staging found

end IsTidy

theorem isTidy_expireDue : (keys.expireDue now identity).IsTidy now identity := by
  intro staging found
  rw [get?_entries_expireDue, if_pos rfl, Option.filter_eq_some_iff] at found
  exact found.2

/-- Two stores show the same of every identity and stage alike. The given identities have no overdue
key in either. -/
structure Agrees (tidy : Identity → Prop) (left right : StagedKeys) (now : Nat) : Prop where
  /-- Keys live equally long. -/
  expiry : left.expiry = right.expiry
  /-- The next staging has the same number. -/
  generation : left.generation = right.generation
  /-- Every identity is shown alike. -/
  shown : ∀ identity, left.shown now identity = right.shown now identity
  /-- Keys live at all. -/
  positive : 0 < left.expiry
  /-- There are no overdue keys on the left. -/
  left_tidy : ∀ identity, tidy identity → left.IsTidy now identity
  /-- There are no overdue keys on the right. -/
  right_tidy : ∀ identity, tidy identity → right.IsTidy now identity

namespace Agrees

variable {tidy : Identity → Prop} {left right : StagedKeys} {now identity}

theorem weaken {fewer : Identity → Prop} (agrees : left.Agrees tidy right now)
    (less : ∀ identity, fewer identity → tidy identity) : left.Agrees fewer right now :=
  { agrees with
    left_tidy := fun identity chosen => agrees.left_tidy identity (less identity chosen)
    right_tidy := fun identity chosen => agrees.right_tidy identity (less identity chosen) }

theorem symm (agrees : left.Agrees tidy right now) : right.Agrees tidy left now where
  expiry := agrees.expiry.symm
  generation := agrees.generation.symm
  shown identity := (agrees.shown identity).symm
  positive := agrees.expiry ▸ agrees.positive
  left_tidy := agrees.right_tidy
  right_tidy := agrees.left_tidy

theorem ring (agrees : left.Agrees (fun _ => False) right now) (identity : Identity)
    (generation : Nat) : (left.ring now identity generation).Agrees (fun _ => False) right now := by
  rcases left.ring_eq now identity generation with same | same
  · rwa [same]
  · rw [same]
    exact ⟨by simpa using agrees.expiry, by simpa using agrees.generation,
      fun other => (left.shown_expireDue now identity other).trans (agrees.shown other),
      by simpa using agrees.positive, fun _ => False.elim, fun _ => False.elim⟩

theorem later (agrees : left.Agrees tidy right now) {later : Nat} (order : now ≤ later) :
    left.Agrees (fun _ => False) right later where
  expiry := agrees.expiry
  generation := agrees.generation
  shown identity := by
    rw [left.shown_later now identity order, right.shown_later now identity order,
      agrees.shown identity]
  positive := agrees.positive
  left_tidy _ := False.elim
  right_tidy _ := False.elim

theorem remove (agrees : left.Agrees tidy right now) (identity : Identity) :
    (left.remove now identity).2.Agrees tidy (right.remove now identity).2 now where
  expiry := by simpa only [remove_snd] using agrees.expiry
  generation := by simpa only [remove_snd] using agrees.generation
  shown other := by rw [shown_remove, shown_remove, agrees.shown other]
  positive := by simpa only [remove_snd] using agrees.positive
  left_tidy other chosen := (agrees.left_tidy other chosen).remove identity
  right_tidy other chosen := (agrees.right_tidy other chosen).remove identity

/-- Looking at an identity leaves it without an overdue key. -/
theorem expireDue (agrees : left.Agrees tidy right now) (identity : Identity) :
    (left.expireDue now identity).Agrees (fun other => tidy other ∨ other = identity)
      (right.expireDue now identity) now where
  expiry := by simpa using agrees.expiry
  generation := by simpa using agrees.generation
  shown other := by rw [shown_expireDue, shown_expireDue, agrees.shown other]
  positive := by simpa using agrees.positive
  left_tidy := by
    rintro other (chosen | rfl)
    · exact (agrees.left_tidy other chosen).expireDue identity
    · exact left.isTidy_expireDue now other
  right_tidy := by
    rintro other (chosen | rfl)
    · exact (agrees.right_tidy other chosen).expireDue identity
    · exact right.isTidy_expireDue now other

theorem live (agrees : left.Agrees tidy right now) (identity : Identity) :
    left.live now identity = right.live now identity := by
  rw [live_eq_shown, live_eq_shown, agrees.shown identity]

/-- The raw store of an identity without overdue keys is what is shown of it. -/
theorem raw (agrees : left.Agrees tidy right now) (chosen : tidy identity) :
    left.entries.get? identity = right.entries.get? identity ∧
      left.retired.get? identity = right.retired.get? identity := by
  have same := agrees.shown identity
  rw [shown_of_isTidy (agrees.left_tidy identity chosen),
    shown_of_isTidy (agrees.right_tidy identity chosen), Prod.mk.injEq] at same
  exact same

/-- Taking a key out succeeds in both stores or in none. -/
theorem takeIf (agrees : left.Agrees tidy right now) (identity : Identity) (expected : StagedKey) :
    (left.takeIf now identity expected).1 = (right.takeIf now identity expected).1 ∧
      (left.takeIf now identity expected).2.Agrees tidy
        (right.takeIf now identity expected).2 now := by
  rw [takeIf_eq, takeIf_eq, agrees.shown identity]
  cases (right.shown now identity).1 with
  | none => exact ⟨rfl, agrees⟩
  | some staging =>
      by_cases same : staging.held.stamp = expected.stamp
      · simpa [same] using agrees.remove identity
      · simpa [same] using agrees

/-- Staging for an identity without overdue keys. -/
theorem put (agrees : left.Agrees tidy right now) (chosen : tidy identity) (key : Key) :
    (left.put now identity key).Agrees tidy (right.put now identity key) now where
  expiry := agrees.expiry
  generation := congrArg (· + 1) agrees.generation
  shown other := by
    rw [shown_put, shown_put, (agrees.raw chosen).1, agrees.expiry, agrees.generation,
      agrees.shown other]
  positive := agrees.positive
  left_tidy other also := (agrees.left_tidy other also).put agrees.positive identity key
  right_tidy other also :=
    (agrees.right_tidy other also).put (agrees.expiry ▸ agrees.positive) identity key

theorem clear (agrees : left.Agrees tidy right now) :
    left.clear.Agrees tidy right.clear now where
  expiry := agrees.expiry
  generation := agrees.generation
  shown _ := rfl
  positive := agrees.positive
  left_tidy _ _ _ found := by cases found
  right_tidy _ _ _ found := by cases found

end Agrees

end PadRelay.StagedKeys
