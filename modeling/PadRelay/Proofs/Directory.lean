import PadRelay.Directory

/-!
# What a directory knows of a connection

A connection leaves traces in four places: keys, its own list of keys, groups, and the watched
connections. Entering a connection leaves traces of it alone, and forgetting it leaves none, as long
as every key is on the list of its connection.
-/

namespace PadRelay.Directory

section Groups

variable {κ : Type} (directory : Directory κ)

/-- The connection that stands in a group under an identity. -/
def member? (group : String) (id : Identity) : Option Party :=
  (directory.groups.get? group).bind fun members => members.get? id

theorem mem_members_iff (group : String) (party : Party) :
    party ∈ directory.members group ↔ ∃ id, directory.member? group id = some party := by
  unfold members member?
  cases directory.groups.get? group with
  | none => simp
  | some members =>
      simp [Table.values, Table.get?_eq_some_iff]

theorem member_of_watch {id : Identity} (watched : (directory.watch id).1 = false) :
    id ∈ directory.watched := by
  rw [watch] at watched
  split at watched
  · next member => exact member
  · cases watched

/-- A joining connection stands in the group under its own identity, unless another one does. -/
theorem member?_join {group name : String} {party other : Party} {id : Identity}
    (found : (directory.join group party).2.member? name id = some other) :
    other = party ∧ id = party.id ∨ directory.member? name id = some other := by
  unfold join at found
  dsimp only at found
  split at found
  · exact .inr found
  · by_cases same : name = group
    · subst same
      simp only [member?, Table.get?_insert_self, Option.bind_some, Table.get?_insert] at found
      split at found
      · next own =>
          cases found
          exact .inl ⟨rfl, own⟩
      · rw [member?]
        cases held : directory.groups.get? name with
        | none => simp [held] at found
        | some members => exact .inr (by simpa [held] using found)
    · simp only [member?, Table.get?_insert, same, if_false] at found
      exact .inr found

theorem join_keeps (group : String) (party : Party) :
    (directory.join group party).2.byKey = directory.byKey ∧
      (directory.join group party).2.byConnection = directory.byConnection ∧
      (directory.join group party).2.watched = directory.watched := by
  unfold join
  dsimp only
  split <;> exact ⟨rfl, rfl, rfl⟩

end Groups

variable {κ : Type} [DecidableEq κ]

theorem member?_forget (directory : Directory κ) (id other : Identity) (group : String) :
    (directory.forget id).2.member? group other =
      if other = id then none else directory.member? group other := by
  simp only [forget, member?, Table.get?_filter, Table.get?_mapValues]
  cases directory.groups.get? group with
  | none => simp
  | some members =>
      have erased := members.get?_erase id other
      rw [Option.map_some, Option.filter_some]
      split
      · simpa using erased
      · next hollow =>
          have absent : (members.erase id).get? other = none := by
            simp only [Bool.not_eq_true, Bool.not_eq_false', Table.isEmpty,
              List.isEmpty_iff] at hollow
            simp [Table.get?, hollow]
          rw [absent] at erased
          simpa using erased

/-- A connection stands under some key or in some group. -/
inductive Names (directory : Directory κ) (party : Party) : Prop
  | key {key : κ} (found : directory.byKey.get? key = some party)
  | member {group : String} {id : Identity} (found : directory.member? group id = some party)

/-- There is some trace of the connections with an identity. -/
inductive Mentions (directory : Directory κ) (id : Identity) : Prop
  | watched (member : id ∈ directory.watched)
  | keys {keys : List κ} (found : directory.byConnection.get? id = some keys)
  | key {key : κ} {party : Party} (found : directory.byKey.get? key = some party)
      (same : party.id = id)
  | member {group : String} {party : Party} (found : directory.member? group id = some party)

/-- The tables of a directory fit together. -/
structure Linked (directory : Directory κ) : Prop where
  /-- A key is on the list of the connection that it leads to. -/
  key : ∀ {key party}, directory.byKey.get? key = some party → key ∈ directory.keysOf party.id
  /-- A member stands in its group under its own identity. -/
  member : ∀ {group id party}, directory.member? group id = some party → party.id = id

theorem linked_empty : ({} : Directory κ).Linked where
  key found := by cases found
  member found := by cases found

theorem not_mentions_empty (id : Identity) : ¬ ({} : Directory κ).Mentions id := by
  rintro (member | found | ⟨found, -⟩ | found)
  · cases member
  · cases found
  · cases found
  · cases found

variable {directory : Directory κ}

theorem Names.mentions {party : Party} (linked : directory.Linked) (names : directory.Names party) :
    directory.Mentions party.id := by
  cases names with
  | key found => exact .key found rfl
  | member found => exact .member (linked.member found ▸ found)

section Watch

variable {id other : Identity} {party : Party}

theorem Names.of_watch (names : (directory.watch id).2.Names party) : directory.Names party := by
  rw [watch] at names
  split at names
  · exact names
  · cases names with
    | key found => exact .key found
    | member found => exact .member found

theorem Mentions.of_watch (mentions : (directory.watch id).2.Mentions other) :
    other = id ∨ directory.Mentions other := by
  rw [watch] at mentions
  split at mentions
  · exact .inr mentions
  · cases mentions with
    | watched member => exact (List.mem_cons.1 member).imp_right .watched
    | keys found => exact .inr (.keys found)
    | key found same => exact .inr (.key found same)
    | member found => exact .inr (.member found)

theorem Linked.watch (linked : directory.Linked) : (directory.watch id).2.Linked := by
  rw [Directory.watch]
  split
  · exact linked
  · exact ⟨linked.key, linked.member⟩

end Watch

section Join

variable {group : String} {party other : Party} {id : Identity}

/-- A connection is refused only by a group in which its identity stands. -/
theorem mentions_of_refused (refused : (directory.join group party).1 = false) :
    directory.Mentions party.id := by
  unfold join at refused
  dsimp only at refused
  split at refused
  · next present =>
      obtain ⟨holder, found⟩ := (Table.contains_eq_true_iff _ _).1 present
      cases held : directory.groups.get? group with
      | none => simp [held] at found
      | some members =>
          rw [held, Option.getD_some] at found
          exact .member (by rw [member?, held, Option.bind_some, found])
  · cases refused

theorem Names.of_join (names : (directory.join group party).2.Names other) :
    other = party ∨ directory.Names other := by
  cases names with
  | key found =>
      rw [(join_keeps directory group party).1] at found
      exact .inr (.key found)
  | member found => exact (directory.member?_join found).imp And.left .member

theorem Mentions.of_join (mentions : (directory.join group party).2.Mentions id) :
    id = party.id ∨ directory.Mentions id := by
  obtain ⟨same_keys, same_lists, same_watched⟩ :=
    join_keeps directory group party
  cases mentions with
  | watched member => exact .inr (.watched (same_watched ▸ member))
  | keys found => exact .inr (.keys (same_lists ▸ found))
  | key found same => exact .inr (.key (same_keys ▸ found) same)
  | member found => exact (directory.member?_join found).imp And.right .member

theorem Linked.join (linked : directory.Linked) : (directory.join group party).2.Linked := by
  obtain ⟨same_keys, same_lists, -⟩ :=
    join_keeps directory group party
  refine ⟨fun found => ?_, fun found => ?_⟩
  · rw [same_keys] at found
    rw [keysOf, same_lists]
    exact linked.key found
  · rcases directory.member?_join found with ⟨rfl, rfl⟩ | before
    · rfl
    · exact linked.member before

end Join

section Put

variable {key : κ} {party other : Party} {id : Identity}

/-- Taking a key off a list leaves the other keys on every list. -/
theorem mem_unlink (byConnection : Table Identity (List κ)) {kept : κ} (different : kept ≠ key)
    (other : Identity) (member : kept ∈ (byConnection.get? other).getD []) :
    kept ∈ ((unlink byConnection id key).get? other).getD [] := by
  rw [unlink]
  cases found : byConnection.get? id with
  | none => exact member
  | some keys =>
      by_cases same : other = id
      · subst same
        have still : kept ∈ keys.erase key := by
          rw [found] at member
          exact (List.mem_erase_of_ne different).2 member
        have some_left : (keys.erase key).isEmpty = false := by
          cases rest : keys.erase key with
          | nil =>
              rw [rest] at still
              cases still
          | cons first others => rfl
        simpa [some_left] using still
      · dsimp only
        split
        · rwa [Table.get?_erase_of_ne _ same]
        · rwa [Table.get?_insert_of_ne _ _ same]

theorem get?_of_unlink {byConnection : Table Identity (List κ)} {other : Identity} {keys : List κ}
    (found : (unlink byConnection id key).get? other = some keys) :
    ∃ before, byConnection.get? other = some before := by
  rw [unlink] at found
  cases held : byConnection.get? id with
  | none => exact ⟨keys, by simpa [held] using found⟩
  | some before =>
      by_cases same : other = id
      · exact ⟨before, same ▸ held⟩
      · simp only [held] at found
        split at found
        · exact ⟨keys, by rwa [Table.get?_erase_of_ne _ same] at found⟩
        · exact ⟨keys, by rwa [Table.get?_insert_of_ne _ _ same] at found⟩

/-- What the lists of keys are before the entered key is added. -/
def unlinked (directory : Directory κ) (key : κ) (party : Party) : Table Identity (List κ) :=
  match directory.byKey.get? key with
  | some other =>
      if other.id = party.id then directory.byConnection
      else unlink directory.byConnection other.id key
  | none => directory.byConnection

theorem put_snd : (directory.put key party).2 =
    { directory with
      byKey := directory.byKey.insert key party
      byConnection := (directory.unlinked key party).insert party.id
        ((((directory.unlinked key party).get? party.id).getD []).insert key) } := rfl

theorem get?_of_unlinked {keys : List κ}
    (found : (directory.unlinked key party).get? id = some keys) :
    ∃ before, directory.byConnection.get? id = some before := by
  rw [unlinked] at found
  split at found
  · split at found
    · exact ⟨keys, found⟩
    · exact get?_of_unlink found
  · exact ⟨keys, found⟩

theorem mem_unlinked {kept : κ} (different : kept ≠ key) (member : kept ∈ directory.keysOf id) :
    kept ∈ ((directory.unlinked key party).get? id).getD [] := by
  rw [unlinked]
  split
  · split
    · exact member
    · exact mem_unlink _ different _ member
  · exact member

theorem Names.of_put (names : (directory.put key party).2.Names other) :
    other = party ∨ directory.Names other := by
  cases names with
  | key found =>
      rw [put_snd, Table.get?_insert] at found
      split at found
      · cases found
        exact .inl rfl
      · exact .inr (.key found)
  | member found => exact .inr (.member found)

theorem Mentions.of_put (mentions : (directory.put key party).2.Mentions id) :
    id = party.id ∨ directory.Mentions id := by
  cases mentions with
  | watched member => exact .inr (.watched member)
  | keys found =>
      rw [put_snd, Table.get?_insert] at found
      split at found
      · next same => exact .inl same
      · obtain ⟨before, held⟩ := get?_of_unlinked found
        exact .inr (.keys held)
  | key found same =>
      rw [put_snd, Table.get?_insert] at found
      split at found
      · cases found
        exact .inl same.symm
      · exact .inr (.key found same)
  | member found => exact .inr (.member found)

theorem Linked.put (linked : directory.Linked) : (directory.put key party).2.Linked := by
  refine ⟨fun {other_key holder} found => ?_, fun found => linked.member found⟩
  rw [put_snd, Table.get?_insert] at found
  simp only [put_snd, keysOf, Table.get?_insert]
  split at found
  · next same =>
      cases found
      subst same
      simp
  · next different =>
      have before : _ ∈ ((directory.unlinked key party).get? _).getD [] :=
        mem_unlinked different (linked.key found)
      split
      · next same =>
          rw [same] at before
          simpa [different] using before
      · exact before

end Put

section Forget

variable {id other : Identity} {party : Party}

theorem get?_forget {key : κ} (found : (directory.forget id).2.byKey.get? key = some party) :
    directory.byKey.get? key = some party ∧ (key ∈ directory.keysOf id → party.id ≠ id) := by
  simp only [forget, Table.get?_filter, Option.filter_eq_some_iff] at found
  refine ⟨found.1, ?_⟩
  intro member same
  simp [member, same] at found

theorem Names.of_forget (names : (directory.forget id).2.Names party) : directory.Names party := by
  cases names with
  | key found => exact .key (get?_forget found).1
  | member found =>
      rw [member?_forget] at found
      split at found
      · cases found
      · exact .member found

/-- Forgetting leaves no trace of the forgotten connection, and no new trace of any other. -/
theorem Mentions.of_forget (linked : directory.Linked)
    (mentions : (directory.forget id).2.Mentions other) :
    other ≠ id ∧ directory.Mentions other := by
  cases mentions with
  | watched member =>
      simp only [forget, List.mem_filter, decide_eq_true_eq] at member
      exact ⟨member.2, .watched member.1⟩
  | keys found =>
      simp only [forget, Table.get?_erase] at found
      split at found
      · cases found
      · next different => exact ⟨different, .keys found⟩
  | key found same =>
      obtain ⟨before, kept⟩ := get?_forget found
      refine ⟨?_, .key before same⟩
      rintro rfl
      exact kept (same ▸ linked.key before) same
  | member found =>
      rw [member?_forget] at found
      split at found
      · cases found
      · next different => exact ⟨different, .member found⟩

theorem Linked.forget (linked : directory.Linked) : (directory.forget id).2.Linked := by
  refine ⟨fun found => ?_, fun found => ?_⟩
  · obtain ⟨before, kept⟩ := get?_forget found
    have member := linked.key before
    have different : _ ≠ id := fun same => kept (same ▸ member) same
    simpa [Directory.forget, keysOf, Table.get?_erase_of_ne _ different] using member
  · rw [member?_forget] at found
    split at found
    · cases found
    · exact linked.member found

end Forget

end PadRelay.Directory
