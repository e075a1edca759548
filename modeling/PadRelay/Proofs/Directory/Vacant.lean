import PadRelay.Proofs.Directory.Edit

/-!
# Who stands in a directory

The list of all connections of a directory has every identity that stands under some key or in some
group, and nobody else. A directory in which nobody stands has no key, no list of keys and no group.
-/

namespace PadRelay

theorem Table.mem_values_iff {κ υ : Type} [DecidableEq κ] (table : Table κ υ) (value : υ) :
    value ∈ table.values ↔ ∃ key, table.get? key = some value := by
  simp [values, get?_eq_some_iff]

namespace Directory

variable {κ : Type} {directory : Directory κ} {party : Party}

/-- Of the connections with one identity the last one is kept. -/
theorem get?_collect (parties : List Party) (start : Table Identity Party) (id : Identity) :
    (parties.foldl (fun found party => found.insert party.id party) start).get? id =
      (parties.reverse.find? fun party => party.id = id).or (start.get? id) := by
  induction parties generalizing start with
  | nil => rfl
  | cons party parties induction =>
      rw [List.foldl_cons, induction, List.reverse_cons, List.find?_append, Table.get?_insert]
      by_cases same : party.id = id
      · simp [same]
      · simp [same, Ne.symm same]

theorem mem_connections_iff :
    party ∈ directory.connections ↔
      ∃ id, ((directory.byKey.values ++
        directory.groups.values.flatMap Table.values).reverse.find? fun party => party.id = id) =
          some party := by
  rw [connections, Table.mem_values_iff]
  simp only [get?_collect, Table.get?_empty, Option.or_none]

variable [DecidableEq κ]

theorem mem_standing_iff :
    party ∈ directory.byKey.values ++ directory.groups.values.flatMap Table.values ↔
      directory.Names party := by
  simp only [List.mem_append, List.mem_flatMap, Table.mem_values_iff]
  constructor
  · rintro (⟨key, found⟩ | ⟨members, ⟨group, found⟩, id, member⟩)
    · exact .key found
    · have held : directory.member? group id = some party := by
        rw [member?, found, Option.bind_some, member]
      exact .member held
  · rintro (⟨found⟩ | ⟨found⟩)
    · exact .inl ⟨_, found⟩
    · rw [member?, Option.bind_eq_some_iff] at found
      obtain ⟨members, found, member⟩ := found
      exact .inr ⟨members, ⟨_, found⟩, _, member⟩

theorem names_of_mem_connections (member : party ∈ directory.connections) :
    directory.Names party := by
  obtain ⟨id, found⟩ := mem_connections_iff.1 member
  exact mem_standing_iff.1 (List.mem_reverse.1 (List.mem_of_find?_eq_some found))

/-- Whoever stands in the directory is listed, or another connection with the same identity is. -/
theorem exists_mem_connections (names : directory.Names party) :
    ∃ other ∈ directory.connections, other.id = party.id := by
  have standing := List.mem_reverse.2 (mem_standing_iff.2 names)
  have present : ((directory.byKey.values ++
      directory.groups.values.flatMap Table.values).reverse.find? fun other =>
        other.id = party.id).isSome = true := by
    rw [List.find?_isSome]
    exact ⟨party, standing, by simp⟩
  obtain ⟨other, found⟩ := Option.isSome_iff_exists.1 present
  exact ⟨other, mem_connections_iff.2 ⟨party.id, found⟩, by simpa using List.find?_some found⟩

/-- Nothing is kept in a directory. -/
structure Vacant (directory : Directory κ) : Prop where
  key : ∀ key, directory.byKey.get? key = none
  list : ∀ id, directory.byConnection.get? id = none
  group : ∀ group, directory.groups.get? group = none

/-- Nothing is kept for nobody. -/
theorem Indexed.vacant (indexed : directory.Indexed) (nobody : ∀ party, ¬ directory.Names party) :
    directory.Vacant := by
  have keyless (key : κ) : directory.byKey.get? key = none := by
    cases found : directory.byKey.get? key with
    | none => rfl
    | some party => exact absurd (.key found) (nobody party)
  refine ⟨keyless, fun id => ?_, fun group => ?_⟩
  · cases found : directory.byConnection.get? id with
    | none => rfl
    | some keys =>
        cases keys with
        | nil => exact absurd found (indexed.orderly.nonempty id)
        | cons key keys =>
            have listed : key ∈ directory.keysOf id := by
              rw [keysOf, found]
              exact List.mem_cons_self
            obtain ⟨party, held, -⟩ := (indexed.key key id).1 listed
            exact absurd (.key held) (nobody party)
  · cases found : directory.groups.get? group with
    | none => rfl
    | some members =>
        have peopled := indexed.peopled group members found
        obtain ⟨entries, distinct⟩ := members
        cases entries with
        | nil => cases peopled
        | cons entry entries =>
            have held : directory.member? group entry.1 = some entry.2 := by
              rw [member?, found, Option.bind_some]
              simp [Table.get?]
            exact absurd (.member held) (nobody entry.2)

theorem Vacant.forget (vacant : directory.Vacant) (id : Identity) :
    (directory.forget id).2.Vacant := by
  constructor
  · intro key
    rw [Directory.forget, Table.get?_filter, vacant.key]
    rfl
  · intro other
    rw [Directory.forget, Table.get?_erase, vacant.list, ite_self]
  · intro group
    rw [Directory.forget, Table.get?_filter, Table.get?_mapValues, vacant.group]
    rfl

end Directory

end PadRelay
