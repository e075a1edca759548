/-!
# Finite tables

A table maps finitely many keys to values. It is a list of entries with distinct keys, so that its
size is the number of keys, and every operation is described by what it does to `get?`.
-/

namespace PadRelay

/-- A finite map, as a list of entries with distinct keys. -/
structure Table (κ υ : Type) where
  /-- Keys with their values, most recently written first. -/
  entries : List (κ × υ)
  /-- No key has two entries. -/
  distinct : (entries.map Prod.fst).Nodup

namespace Table

variable {κ υ ω : Type}

/-- The table without entries. -/
def empty : Table κ υ := ⟨[], List.nodup_nil⟩

instance : EmptyCollection (Table κ υ) := ⟨empty⟩

instance : Inhabited (Table κ υ) := ⟨empty⟩

/-- Number of keys. -/
def size (table : Table κ υ) : Nat := table.entries.length

@[simp]
theorem size_empty : (∅ : Table κ υ).size = 0 := rfl

/-- Whether the table has no entry. -/
def isEmpty (table : Table κ υ) : Bool := table.entries.isEmpty

def keys (table : Table κ υ) : List κ := table.entries.map Prod.fst

def values (table : Table κ υ) : List υ := table.entries.map Prod.snd

/-- The entries that satisfy a condition. -/
def filter (condition : κ → υ → Bool) (table : Table κ υ) : Table κ υ :=
  ⟨table.entries.filter fun entry => condition entry.1 entry.2,
    table.distinct.sublist (List.filter_sublist.map Prod.fst)⟩

/-- Every value changed by a function of its key and itself. -/
def mapValues (change : κ → υ → ω) (table : Table κ υ) : Table κ ω :=
  ⟨table.entries.map fun entry => (entry.1, change entry.1 entry.2), by
    simpa [Function.comp_def] using table.distinct⟩

variable [DecidableEq κ]

def get? (table : Table κ υ) (key : κ) : Option υ :=
  (table.entries.find? fun entry => entry.1 = key).map Prod.snd

/-- Whether a key has a value. -/
def contains (table : Table κ υ) (key : κ) : Bool := (table.get? key).isSome

def erase (table : Table κ υ) (key : κ) : Table κ υ :=
  table.filter fun other _ => other ≠ key

def insert (table : Table κ υ) (key : κ) (value : υ) : Table κ υ :=
  ⟨(key, value) :: (table.erase key).entries, by
    rw [List.map_cons, List.nodup_cons]
    exact ⟨by simp [erase, filter], (table.erase key).distinct⟩⟩

/-- The table with the value of a key changed, where it has one. -/
def modify (table : Table κ υ) (key : κ) (change : υ → υ) : Table κ υ :=
  table.mapValues fun other value => if other = key then change value else value

theorem get?_eq_some_iff (table : Table κ υ) (key : κ) (value : υ) :
    table.get? key = some value ↔ (key, value) ∈ table.entries := by
  obtain ⟨entries, distinct⟩ := table
  simp only [get?]
  induction entries with
  | nil => simp
  | cons entry entries induction =>
      obtain ⟨other, held⟩ := entry
      simp only [List.map_cons, List.nodup_cons] at distinct
      by_cases same : other = key
      · subst same
        have absent : ∀ given, (other, given) ∉ entries := fun given member =>
          distinct.1 (List.mem_map.2 ⟨_, member, rfl⟩)
        simp [absent, eq_comm]
      · simp [same, Ne.symm same, induction distinct.2]

theorem get?_eq_none_iff (table : Table κ υ) (key : κ) :
    table.get? key = none ↔ key ∉ table.keys := by
  simp only [get?, keys, Option.map_eq_none_iff, List.find?_eq_none, List.mem_map,
    decide_eq_true_eq]
  exact ⟨fun absent ⟨entry, member, equal⟩ => absent entry member equal,
    fun absent entry member equal => absent ⟨entry, member, equal⟩⟩

@[simp]
theorem get?_empty (key : κ) : (∅ : Table κ υ).get? key = none := rfl

theorem get?_filter (condition : κ → υ → Bool) (table : Table κ υ) (key : κ) :
    (table.filter condition).get? key = (table.get? key).filter (condition key) := by
  apply Option.ext
  intro value
  rw [get?_eq_some_iff, Option.filter_eq_some_iff, get?_eq_some_iff]
  simp [filter]

@[simp]
theorem get?_erase_self (table : Table κ υ) (key : κ) : (table.erase key).get? key = none := by
  rw [erase, get?_filter]
  cases table.get? key <;> simp

theorem get?_erase_of_ne (table : Table κ υ) {key other : κ} (different : other ≠ key) :
    (table.erase key).get? other = table.get? other := by
  rw [erase, get?_filter]
  cases table.get? other <;> simp [different]

theorem get?_erase (table : Table κ υ) (key other : κ) :
    (table.erase key).get? other = if other = key then none else table.get? other := by
  by_cases same : other = key
  · simp [same]
  · simp [same, get?_erase_of_ne]

@[simp]
theorem get?_insert_self (table : Table κ υ) (key : κ) (value : υ) :
    (table.insert key value).get? key = some value := by
  simp [get?, insert]

theorem get?_insert_of_ne (table : Table κ υ) {key other : κ} (value : υ)
    (different : other ≠ key) : (table.insert key value).get? other = table.get? other := by
  rw [← get?_erase_of_ne table different]
  simp [get?, insert, Ne.symm different]

theorem get?_insert (table : Table κ υ) (key other : κ) (value : υ) :
    (table.insert key value).get? other = if other = key then some value else table.get? other := by
  by_cases same : other = key
  · simp [same]
  · simp [same, get?_insert_of_ne]

theorem get?_mapValues (change : κ → υ → ω) (table : Table κ υ) (key : κ) :
    (table.mapValues change).get? key = (table.get? key).map (change key) := by
  obtain ⟨entries, distinct⟩ := table
  simp only [get?, mapValues]
  clear distinct
  induction entries with
  | nil => rfl
  | cons entry entries induction =>
      by_cases same : entry.1 = key
      · simp [same]
      · simpa [same] using induction

theorem get?_modify (table : Table κ υ) (key other : κ) (change : υ → υ) :
    (table.modify key change).get? other =
      if other = key then (table.get? other).map change else table.get? other := by
  rw [modify, get?_mapValues]
  by_cases same : other = key
  · simp [same]
  · simp [same]

@[simp]
theorem contains_eq_true_iff (table : Table κ υ) (key : κ) :
    table.contains key = true ↔ ∃ value, table.get? key = some value := by
  simp [contains, Option.isSome_iff_exists]

/-- Erasing a key with a value takes one entry away. -/
theorem size_erase_of_get? (table : Table κ υ) {key : κ} {value : υ}
    (present : table.get? key = some value) : (table.erase key).size + 1 = table.size := by
  obtain ⟨entries, distinct⟩ := table
  rw [get?_eq_some_iff] at present
  simp only [size, erase, filter] at present ⊢
  induction entries with
  | nil => simp at present
  | cons entry entries induction =>
      simp only [List.map_cons, List.nodup_cons, List.mem_cons] at distinct present
      by_cases same : entry.1 = key
      · have others : ∀ other ∈ entries, other.1 ≠ key := by
          intro other member equal
          exact distinct.1 (List.mem_map.2 ⟨other, member, by rw [equal, same]⟩)
        have kept : entries.filter (fun entry => decide (entry.1 ≠ key)) = entries :=
          List.filter_eq_self.2 fun other member => by simpa using others other member
        simp only [ne_eq, decide_not] at kept
        simp [same, kept]
      · have present_later : (key, value) ∈ entries := by
          rcases present with equal | member
          · exact absurd (congrArg Prod.fst equal).symm same
          · exact member
        have shorter := induction distinct.2 present_later
        simp only [ne_eq, decide_not] at shorter
        simp [same, ← shorter]

/-- Erasing a key takes its entry away, and nothing else. -/
theorem entries_perm_erase (table : Table κ υ) {key : κ} {value : υ}
    (present : table.get? key = some value) :
    table.entries.Perm ((key, value) :: (table.erase key).entries) := by
  have absent (given : υ) : (key, given) ∉ (table.erase key).entries := by
    simp [← get?_eq_some_iff]
  have distinct (other : Table κ υ) : other.entries.Nodup :=
    List.Pairwise.of_map Prod.fst (fun _ _ different same => different (congrArg Prod.fst same))
      other.distinct
  refine (List.perm_ext_iff_of_nodup (distinct table)
    (List.nodup_cons.2 ⟨absent value, distinct _⟩)).2 fun entry => ?_
  obtain ⟨other, given⟩ := entry
  rw [List.mem_cons, ← get?_eq_some_iff, ← get?_eq_some_iff, get?_erase]
  by_cases same : other = key
  · simp [same, present, eq_comm]
  · simp [same]

/-- Erasing a key without a value changes nothing. -/
theorem erase_of_get?_eq_none (table : Table κ υ) {key : κ} (absent : table.get? key = none) :
    table.erase key = table := by
  obtain ⟨entries, distinct⟩ := table
  rw [get?_eq_none_iff] at absent
  simp only [erase, filter, keys, mk.injEq] at absent ⊢
  refine List.filter_eq_self.2 fun entry member => ?_
  have different : entry.1 ≠ key := fun equal => absent (List.mem_map.2 ⟨entry, member, equal⟩)
  simpa using different

@[simp]
theorem size_insert (table : Table κ υ) (key : κ) (value : υ) :
    (table.insert key value).size = (table.erase key).size + 1 := rfl

end Table

end PadRelay
