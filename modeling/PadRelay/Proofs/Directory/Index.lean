import Mathlib.Data.List.Nodup
import PadRelay.Proofs.Directory

/-!
# The directory as an index

Read one way a directory tells the connection under a key, read the other way the keys of a
connection. Every operation is described by what it does to both readings and to the groups. None of
them lets the two readings differ, lists a key twice, or keeps a list or a group that is empty.
-/

namespace PadRelay.Directory

section Groups

variable {κ : Type} (directory : Directory κ) (group name : String) (id other : Identity)

/-- A joining connection takes the place under its identity, if that is free. -/
theorem member?_join_eq (party : Party) :
    (directory.join group party).2.member? name id =
      if name = group ∧ id = party.id then
        some ((directory.member? name id).getD party)
      else directory.member? name id := by
  have place : ((directory.groups.get? group).getD ∅).get? id = directory.member? group id := by
    rw [member?]
    cases directory.groups.get? group <;> rfl
  by_cases same : name = group
  · subst same
    unfold join
    dsimp only
    split
    · next taken =>
        obtain ⟨holder, found⟩ := (Table.contains_eq_true_iff _ _).1 taken
        split
        · next own =>
            obtain ⟨-, rfl⟩ := own
            rw [place] at found
            rw [found, Option.getD_some]
        · rfl
    · next free =>
        have joined : ({ directory with
            groups := directory.groups.insert name
              (((directory.groups.get? name).getD ∅).insert party.id party) } :
                Directory κ).member? name id =
            if id = party.id then some party else directory.member? name id := by
          rw [member?, Table.get?_insert_self, Option.bind_some, Table.get?_insert, place]
        rw [joined]
        split
        · next own =>
            subst own
            have absent : directory.member? name party.id = none := by
              rw [← place]
              simpa [Table.contains] using free
            rw [if_pos ⟨rfl, rfl⟩, absent, Option.getD_none]
        · next foreign => rw [if_neg fun both => foreign both.2]
  · rw [if_neg fun both => same both.1]
    unfold join
    dsimp only
    split
    · rfl
    · simp only [member?, Table.get?_insert_of_ne _ _ same]

/-- A leaving connection gives up its place, and the others keep theirs. -/
theorem member?_leave :
    (directory.leave group id).2.member? name other =
      if name = group ∧ other = id then none else directory.member? name other := by
  unfold leave
  cases found : directory.groups.get? group with
  | none =>
      have absent : directory.member? group other = none := by rw [member?, found, Option.bind_none]
      by_cases both : name = group ∧ other = id
      · rw [if_pos both, both.1]
        exact absent
      · rw [if_neg both]
  | some members =>
      by_cases same : name = group
      · subst same
        have erased : ((if (members.erase id).isEmpty then directory.groups.erase name
            else directory.groups.insert name (members.erase id)).get? name).bind
              (fun members => members.get? other) = (members.erase id).get? other := by
          split
          · next hollow =>
              have nothing : (members.erase id).entries = [] := by
                simpa [Table.isEmpty] using hollow
              rw [Table.get?_erase_self, Option.bind_none, Table.get?, nothing]
              rfl
          · rw [Table.get?_insert_self, Option.bind_some]
        dsimp only
        rw [member?, erased, Table.get?_erase, member?, found, Option.bind_some]
        simp
      · rw [if_neg fun both => same both.1]
        dsimp only
        rw [member?, member?]
        congr 1
        split
        · exact Table.get?_erase_of_ne _ same
        · exact Table.get?_insert_of_ne _ _ same

theorem leave_keeps :
    (directory.leave group id).2.byKey = directory.byKey ∧
      (directory.leave group id).2.byConnection = directory.byConnection ∧
      (directory.leave group id).2.watched = directory.watched := by
  unfold leave
  split <;> exact ⟨rfl, rfl, rfl⟩

theorem watch_keeps :
    (directory.watch id).2.byKey = directory.byKey ∧
      (directory.watch id).2.byConnection = directory.byConnection ∧
      (directory.watch id).2.groups = directory.groups := by
  unfold watch
  split <;> exact ⟨rfl, rfl, rfl⟩

/-- No group without members is kept. -/
def Peopled : Prop :=
  ∀ group members, directory.groups.get? group = some members → members.isEmpty = false

variable {directory} {group id}

theorem Peopled.join (peopled : directory.Peopled) (party : Party) :
    (directory.join group party).2.Peopled := by
  intro name members found
  unfold Directory.join at found
  dsimp only at found
  split at found
  · exact peopled name members found
  · rw [Table.get?_insert] at found
    split at found
    · cases found
      rfl
    · exact peopled name members found

theorem Peopled.leave (peopled : directory.Peopled) : (directory.leave group id).2.Peopled := by
  intro name members found
  unfold Directory.leave at found
  split at found
  · exact peopled name members found
  · dsimp only at found
    split at found
    · rw [Table.get?_erase] at found
      split at found
      · cases found
      · exact peopled name members found
    · next left =>
        rw [Table.get?_insert] at found
        split at found
        · cases found
          exact eq_false_of_ne_true left
        · exact peopled name members found

end Groups

section Lists

variable {κ : Type} {lists : Table Identity (List κ)} {id : Identity} (other : Identity)

def listOf (lists : Table Identity (List κ)) (id : Identity) : List κ := (lists.get? id).getD []

/-- Lists name no key twice, and no empty list is kept. -/
structure Orderly (lists : Table Identity (List κ)) : Prop where
  /-- No key is listed twice. -/
  nodup : ∀ id, (listOf lists id).Nodup
  /-- No empty list is kept. -/
  nonempty : ∀ id, lists.get? id ≠ some []

theorem listOf_insert (keys : List κ) :
    listOf (lists.insert id keys) other = if other = id then keys else listOf lists other := by
  rw [listOf, Table.get?_insert]
  split <;> rfl

theorem listOf_erase :
    listOf (lists.erase id) other = if other = id then [] else listOf lists other := by
  rw [listOf, Table.get?_erase]
  split <;> rfl

theorem Orderly.insert (orderly : Orderly lists) {keys : List κ} (nodup : keys.Nodup)
    (nonempty : keys ≠ []) : Orderly (lists.insert id keys) where
  nodup other := by
    rw [listOf_insert]
    split
    · exact nodup
    · exact orderly.nodup other
  nonempty other hollow := by
    rw [Table.get?_insert] at hollow
    split at hollow
    · exact nonempty (Option.some.inj hollow)
    · exact orderly.nonempty other hollow

theorem Orderly.erase (orderly : Orderly lists) : Orderly (lists.erase id) where
  nodup other := by
    rw [listOf_erase]
    split
    · exact List.nodup_nil
    · exact orderly.nodup other
  nonempty other hollow := by
    rw [Table.get?_erase] at hollow
    split at hollow
    · cases hollow
    · exact orderly.nonempty other hollow

end Lists

variable {κ : Type} [DecidableEq κ]

section Keys

variable (directory : Directory κ) (key other : κ) (party : Party) (id : Identity)

theorem get?_put :
    (directory.put key party).2.get? other =
      if other = key then some party else directory.get? other := by
  rw [get?, put_snd, Table.get?_insert, get?]

theorem get?_remove :
    (directory.remove key).2.get? other =
      if other = key then none else directory.get? other := by
  rw [remove]
  split
  · next absent =>
      split
      · next same => exact same ▸ absent
      · rfl
  · exact Table.get?_erase _ _ _

theorem remove_keeps :
    (directory.remove key).2.groups = directory.groups ∧
      (directory.remove key).2.watched = directory.watched := by
  rw [remove]
  split <;> exact ⟨rfl, rfl⟩

/-- Forgetting a connection takes out the keys that lead to it, and no others. -/
theorem get?_forget_eq (linked : directory.Linked) :
    (directory.forget id).2.get? key = (directory.get? key).filter fun party => party.id ≠ id := by
  rw [get?, get?]
  simp only [forget, Table.get?_filter]
  cases found : directory.byKey.get? key with
  | none => rfl
  | some party =>
      by_cases own : party.id = id
      · subst own
        simp [linked.key found]
      · simp [Option.filter_some, own]

/-- Forgetting a connection drops the groups that it leaves empty. -/
theorem peopled_forget : (directory.forget id).2.Peopled := by
  intro name members found
  simp only [forget, Table.get?_filter, Option.filter_eq_some_iff] at found
  simpa using found.2

end Keys

section Unlink

variable {lists : Table Identity (List κ)} (id other : Identity) (key : κ)

theorem listOf_unlink :
    listOf (unlink lists id key) other =
      if other = id then (listOf lists id).erase key else listOf lists other := by
  rw [unlink]
  cases found : lists.get? id with
  | none =>
      by_cases same : other = id
      · simp [same, listOf, found]
      · rw [if_neg same]
  | some keys =>
      have own : listOf lists id = keys := by rw [listOf, found, Option.getD_some]
      dsimp only
      split
      · next hollow =>
          rw [listOf_erase, own, List.isEmpty_iff.1 hollow]
      · rw [listOf_insert, own]

variable {id key}

theorem Orderly.unlink (orderly : Orderly lists) : Orderly (unlink lists id key) := by
  rw [Directory.unlink]
  cases found : lists.get? id with
  | none => exact orderly
  | some keys =>
      have nodup := orderly.nodup id
      rw [listOf, found, Option.getD_some] at nodup
      dsimp only
      split
      · exact orderly.erase
      · next left =>
          refine orderly.insert (nodup.erase key) ?_
          rwa [List.isEmpty_iff] at left

theorem Orderly.mem_unlink (orderly : Orderly lists) {kept : κ} :
    kept ∈ listOf (Directory.unlink lists id key) other ↔
      kept ∈ listOf lists other ∧ ¬ (other = id ∧ kept = key) := by
  rw [listOf_unlink]
  split
  · next same =>
      rw [(orderly.nodup id).mem_erase_iff, same]
      simp [and_comm]
  · next different => simp [different]

end Unlink

/-- A directory reads the same both ways and keeps nothing empty. -/
structure Indexed (directory : Directory κ) : Prop where
  key : ∀ key id, key ∈ directory.keysOf id ↔
    ∃ party, directory.get? key = some party ∧ party.id = id
  orderly : Orderly directory.byConnection
  peopled : directory.Peopled
  own : ∀ {group id party}, directory.member? group id = some party → party.id = id

namespace Indexed

variable {directory : Directory κ} {key : κ} {party : Party} {id : Identity} {group : String}

theorem empty : ({} : Directory κ).Indexed where
  key key id := by simp [keysOf, get?]
  orderly := ⟨fun _ => List.nodup_nil, fun _ hollow => by cases hollow⟩
  peopled _ _ found := by cases found
  own found := by cases found

theorem linked (indexed : directory.Indexed) : directory.Linked where
  key found := (indexed.key _ _).2 ⟨_, found, rfl⟩
  member := indexed.own

/-- The members of a group are those that stand in it under their own identities. -/
theorem mem_members (indexed : directory.Indexed) :
    party ∈ directory.members group ↔ directory.member? group party.id = some party := by
  rw [mem_members_iff]
  refine ⟨fun ⟨id, found⟩ => ?_, fun found => ⟨party.id, found⟩⟩
  rwa [indexed.own found]

theorem nodup_members (indexed : directory.Indexed) :
    ((directory.members group).map Party.id).Nodup := by
  rw [members]
  cases found : directory.groups.get? group with
  | none => exact List.nodup_nil
  | some members =>
      have ids : members.values.map Party.id = members.keys := by
        rw [Table.values, Table.keys, List.map_map]
        refine List.map_congr_left fun entry listed => ?_
        have standing : directory.member? group entry.1 = some entry.2 := by
          rw [member?, found, Option.bind_some, Table.get?_eq_some_iff]
          exact listed
        exact indexed.own standing
      dsimp only
      rw [ids]
      exact members.distinct

theorem nodup_audience (indexed : directory.Indexed) (except : List κ) :
    ((directory.audience group except).map Party.id).Nodup :=
  indexed.nodup_members.sublist (List.filter_sublist.map Party.id)

theorem congr {after : Directory κ} (indexed : directory.Indexed)
    (keys : after.byKey = directory.byKey) (lists : after.byConnection = directory.byConnection)
    (groups : after.groups = directory.groups) : after.Indexed where
  key key id := by
    rw [keysOf, lists, get?, keys]
    exact indexed.key key id
  orderly := lists ▸ indexed.orderly
  peopled := fun group members found => indexed.peopled group members (groups ▸ found)
  own := by
    intro group id party found
    rw [member?, groups] at found
    exact indexed.own found

theorem watch (indexed : directory.Indexed) : (directory.watch id).2.Indexed := by
  obtain ⟨keys, lists, groups⟩ := directory.watch_keeps id
  exact indexed.congr keys lists groups

theorem join (indexed : directory.Indexed) : (directory.join group party).2.Indexed := by
  obtain ⟨keys, lists, -⟩ := join_keeps directory group party
  refine ⟨?_, lists ▸ indexed.orderly, indexed.peopled.join party, indexed.linked.join.member⟩
  intro key id
  rw [keysOf, lists, get?, keys]
  exact indexed.key key id

theorem leave (indexed : directory.Indexed) : (directory.leave group id).2.Indexed := by
  obtain ⟨keys, lists, -⟩ := directory.leave_keeps group id
  refine ⟨?_, lists ▸ indexed.orderly, indexed.peopled.leave, ?_⟩
  · intro key id
    rw [keysOf, lists, get?, keys]
    exact indexed.key key id
  · intro name other party found
    rw [member?_leave] at found
    split at found
    · cases found
    · exact indexed.own found

/-- Before a key is entered, it is on no list but that of the entering connection. -/
theorem mem_unlinked (indexed : directory.Indexed) {kept : κ} :
    kept ∈ listOf (directory.unlinked key party) id ↔
      kept ∈ directory.keysOf id ∧ (kept = key → id = party.id) := by
  have reading := indexed.key key id
  rw [unlinked]
  split
  · next holder found =>
      have leads : key ∈ directory.keysOf id ↔ holder.id = id := by
        rw [reading, get?, found]
        simp
      split
      · next same =>
          refine ⟨fun member => ⟨member, ?_⟩, And.left⟩
          rintro rfl
          exact (leads.1 member).symm.trans same
      · next different =>
          rw [indexed.orderly.mem_unlink]
          refine and_congr_right fun member => ⟨?_, ?_⟩
          · rintro kept_on rfl
            exact absurd ⟨(leads.1 member).symm, rfl⟩ kept_on
          · rintro own ⟨rfl, rfl⟩
            exact different (own rfl)
  · next absent =>
      refine ⟨fun member => ⟨member, ?_⟩, And.left⟩
      rintro rfl
      obtain ⟨holder, found, -⟩ := reading.1 member
      cases absent.symm.trans found

theorem put (indexed : directory.Indexed) : (directory.put key party).2.Indexed := by
  have unlinked_orderly : Orderly (directory.unlinked key party) := by
    rw [unlinked]
    split
    · split
      · exact indexed.orderly
      · exact indexed.orderly.unlink
    · exact indexed.orderly
  refine ⟨?_, ?_, indexed.peopled, indexed.own⟩
  · intro kept other
    have lists : (directory.put key party).2.keysOf other =
        if other = party.id then (listOf (directory.unlinked key party) party.id).insert key
        else listOf (directory.unlinked key party) other :=
      listOf_insert _ _
    rw [lists, get?_put]
    by_cases same : kept = key
    · subst same
      rw [if_pos rfl]
      split
      · next own => simp [own]
      · next foreign =>
          rw [indexed.mem_unlinked]
          simp [foreign, Ne.symm foreign]
    · rw [if_neg same, ← indexed.key]
      have listed : kept ∈ listOf (directory.unlinked key party) other ↔
          kept ∈ directory.keysOf other := by
        rw [indexed.mem_unlinked]
        simp [same]
      split
      · next own =>
          subst own
          simp [same, listed]
      · exact listed
  · exact unlinked_orderly.insert ((unlinked_orderly.nodup party.id).insert)
      (List.ne_nil_of_mem (List.mem_insert_self))

theorem remove (indexed : directory.Indexed) : (directory.remove key).2.Indexed := by
  obtain ⟨groups, -⟩ := directory.remove_keeps key
  refine ⟨?_, ?_, fun group members found => indexed.peopled group members (groups ▸ found), ?_⟩
  · intro kept other
    rw [get?_remove]
    have listed : kept ∈ (directory.remove key).2.keysOf other ↔
        kept ∈ directory.keysOf other ∧ kept ≠ key := by
      rw [Directory.remove]
      split
      · next absent =>
          refine ⟨fun member => ⟨member, ?_⟩, And.left⟩
          rintro rfl
          obtain ⟨holder, found, -⟩ := (indexed.key kept other).1 member
          cases absent.symm.trans found
      · next holder found =>
          refine (indexed.orderly.mem_unlink other).trans (and_congr_right fun member => ?_)
          refine ⟨?_, fun different both => different both.2⟩
          rintro kept_on rfl
          obtain ⟨standing, leads, own⟩ := (indexed.key kept other).1 member
          cases found.symm.trans leads
          exact kept_on ⟨own.symm, rfl⟩
    rw [listed, indexed.key]
    by_cases same : kept = key <;> simp [same]
  · rw [Directory.remove]
    split
    · exact indexed.orderly
    · exact indexed.orderly.unlink
  · intro group id party found
    rw [member?, groups] at found
    exact indexed.own found

theorem forget (indexed : directory.Indexed) : (directory.forget id).2.Indexed := by
  refine ⟨?_, indexed.orderly.erase, (peopled_forget _ _), indexed.linked.forget.member⟩
  intro key other
  have lists : (directory.forget id).2.keysOf other =
      if other = id then [] else directory.keysOf other := listOf_erase _
  rw [lists, get?_forget_eq _ _ _ indexed.linked]
  simp only [Option.filter_eq_some_iff, decide_eq_true_eq]
  split
  · next same =>
      subst same
      simp
  · next different =>
      rw [indexed.key]
      refine exists_congr fun holder => ?_
      constructor
      · rintro ⟨found, rfl⟩
        exact ⟨⟨found, different⟩, rfl⟩
      · rintro ⟨⟨found, -⟩, own⟩
        exact ⟨found, own⟩

end Indexed

end PadRelay.Directory
