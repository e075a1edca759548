import PadRelay.Pairs

/-!
# Slots of pairs

Every operation on pairs is described by what it does to single slots. Entering a connection changes
one slot. Vacating empties one slot, if it still holds the connection that has closed, and takes
everything out of the pair that is not live. No operation stores a vacant pair, so that the slots
tell everything.
-/

namespace PadRelay

namespace Pair

theorem slot_setSlot (pair : Pair) (role other : Role) (party : Option Party) :
    (pair.setSlot role party).slot other = if other = role then party else pair.slot other := by
  cases role <;> cases other <;> rfl

theorem slot_prune (isLive : Handle → Bool) (pair : Pair) (role : Role) :
    (pair.prune isLive).slot role = pair.live isLive role := by
  cases role <;> rfl

theorem slot_of_isVacant {pair : Pair} (vacant : pair.isVacant = true) (role : Role) :
    pair.slot role = none := by
  simp only [isVacant, Bool.and_eq_true, Option.isNone_iff_eq_none] at vacant
  cases role with
  | clear => exact vacant.1
  | encrypted => exact vacant.2

theorem isVacant_setSlot (pair : Pair) (role : Role) (party : Party) :
    (pair.setSlot role (some party)).isVacant = false := by
  cases role <;> simp [setSlot, isVacant]

theorem exists_slot_of_isVacant_eq_false {pair : Pair} (occupied : pair.isVacant = false) :
    ∃ role party, pair.slot role = some party := by
  cases clear : pair.clear with
  | some party => exact ⟨.clear, party, clear⟩
  | none =>
      cases encrypted : pair.encrypted with
      | some party => exact ⟨.encrypted, party, encrypted⟩
      | none => simp [isVacant, clear, encrypted] at occupied

theorem eq_of_slot_eq {left right : Pair} (same : ∀ role, left.slot role = right.slot role) :
    left = right := by
  obtain ⟨clear, encrypted⟩ := left
  obtain rfl : clear = right.clear := same .clear
  obtain rfl : encrypted = right.encrypted := same .encrypted
  rfl

end Pair

namespace Pairs

variable (pairs : Pairs) (identity other : Identity) (role side : Role)

def slot : Option Party := (pairs.get? identity).bind fun pair => pair.slot role

theorem connectionOf_eq (isLive : Handle → Bool) :
    pairs.connectionOf isLive identity role =
      (pairs.slot identity role).filter fun party => isLive party.handle := by
  rw [connectionOf, slot]
  cases pairs.get? identity <;> rfl

theorem holds_eq (id : Identity) :
    pairs.holds identity role id = (pairs.slot identity role).any fun party => party.id = id := by
  rw [holds, slot]
  cases pairs.get? identity <;> rfl

theorem slot_place (party : Party) :
    (pairs.place identity role party).slot other side =
      if other = identity ∧ side = role then some party else pairs.slot other side := by
  unfold slot place
  rw [Table.get?_insert]
  by_cases same : other = identity
  · subst same
    simp only [if_true, Option.bind_some, Pair.slot_setSlot, true_and]
    cases pairs.get? other with
    | none => cases side <;> rfl
    | some pair => rfl
  · simp [same]

theorem get?_vacate_of_ne {identity other : Identity} (isLive : Handle → Bool) (id : Identity)
    (different : other ≠ identity) :
    (pairs.vacate isLive identity role id).get? other = pairs.get? other := by
  rw [vacate]
  split
  · rfl
  · next pair found =>
      simp only
      generalize (if pairs.holds identity role id then pair.setSlot role none else pair) = emptied
      split
      · exact Table.get?_erase_of_ne _ different
      · exact Table.get?_insert_of_ne _ _ different

/-- After vacating, a slot of the pair holds what it held if that is live and not the connection
that has closed. -/
theorem slot_vacate (isLive : Handle → Bool) (id : Identity) :
    (pairs.vacate isLive identity role id).slot other side =
      if other = identity then
        (if side = role ∧ pairs.holds identity role id then none
          else pairs.slot other side).filter fun party => isLive party.handle
      else pairs.slot other side := by
  by_cases same : other = identity
  · subst same
    rw [if_pos rfl]
    cases found : pairs.get? other with
    | none => simp [vacate, slot, holds, found]
    | some pair =>
        have emptied_slot :
            (if pairs.holds other role id then pair.setSlot role none else pair).slot side =
              if side = role ∧ pairs.holds other role id then none else pairs.slot other side := by
          cases pairs.holds other role id <;> simp [slot, found, Pair.slot_setSlot]
        rw [← emptied_slot]
        simp only [vacate, found]
        generalize (if pairs.holds other role id then pair.setSlot role none else pair) = emptied
        have pruned := Pair.slot_prune isLive emptied side
        split
        · next vacant =>
            rw [Pair.slot_of_isVacant vacant] at pruned
            simpa [slot, Pair.live] using pruned
        · simpa [slot, Pair.live] using pruned
  · rw [if_neg same]
    simp only [slot, get?_vacate_of_ne pairs role isLive id same]

/-- Vacating a slot shows the other slots as before. -/
theorem connectionOf_vacate_of_ne (isLive : Handle → Bool) (id : Identity)
    (different : side ≠ role) :
    (pairs.vacate isLive identity role id).connectionOf isLive other side =
      pairs.connectionOf isLive other side := by
  rw [connectionOf_eq, connectionOf_eq, slot_vacate]
  by_cases same : other = identity
  · simp only [same, different, false_and, if_true, if_false]
    cases pairs.slot identity side with
    | none => rfl
    | some party => by_cases live : isLive party.handle <;> simp
  · simp [same]

/-- A connection that enters a free slot beside a live one and leaves it again leaves no trace. -/
theorem get?_vacate_place {isLive : Handle → Bool} {party beside : Party}
    (free : pairs.slot identity role = none)
    (live : pairs.connectionOf isLive identity side = some beside) (different : side ≠ role) :
    ((pairs.place identity role party).vacate isLive identity role party.id).get? other =
      pairs.get? other := by
  by_cases same : other = identity
  · subst same
    obtain ⟨pair, found, shown⟩ := Option.bind_eq_some_iff.1 live
    have empty : pair.slot role = none := by simpa [slot, found] using free
    have placed : (pairs.place other role party).get? other =
        some (pair.setSlot role (some party)) := by
      rw [place, found, Table.get?_insert_self, Option.getD_some]
    have held : (pairs.place other role party).holds other role party.id = true := by
      simp [holds_eq, slot_place]
    have restored : ((pair.setSlot role (some party)).setSlot role none).prune isLive = pair := by
      refine Pair.eq_of_slot_eq fun each => ?_
      rw [Pair.slot_prune, Pair.live, Pair.slot_setSlot, Pair.slot_setSlot]
      by_cases own : each = role
      · rw [if_pos own, own, empty, Option.filter_none]
      · obtain rfl : each = side := by cases each <;> cases side <;> cases role <;> simp_all
        rw [if_neg own, if_neg own]
        exact shown.trans (Option.filter_eq_some_iff.1 shown).1.symm
    have inhabited : pair.isVacant = false := by
      refine eq_false_of_ne_true fun vacant => ?_
      rw [Pair.live, Pair.slot_of_isVacant vacant] at shown
      cases shown
    rw [vacate, placed]
    simp only [held, if_true, restored, inhabited, Bool.false_eq_true, if_false]
    rw [Table.get?_insert_self, found]
  · rw [get?_vacate_of_ne _ _ _ _ same, place, Table.get?_insert_of_ne _ _ same]

theorem slot_eq_some_iff (party : Party) :
    pairs.slot identity role = some party ↔
      ∃ pair, (identity, pair) ∈ pairs.entries ∧ pair.slot role = some party := by
  simp only [slot, Option.bind_eq_some_iff, Table.get?_eq_some_iff]

theorem exists_slot_of_slotOf {id : Identity} {place : Identity × Role}
    (found : pairs.slotOf id = some place) :
    ∃ party, pairs.slot place.1 place.2 = some party ∧ party.id = id := by
  obtain ⟨⟨identity, pair⟩, member, inside⟩ := List.exists_of_findSome?_eq_some found
  obtain ⟨role, -, held⟩ := List.exists_of_findSome?_eq_some inside
  split at held
  · next holds =>
      cases held
      rw [Option.any_eq_true] at holds
      obtain ⟨party, slotted, same⟩ := holds
      exact ⟨party, (pairs.slot_eq_some_iff identity role party).2 ⟨pair, member, slotted⟩,
        of_decide_eq_true same⟩
  · cases held

/-- A slot is found for a connection exactly if some slot holds it. -/
theorem isSome_slotOf_iff (id : Identity) :
    (pairs.slotOf id).isSome = true ↔
      ∃ identity role party, pairs.slot identity role = some party ∧ party.id = id := by
  constructor
  · intro found
    obtain ⟨place, found⟩ := Option.isSome_iff_exists.1 found
    exact ⟨place.1, place.2, pairs.exists_slot_of_slotOf found⟩
  · rintro ⟨identity, role, party, slotted, same⟩
    obtain ⟨pair, member, slotted⟩ := (pairs.slot_eq_some_iff identity role party).1 slotted
    rw [slotOf, List.findSome?_isSome_iff]
    refine ⟨(identity, pair), member, ?_⟩
    rw [List.findSome?_isSome_iff]
    exact ⟨role, by cases role <;> simp, by simp [slotted, same]⟩

/-- No vacant pair is stored. -/
def Occupied : Prop := ∀ identity pair, pairs.get? identity = some pair → pair.isVacant = false

variable {pairs}

theorem occupied_empty : Occupied ∅ := fun _ _ found => by cases found

theorem Occupied.place (occupied : pairs.Occupied) (party : Party) :
    (pairs.place identity role party).Occupied := by
  intro subject pair found
  rw [Pairs.place, Table.get?_insert] at found
  split at found
  · rw [← Option.some.inj found]
    exact Pair.isVacant_setSlot _ role party
  · exact occupied subject pair found

theorem Occupied.erase (occupied : pairs.Occupied) : Occupied (pairs.erase identity) := by
  intro subject pair found
  rw [Table.get?_erase] at found
  split at found
  · cases found
  · exact occupied subject pair found

theorem Occupied.vacate (occupied : pairs.Occupied) (isLive : Handle → Bool) (id : Identity) :
    (pairs.vacate isLive identity role id).Occupied := by
  rw [Pairs.vacate]
  split
  · exact occupied
  · next pair _ =>
      simp only
      generalize (if pairs.holds identity role id then pair.setSlot role none else pair) = emptied
      split
      · exact occupied.erase identity
      · next inhabited =>
          intro subject stored found
          rw [Table.get?_insert] at found
          split at found
          · rw [← Option.some.inj found]
            exact eq_false_of_ne_true inhabited
          · exact occupied subject stored found

/-- A pair is stored exactly if one of its slots is not empty. -/
theorem Occupied.contains_iff (occupied : pairs.Occupied) :
    pairs.contains identity = true ↔ ∃ role party, pairs.slot identity role = some party := by
  rw [Table.contains_eq_true_iff]
  constructor
  · rintro ⟨pair, found⟩
    obtain ⟨role, party, slotted⟩ :=
      Pair.exists_slot_of_isVacant_eq_false (occupied identity pair found)
    exact ⟨role, party, by rw [slot, found, Option.bind_some, slotted]⟩
  · rintro ⟨role, party, slotted⟩
    obtain ⟨pair, found, -⟩ := Option.bind_eq_some_iff.1 slotted
    exact ⟨pair, found⟩

/-- What is stored under an identity is told by its slots. -/
theorem Occupied.get?_eq {left right : Pairs} (occupied : left.Occupied)
    (other_occupied : right.Occupied)
    (same : ∀ role, left.slot identity role = right.slot identity role) :
    left.get? identity = right.get? identity := by
  have contained : left.contains identity = right.contains identity := by
    rw [Bool.eq_iff_iff, occupied.contains_iff, other_occupied.contains_iff]
    simp only [same]
  rw [Table.contains, Table.contains] at contained
  cases left_found : left.get? identity with
  | none =>
      rw [left_found, Option.isSome_none, eq_comm, Option.isSome_eq_false_iff,
        Option.isNone_iff_eq_none] at contained
      exact contained.symm
  | some pair =>
      rw [left_found, Option.isSome_some, eq_comm, Option.isSome_iff_exists] at contained
      obtain ⟨other, right_found⟩ := contained
      rw [right_found]
      congr 1
      apply Pair.eq_of_slot_eq
      simpa [slot, left_found, right_found] using same

end Pairs

end PadRelay
