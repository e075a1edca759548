import Mathlib.Data.List.Induction
import Mathlib.Logic.Relation
import PadRelay.Proofs.Directory.Index

/-!
# Edits of a directory

What is asked of a directory is an edit; what happens to it besides is that connections are watched,
and that those that have gone are forgotten. An edit changes one key, one place in a group, or all
of one connection; a sweep takes out nothing but what belongs to connections that have gone.
-/

namespace PadRelay

/-- Since some entry of a log was made, no entry has ended it. -/
def Since {α : Type} (log : List α) (entry : α) (ends : α → Prop) : Prop :=
  ∃ earlier later, log = earlier ++ entry :: later ∧ ∀ other ∈ later, ¬ ends other

section Since

variable {α : Type} {log : List α} {entry last : α} {ends : α → Prop}

theorem not_since_nil : ¬ Since [] entry ends := by
  rintro ⟨earlier, later, equal, -⟩
  simp at equal

theorem Since.mem (since : Since log entry ends) : entry ∈ log := by
  obtain ⟨earlier, later, rfl, -⟩ := since
  simp

theorem since_of_mem (member : entry ∈ log) (spared : ∀ other ∈ log, ¬ ends other) :
    Since log entry ends := by
  obtain ⟨earlier, later, rfl⟩ := List.append_of_mem member
  refine ⟨earlier, later, rfl, fun other listed => spared other ?_⟩
  exact List.mem_append_right _ (List.mem_cons_of_mem _ listed)

theorem since_append_singleton :
    Since (log ++ [last]) entry ends ↔ last = entry ∨ Since log entry ends ∧ ¬ ends last := by
  constructor
  · rintro ⟨earlier, later, equal, spared⟩
    rcases List.eq_nil_or_concat later with rfl | ⟨before, final, rfl⟩
    · exact .inl (List.head_eq_of_cons_eq (List.append_inj' equal rfl).2)
    · rw [List.concat_eq_append] at equal spared
      rw [← List.cons_append, ← List.append_assoc] at equal
      obtain ⟨rfl, final_eq⟩ := List.append_inj' equal rfl
      obtain rfl := List.head_eq_of_cons_eq final_eq
      refine .inr ⟨⟨earlier, before, rfl, ?_⟩, spared last (by simp)⟩
      exact fun other member => spared other (List.mem_append_left _ member)
  · rintro (rfl | ⟨⟨earlier, later, rfl, spared⟩, kept⟩)
    · exact ⟨log, [], rfl, fun other member => absurd member List.not_mem_nil⟩
    · refine ⟨earlier, later ++ [last], by simp, ?_⟩
      intro other member
      rcases List.mem_append.1 member with listed | final
      · exact spared other listed
      · rwa [List.mem_singleton.1 final]

theorem exists_since (member : entry ∈ log) (ending : ends entry) :
    ∃ last, ends last ∧ Since log last ends := by
  induction log using List.reverseRecOn with
  | nil => cases member
  | append_singleton log final induction =>
      by_cases final_ends : ends final
      · exact ⟨final, final_ends, since_append_singleton.2 (.inl rfl)⟩
      · rcases List.mem_append.1 member with earlier | now
        · obtain ⟨last, last_ends, since⟩ := induction earlier
          exact ⟨last, last_ends, since_append_singleton.2 (.inr ⟨since, final_ends⟩)⟩
        · rw [List.mem_singleton.1 now] at ending
          exact absurd ending final_ends

end Since

namespace Directory

/-- What is asked of a directory. -/
inductive Edit (κ : Type) where
  | put (key : κ) (party : Party)
  | remove (key : κ)
  | join (group : String) (party : Party)
  | leave (group : String) (id : Identity)
  | unregister (id : Identity)
deriving DecidableEq

namespace Edit

variable {κ : Type}

/-- The connection that an edit brings in. -/
def party? : Edit κ → Option Party
  | put _ party | join _ party => some party
  | remove _ | leave _ _ | unregister _ => none

/-- The edit takes a key from a connection. -/
def Frees (key : κ) (id : Identity) : Edit κ → Prop
  | put other _ | remove other => other = key
  | unregister other => other = id
  | join _ _ | leave _ _ => False

/-- The edit takes a connection out of a group. -/
def Expels (group : String) (id : Identity) : Edit κ → Prop
  | leave name other => name = group ∧ other = id
  | unregister other => other = id
  | put _ _ | remove _ | join _ _ => False

variable [DecidableEq κ]

instance (key : κ) (id : Identity) : DecidablePred (Frees key id)
  | put other _ | remove other => inferInstanceAs (Decidable (other = key))
  | unregister other => inferInstanceAs (Decidable (other = id))
  | join _ _ | leave _ _ => inferInstanceAs (Decidable False)

def apply (directory : Directory κ) : Edit κ → Directory κ
  | put key party => (directory.put key party).2
  | remove key => (directory.remove key).2
  | join group party => (directory.join group party).2
  | leave group id => (directory.leave group id).2
  | unregister id => (directory.forget id).2

variable {directory : Directory κ} {edit : Edit κ} {key : κ} {party : Party}

theorem indexed_apply (indexed : directory.Indexed) (edit : Edit κ) :
    (edit.apply directory).Indexed := by
  cases edit with
  | put key party => exact indexed.put
  | remove key => exact indexed.remove
  | join group party => exact indexed.join
  | leave group id => exact indexed.leave
  | unregister id => exact indexed.forget

/-- After an edit a key leads to a connection that has just been entered under it, or that it led to
before, unless the edit took it away. -/
theorem get?_apply (indexed : directory.Indexed) :
    (edit.apply directory).get? key = some party ↔
      edit = .put key party ∨ directory.get? key = some party ∧ ¬ edit.Frees key party.id := by
  cases edit with
  | put other entered =>
      rw [apply, get?_put]
      by_cases same : key = other
      · simp [same, Frees]
      · simp [same, Ne.symm same, Frees]
  | remove other =>
      rw [apply, get?_remove]
      by_cases same : key = other
      · simp [same, Frees]
      · simp [same, Ne.symm same, Frees]
  | join group joined =>
      rw [apply, get?, (join_keeps directory group joined).1]
      simp [get?, Frees]
  | leave group id =>
      rw [apply, get?, (directory.leave_keeps group id).1]
      simp [get?, Frees]
  | unregister id =>
      rw [apply, get?_forget_eq _ _ _ indexed.linked, Option.filter_eq_some_iff]
      simp [Frees, ne_comm]

/-- After an edit a connection is a member of a group if it has just joined, or was a member before,
unless the edit took it out. A connection that joins may find itself there already. -/
theorem member?_apply (directory : Directory κ) {group : String}
    (alone : ∀ name joined holder, edit = .join name joined →
      directory.member? name joined.id = some holder → holder = joined) :
    (edit.apply directory).member? group party.id = some party ↔
      edit = .join group party ∨
        directory.member? group party.id = some party ∧ ¬ edit.Expels group party.id := by
  cases edit with
  | put other entered =>
      have same : (apply directory (.put other entered)).member? group party.id =
          directory.member? group party.id := rfl
      simp [same, Expels]
  | remove other =>
      rw [apply, member?, (directory.remove_keeps other).1]
      simp [member?, Expels]
  | join name joined =>
      have found_alone := alone name joined
      rw [apply, member?_join_eq]
      split
      · next own =>
          obtain ⟨rfl, same⟩ := own
          rw [same]
          cases found : directory.member? group joined.id with
          | none => simp [eq_comm]
          | some holder =>
              obtain rfl := found_alone holder rfl found
              simp [Expels]
      · next apart =>
          have different : Edit.join name joined ≠ (.join group party : Edit κ) := by
            intro equal
            cases equal
            exact apart ⟨rfl, rfl⟩
          simp [different, Expels]
  | leave name id =>
      rw [apply, member?_leave]
      by_cases own : group = name ∧ party.id = id
      · simp [own, Expels]
      · rw [if_neg own]
        have kept : ¬ Expels group party.id (.leave name id : Edit κ) :=
          fun expelled => own ⟨expelled.1.symm, expelled.2.symm⟩
        simp [kept]
  | unregister id =>
      rw [apply, member?_forget]
      by_cases own : party.id = id
      · simp [own, Expels]
      · simp [own, Expels, Ne.symm own]

section Shrinking

variable {other : Party} {id : Identity}

theorem names_of_apply (nothing : edit.party? = none)
    (names : (edit.apply directory).Names other) : directory.Names other := by
  cases edit with
  | put key party => cases nothing
  | join group party => cases nothing
  | remove key =>
      cases names with
      | key found =>
          replace found : (directory.remove key).2.get? _ = some other := found
          rw [get?_remove] at found
          split at found
          · cases found
          · exact .key found
      | member found =>
          rw [apply, member?, (directory.remove_keeps key).1] at found
          exact .member found
  | leave group left =>
      cases names with
      | key found =>
          rw [apply, (directory.leave_keeps group left).1] at found
          exact .key found
      | member found =>
          rw [apply, member?_leave] at found
          split at found
          · cases found
          · exact .member found
  | unregister left => exact names.of_forget

theorem mentions_of_apply (linked : directory.Linked) (nothing : edit.party? = none)
    (mentions : (edit.apply directory).Mentions id) : directory.Mentions id := by
  cases edit with
  | put key party => cases nothing
  | join group party => cases nothing
  | remove key =>
      cases mentions with
      | watched member => exact .watched ((directory.remove_keeps key).2 ▸ member)
      | keys found =>
          rw [apply, Directory.remove] at found
          split at found
          · exact .keys found
          · obtain ⟨before, held⟩ := get?_of_unlink found
            exact .keys held
      | @key _ party found same =>
          replace found : (directory.remove key).2.get? _ = some party := found
          rw [get?_remove] at found
          split at found
          · cases found
          · exact .key found same
      | member found =>
          rw [apply, member?, (directory.remove_keeps key).1] at found
          exact .member found
  | leave group left =>
      obtain ⟨keys, lists, watched⟩ := directory.leave_keeps group left
      cases mentions with
      | watched member => exact .watched (watched ▸ member)
      | keys found => exact .keys (lists ▸ found)
      | key found same => exact .key (keys ▸ found) same
      | member found =>
          rw [apply, member?_leave] at found
          split at found
          · cases found
          · exact .member found
  | unregister left => exact (mentions.of_forget linked).2

end Shrinking

end Edit

variable {κ : Type} [DecidableEq κ]

/-- One step of a sweep. -/
inductive Clears (gone : Identity → Prop) (before : Directory κ) : Directory κ → Prop
  | watch (id : Identity) : Clears gone before (before.watch id).2
  | forget {id : Identity} (left : gone id) : Clears gone before (before.forget id).2

/-- Any number of steps that watch connections and forget those that have gone. -/
def Sweeps (gone : Identity → Prop) : Directory κ → Directory κ → Prop :=
  Relation.ReflTransGen (Clears gone)

namespace Sweeps

variable {gone : Identity → Prop} {before middle after : Directory κ}

@[refl]
theorem refl (directory : Directory κ) : Sweeps gone directory directory :=
  Relation.ReflTransGen.refl

theorem trans (first : Sweeps gone before middle) (second : Sweeps gone middle after) :
    Sweeps gone before after :=
  Relation.ReflTransGen.trans first second

theorem single (clears : Clears gone before after) : Sweeps gone before after :=
  Relation.ReflTransGen.single clears

theorem mono {more : Identity → Prop} (wider : ∀ id, gone id → more id)
    (sweeps : Sweeps gone before after) : Sweeps more before after := by
  refine Relation.ReflTransGen.mono (fun one other clears => ?_) _ _ sweeps
  cases clears with
  | watch id => exact .watch id
  | forget left => exact .forget (wider _ left)

theorem indexed (sweeps : Sweeps gone before after) (indexed : before.Indexed) :
    after.Indexed := by
  induction sweeps with
  | refl => exact indexed
  | tail _ clears induction =>
      cases clears with
      | watch id => exact induction.watch
      | forget left => exact induction.forget

/-- A sweep enters nothing under a key, and takes no key from a connection that has not gone. -/
theorem get? (sweeps : Sweeps gone before after) {key : κ} {party : Party} :
    (after.get? key = some party → before.get? key = some party) ∧
      (¬ gone party.id → before.get? key = some party → after.get? key = some party) := by
  induction sweeps with
  | refl => exact ⟨fun found => found, fun _ found => found⟩
  | @tail middle last _ clears induction =>
      cases clears with
      | watch id =>
          have same : (middle.watch id).2.get? key = middle.get? key := by
            rw [Directory.get?, (middle.watch_keeps id).1, Directory.get?]
          rwa [same]
      | @forget id left =>
          refine ⟨fun found => induction.1 (get?_forget found).1, ?_⟩
          intro stays found
          have different : party.id ≠ id := fun same => stays (same ▸ left)
          rw [Directory.get?, forget, Table.get?_filter, Option.filter_eq_some_iff]
          exact ⟨induction.2 stays found, by simp [different]⟩

theorem member? (sweeps : Sweeps gone before after) {group : String} {id : Identity}
    {party : Party} :
    (after.member? group id = some party → before.member? group id = some party) ∧
      (¬ gone id → before.member? group id = some party →
        after.member? group id = some party) := by
  induction sweeps with
  | refl => exact ⟨fun found => found, fun _ found => found⟩
  | @tail middle last _ clears induction =>
      cases clears with
      | watch other =>
          have same : (middle.watch other).2.member? group id = middle.member? group id := by
            rw [Directory.member?, (middle.watch_keeps other).2.2, Directory.member?]
          rwa [same]
      | @forget other left =>
          rw [member?_forget]
          split
          · next same =>
              refine ⟨fun impossible => ?_, fun stays => absurd (same ▸ left) stays⟩
              cases impossible
          · exact induction

end Sweeps

end Directory

end PadRelay
