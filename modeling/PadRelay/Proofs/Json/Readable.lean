import PadRelay.Json.Document
import PadRelay.Proofs.Json.Range
import PadRelay.Proofs.Json.Reading
import PadRelay.Proofs.Wire.Members

/-!
# Values that can be read

A reader has limits: how deep a value nests, which texts mean something, which numbers it takes. A
value within the first two is read exactly if its numbers are read as finite doubles.
-/

namespace PadRelay

namespace Json

/-- A value that nests at most so deep, whose texts mean something and whose numbers are such. -/
inductive Readable (numbers : Numeral → Prop) : Nat → Json → Prop
  | null {levels : Nat} : Readable numbers levels .null
  | bool {levels : Nat} {value : Bool} : Readable numbers levels (.bool value)
  | number {levels : Nat} {numeral : Numeral} (such : numbers numeral) :
      Readable numbers levels (.number numeral)
  | text {levels : Nat} {letters : Letters} {text : String} (means : letters.Means text.toList) :
      Readable numbers levels (.text letters.pieces)
  | array {levels : Nat} {items : List Json}
      (each : ∀ item ∈ items, Readable numbers levels item) :
      Readable numbers (levels + 1) (.array items)
  | object {levels : Nat} {members : List Member}
      (each : ∀ member ∈ members, Readable numbers levels member.value) :
      Readable numbers (levels + 1) (.object (members.map Member.entry))

theorem Readable.mono {numbers others : Numeral → Prop} {levels : Nat} {json : Json}
    (readable : Readable numbers levels json)
    (weaker : ∀ numeral, numbers numeral → others numeral) : Readable others levels json := by
  induction readable with
  | null => exact .null
  | bool => exact .bool
  | number such => exact .number (weaker _ such)
  | text means => exact .text means
  | array _ induction => exact .array induction
  | object _ induction => exact .object induction

/-- The members of an object are read if their values are. -/
theorem exists_mapM_member_iff {levels : Nat} (members : List Member) :
    (∃ results, (members.map Member.entry).mapM (fun (entry : Quoted × Json) => do
        let name ← entry.1.toText?
        let value ← value? levels entry.2
        return (Value.text name, value)) = some results) ↔
      ∀ member ∈ members, ∃ value, value? levels member.value = some value := by
  rw [exists_mapM_iff, List.forall_mem_map]
  refine forall_congr' fun member => forall_congr' fun _ => ?_
  simp only [Member.entry, member.means.toText?_pieces, Option.bind_eq_bind, Option.bind_some,
    Option.pure_def, Option.bind_eq_some_iff, Option.some.injEq]
  exact ⟨fun ⟨_, value, read, _⟩ => ⟨value, read⟩, fun ⟨value, read⟩ => ⟨_, value, read, rfl⟩⟩

/-- A value within the limits is read exactly if its numbers are in range. -/
theorem Readable.exists_value?_iff {levels : Nat} {json : Json}
    (readable : Readable (fun _ => True) levels json) :
    (∃ value, value? levels json = some value) ↔
      Readable (fun numeral => numeral.inRange = true) levels json := by
  constructor
  · induction readable with
    | null => exact fun _ => .null
    | bool => exact fun _ => .bool
    | number =>
        rintro ⟨value, read⟩
        rw [value?] at read
        split at read
        · next number plain => exact .number (Numeral.inRange_of_toNat? plain)
        · split at read
          · next fits => exact .number fits
          · cases read
    | text means => exact fun _ => .text means
    | array _ induction =>
        rintro ⟨value, read⟩
        rw [value?] at read
        obtain ⟨values, read, -⟩ := Option.map_eq_some_iff.1 read
        exact .array fun item listed =>
          induction item listed (exists_mapM_iff.1 ⟨values, read⟩ item listed)
    | object _ induction =>
        rintro ⟨value, read⟩
        rw [value?] at read
        obtain ⟨values, read, -⟩ := Option.map_eq_some_iff.1 read
        exact .object fun member listed =>
          induction member listed ((exists_mapM_member_iff _).1 ⟨values, read⟩ member listed)
  · intro fitting
    clear readable
    induction fitting with
    | null => exact ⟨.unit, by rw [value?]⟩
    | bool => exact ⟨_, by rw [value?]⟩
    | number fits =>
        rw [value?]
        split
        · exact ⟨_, rfl⟩
        · exact ⟨.number, if_pos fits⟩
    | text means => exact ⟨_, by rw [value?, means.toText?_pieces]; rfl⟩
    | array _ induction =>
        obtain ⟨values, read⟩ := exists_mapM_iff.2 induction
        exact ⟨.list values, by rw [value?, read]; rfl⟩
    | object _ induction =>
        obtain ⟨values, read⟩ := (exists_mapM_member_iff _).2 induction
        exact ⟨.map values, by rw [value?, read]; rfl⟩

end Json

end PadRelay
