import PadRelay.Json.Document
import PadRelay.Proofs.Json.Writing
import PadRelay.Proofs.Wire.Members

/-!
# JSON documents written and read

The document of a message is an object whose members are the written fields, in order. Reading it
gives the members of the message, and so the message.
-/

namespace PadRelay

namespace Json

theorem ofBytes?_writeObject (members : List (String × Field)) :
    ofBytes? (writeObject members) =
      some (.object (members.map fun member => (.ofText member.1, member.2.toJson))) :=
  (written_writeObject members).ofBytes?

/-- A written field is read as its value, its integers having at most 64 bits. -/
theorem value?_toJson {field : Field} (fits : ∀ value, field = .nat value → value < UInt64.size)
    (levels : Nat) : value? (levels + 1) field.toJson = some field.toValue := by
  cases field with
  | bool value => simp [Field.toJson, value?]
  | nat value => simp [Field.toJson, value?, Numeral.toNat?_ofNat (fits value rfl)]
  | text content => simp [Field.toJson, value?]
  | bytes content =>
      have byte_read (byte : UInt8) :
          value? levels (.number (.ofNat byte.toNat)) = some (.nat byte.toNat) := by
        have small : byte.toNat < UInt64.size := Nat.lt_trans byte.toNat_lt (by decide)
        simp [value?, Numeral.toNat?_ofNat small]
      have items_read : content.mapM (value? levels ∘ fun byte => .number (.ofNat byte.toNat)) =
          some (content.map fun byte => .nat byte.toNat) :=
        mapM_eq_some_map fun byte _ => byte_read byte
      rw [Field.toJson, value?, List.mapM_map, items_read]
      rfl

theorem members?_document (message : Message) :
    members? (.object (message.document.map fun member => (.ofText member.1, member.2.toJson))) =
      some message.members := by
  rw [members?, List.mapM_map, Message.members]
  apply mapM_eq_some_map
  rintro ⟨name, field⟩ listed
  have fits (value : Nat) (equal : field = .nat value) : value < UInt64.size :=
    message.nat_lt_of_mem_document name value (equal ▸ listed)
  simp [value?_toJson fits 125, maxDepth]

/-- The names of a document are read from the entries of its object. -/
theorem mapM_name_document (message : Message) :
    (message.document.map fun member => (Quoted.ofText member.1, member.2.toJson)).mapM
      (fun entry => (entry.1.toText?).map fun name => (name, entry.2)) =
        some (message.document.map fun member => (member.1, member.2.toJson)) := by
  rw [List.mapM_map]
  apply mapM_eq_some_map
  simp

theorem filter_tag_document (message : Message) :
    (message.document.map fun member => (member.1, member.2.toJson)).filter
      (fun member => member.1 = tagName) = [(tagName, .text (.ofText message.kind.tag))] := by
  have no_other : (message.fields.map fun member => (member.1, member.2.toJson)).filter
      (fun member => member.1 = tagName) = [] := by
    rw [List.filter_eq_nil_iff]
    intro member listed
    obtain ⟨written, found, rfl⟩ := List.mem_map.1 listed
    simpa using message.name_ne_tagName written found
  rw [Message.document, List.map_cons, List.filter_cons_of_pos (by simp), no_other]
  rfl

theorem tag?_document (message : Message) :
    tag? (.object (message.document.map fun member => (.ofText member.1, member.2.toJson))) =
      some message.kind.tag := by
  rw [tag?, tagOfEntries?, mapM_name_document]
  simp only [filter_tag_document]
  exact Quoted.toText?_ofText message.kind.tag

theorem ofBytes?_encode (message : Message) :
    (ofBytes? (encode message)).bind tag? = some message.kind.tag ∧
      (ofBytes? (encode message)).bind message? = some message := by
  have read := ofBytes?_writeObject message.document
  rw [encode, read]
  refine ⟨tag?_document message, ?_⟩
  rw [Option.bind_some, message?, members?_document]
  simp [Members.required, message.find_tag_members, message.ofMembers?_members]

end Json

end PadRelay
