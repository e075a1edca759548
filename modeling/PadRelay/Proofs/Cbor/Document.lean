import PadRelay.Cbor.Document
import PadRelay.Proofs.Cbor.Head
import PadRelay.Proofs.Wire.Members

/-!
# CBOR documents written and read

The document of a message is a map of known length whose entries are the written fields, in order.
Its end is known from its lengths, so that whatever follows makes no difference: reading gives the
members of the message, and so the message, as long as no length needs more than 64 bits.
-/

namespace PadRelay

namespace Field

def toCbor : Field → Cbor
  | .bool value => .bool value
  | .nat value => .uint value
  | .text content => .text content false
  | .bytes content => .array (content.map fun byte => .uint byte.toNat)

/-- Whether the integers and the lengths in a field have at most 64 bits. -/
def Fits : Field → Prop
  | .bool _ => True
  | .nat value => value < UInt64.size
  | .text content => (Bytes.ofText content).length < UInt64.size
  | .bytes content => content.length < UInt64.size

end Field

namespace Cbor

def entry (member : String × Field) : Cbor × Cbor := (.text member.1 false, member.2.toCbor)

/-- An unsigned integer is read as such wherever a value may stand. -/
theorem run_writeUint {stack : List Context}
    (free : ∀ head, accept stack head = acceptValue stack head) (rest : Bytes) {value : Nat}
    (fits : value < UInt64.size) :
    run .start stack (writeHead 0 value ++ rest) = resume rest (fill (.uint value) stack) := by
  rw [run_writeHead stack rest (by omega) fits, Head.ofArgument, proceed_start, free, acceptValue]

theorem run_items (stack : List Context) (rest : Bytes) (done : List Cbor) {content : Bytes}
    (nonempty : content ≠ []) :
    run .start (.items (some content.length) done :: stack)
        ((content.flatMap fun byte => writeHead 0 byte.toNat) ++ rest) =
      resume rest
        (fill (.array (done.reverse ++ content.map fun byte => .uint byte.toNat)) stack) := by
  induction content generalizing done with
  | nil => exact absurd rfl nonempty
  | cons byte content induction =>
      have small : byte.toNat < UInt64.size := Nat.lt_trans byte.toNat_lt (by decide)
      rw [List.flatMap_cons, List.append_assoc, run_writeUint (fun _ => rfl) _ small]
      cases content with
      | nil => simp [fill]
      | cons next content =>
          have further := induction (.uint byte.toNat :: done) (List.cons_ne_nil next content)
          simpa [fill, resume] using further

/-- A field is read as its value wherever a value may stand. -/
theorem run_writeField {stack : List Context}
    (free : ∀ head, accept stack head = acceptValue stack head) (rest : Bytes) {field : Field}
    (fits : field.Fits) :
    run .start stack (writeField field ++ rest) = resume rest (fill field.toCbor stack) := by
  cases field with
  | bool value =>
      have known (byte : UInt8) (number : Nat)
          (read : Head.step byte .start = some (.start, some (.simple number))) :
          run .start stack (byte :: rest) =
            resume rest ((ofSimple? number).bind fun value => fill value stack) := by
        rw [run_cons read, proceed_start, free, acceptValue]
      cases value with
      | false => exact known 0xf4 20 rfl
      | true => exact known 0xf5 21 rfl
  | nat value => exact run_writeUint free rest fits
  | text content =>
      rw [writeField, run_writeText stack rest fits, free, acceptValue, Bytes.toText?_ofText]
      rfl
  | bytes content =>
      rw [writeField, List.append_assoc, run_writeHead stack _ (by omega) fits, Head.ofArgument,
        proceed_start, free, acceptValue]
      cases content with
      | nil => rfl
      | cons byte content =>
          have taken := run_items stack rest [] (List.cons_ne_nil byte content)
          simpa [resume, Field.toCbor] using taken

theorem run_members (rest : Bytes) (done : Entries) {members : List (String × Field)}
    (nonempty : members ≠ []) (names_fit : ∀ member ∈ members,
      (Bytes.ofText member.1).length < UInt64.size)
    (fields_fit : ∀ member ∈ members, member.2.Fits) :
    run .start [.names (some members.length) done]
        ((members.flatMap fun member => writeText member.1 ++ writeField member.2) ++ rest) =
      some (.map (done.reverse ++ members.map entry)) := by
  induction members generalizing done with
  | nil => exact absurd rfl nonempty
  | cons member members induction =>
      have name_fits := names_fit member List.mem_cons_self
      have named : accept [.names (some (members.length + 1)) done]
            (.text (some (Bytes.ofText member.1))) =
          some (.within [.members (some (members.length + 1)) done (.text member.1 false)]) := by
        simp [accept, acceptValue, fill]
      rw [List.flatMap_cons, List.append_assoc, List.append_assoc, List.length_cons,
        run_writeText _ _ name_fits, named, resume,
        run_writeField (fun _ => rfl) _ (fields_fit member List.mem_cons_self)]
      cases members with
      | nil => simp [fill, resume, entry]
      | cons next members =>
          have further := induction (entry member :: done) (List.cons_ne_nil next members)
            (fun other listed => names_fit other (List.mem_cons_of_mem member listed))
            (fun other listed => fields_fit other (List.mem_cons_of_mem member listed))
          simpa [fill, resume, entry] using further

/-- What is read from a written map is its members, whatever follows. -/
theorem ofBytes?_writeMap (rest : Bytes) {members : List (String × Field)}
    (few : members.length < UInt64.size) (names_fit : ∀ member ∈ members,
      (Bytes.ofText member.1).length < UInt64.size)
    (fields_fit : ∀ member ∈ members, member.2.Fits) :
    ofBytes? (writeMap members ++ rest) = some (.map (members.map entry)) := by
  have free (head : Head) : accept [] head = acceptValue [] head := rfl
  rw [ofBytes?, writeMap, List.append_assoc, run_writeHead _ _ (by omega) few, Head.ofArgument,
    proceed_start, free, acceptValue]
  cases members with
  | nil => rfl
  | cons first members =>
      have taken := run_members rest [] (List.cons_ne_nil first members) names_fit fields_fit
      simpa [resume] using taken

theorem value?_toCbor (field : Field) (levels : Nat) :
    value? (levels + 1) field.toCbor = some field.toValue := by
  cases field with
  | bool value => simp [Field.toCbor, value?]
  | nat value => simp [Field.toCbor, value?]
  | text content => simp [Field.toCbor, value?]
  | bytes content =>
      have items_read : content.mapM (value? levels ∘ fun byte => .uint byte.toNat) =
          some (content.map fun byte => .nat byte.toNat) :=
        mapM_eq_some_map fun byte _ => by simp [value?]
      rw [Field.toCbor, value?, List.mapM_map, items_read]
      rfl

/-- A written field is passed over by the probe. -/
theorem isPassable_toCbor (field : Field) (levels : Nat) :
    isPassable (levels + 1) field.toCbor = true := by
  cases field with
  | bytes content => simp [Field.toCbor, isPassable, wideInteger?]
  | _ => simp [Field.toCbor, isPassable, wideInteger?]

theorem length_name_le (message : Message) :
    ∀ member ∈ message.document, (Bytes.ofText member.1).length ≤ maxName := by
  have short : ∀ name ∈ tagName :: Message.fieldNames, (Bytes.ofText name).length ≤ maxName := by
    decide
  intro member listed
  rcases List.mem_cons.1 listed with rfl | listed
  · exact short tagName List.mem_cons_self
  · exact short member.1 (List.mem_cons_of_mem _ (message.name_mem_fieldNames member listed))

theorem length_document_le (message : Message) : message.document.length ≤ 5 := by
  have optional_length {α : Type} (name : String) (write : α → Field) (value : Option α) :
      (Message.optionalField name write value).length ≤ 1 := by
    cases value <;> simp [Message.optionalField]
  cases message with
  | keyRequest request =>
      have function := optional_length "function" (fun function => .text function.name)
        request.function
      have target := optional_length "targetIdentity"
        (fun target : Identity => .nat target.toNat) request.target
      have size := optional_length "requestedSize" (fun size : UInt32 => .nat size.toNat)
        request.size
      simp only [Message.document, Message.fields, List.length_cons, List.length_append]
      omega
  | keyResponse response =>
      have key := optional_length "keyBytes" .bytes response.key
      simp only [Message.document, Message.fields, Message.outcomeFields, List.length_cons,
        List.length_append, List.length_nil]
      omega
  | _ => simp [Message.document, Message.fields, Message.outcomeFields]

theorem members?_document (message : Message) :
    members? (.map (message.document.map entry)) = some message.members := by
  rw [members?, List.mapM_map, Message.members]
  apply mapM_eq_some_map
  intro member listed
  have named : nameBytes? (.text member.1 false) = some (Bytes.ofText member.1) :=
    if_pos (length_name_le message member listed)
  have levels : maxDepth - 1 = 254 + 1 := rfl
  rcases List.mem_cons.1 listed with rfl | found
  · simp only [] at named
    simp [named, entry, Field.toCbor, tagValue?, untagged]
  · have other := message.name_ne_tagName member found
    simp [named, entry, Bytes.ofText_inj, other, levels, value?_toCbor]

/-- The tag of a document is found among the entries of its map. -/
theorem tag?_document (message : Message) :
    tag? (.map (message.document.map entry)) = some message.kind.tag := by
  have named : (message.document.map entry).mapM (fun entry =>
      (nameBytes? (untagged entry.1)).map fun name => (name, entry.2)) =
        some (message.document.map fun member => (Bytes.ofText member.1, member.2.toCbor)) := by
    rw [List.mapM_map]
    apply mapM_eq_some_map
    intro member listed
    have short := length_name_le message member listed
    simp [entry, untagged, nameBytes?, short]
  have no_other : (message.fields.map fun member =>
      (Bytes.ofText member.1, member.2.toCbor)).filter
        (fun member => member.1 = Bytes.ofText tagName) = [] := by
    rw [List.filter_eq_nil_iff]
    intro member listed
    obtain ⟨written, found, rfl⟩ := List.mem_map.1 listed
    simpa [Bytes.ofText_inj] using message.name_ne_tagName written found
  have only_tag : (message.document.map fun member =>
      (Bytes.ofText member.1, member.2.toCbor)).filter
        (fun member => member.1 = Bytes.ofText tagName) =
          [(Bytes.ofText tagName, .text message.kind.tag false)] := by
    rw [Message.document, List.map_cons, List.filter_cons_of_pos (by simp), no_other]
    rfl
  have passable : ((message.document.map fun member =>
      (Bytes.ofText member.1, member.2.toCbor)).filter
        (not ∘ fun member => decide (member.1 = Bytes.ofText tagName))).all
          (fun member => isPassable (maxDepth - 1) member.2) = true := by
    rw [List.all_eq_true]
    intro member listed
    obtain ⟨written, found, rfl⟩ := List.mem_map.1 (List.mem_filter.1 listed).1
    exact isPassable_toCbor written.2 254
  simp only [tag?, untagged, named, List.partition_eq_filter_filter, only_tag, untagged, passable,
    if_true]

/-- What is read from a written message is the map of its members, whatever follows. -/
theorem ofBytes?_encode_append (message : Message)
    (fits : ∀ member ∈ message.document, member.2.Fits) (rest : Bytes) :
    ofBytes? (encode message ++ rest) = some (.map (message.document.map entry)) := by
  have few : message.document.length < UInt64.size :=
    Nat.lt_of_le_of_lt (length_document_le message) (by decide)
  have names_fit (member : String × Field) (listed : member ∈ message.document) :
      (Bytes.ofText member.1).length < UInt64.size :=
    Nat.lt_of_le_of_lt (length_name_le message member listed) (by decide)
  exact ofBytes?_writeMap rest few names_fit fits

/-- Reading a written message gives its tag and the message, whatever follows. -/
theorem ofBytes?_encode (message : Message) (fits : ∀ member ∈ message.document, member.2.Fits)
    (rest : Bytes) :
    (ofBytes? (encode message ++ rest)).bind tag? = some message.kind.tag ∧
      (ofBytes? (encode message ++ rest)).bind message? = some message := by
  rw [ofBytes?_encode_append message fits rest]
  refine ⟨tag?_document message, ?_⟩
  rw [Option.bind_some, message?, members?_document]
  simp [Members.required, message.find_tag_members, message.ofMembers?_members]

end Cbor

end PadRelay
