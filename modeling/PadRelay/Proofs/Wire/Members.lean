import PadRelay.Wire.Fields

/-!
# Members written and read

A message is its kind and its members: reading the members that a message writes, whichever format
carried them, gives the message back.
-/

namespace PadRelay

theorem Bytes.ofText_inj {left right : String} :
    Bytes.ofText left = Bytes.ofText right ↔ left = right := by
  constructor
  · intro same
    have read := congrArg Bytes.toText? same
    simpa using read
  · rintro rfl
    rfl

theorem mapM_eq_some_map {α β : Type} {f : α → Option β} {g : α → β} {items : List α}
    (each : ∀ item ∈ items, f item = some (g item)) : items.mapM f = some (items.map g) := by
  induction items with
  | nil => rfl
  | cons item items induction =>
      have rest := induction fun other member => each other (List.mem_cons_of_mem item member)
      rw [List.mapM_cons, each item List.mem_cons_self, rest]
      rfl

/-- Choosing among what was read from the items of a list is reading from the items chosen, if both
choices agree on each. -/
theorem mapM_filter {α β : Type} {f : α → Option β} (chosen : α → Bool) (taken : β → Bool)
    (agree : ∀ {item result}, f item = some result → taken result = chosen item) {items : List α}
    {results : List β} (read : items.mapM f = some results) :
    (items.filter chosen).mapM f = some (results.filter taken) := by
  induction items generalizing results with
  | nil =>
      cases read
      rfl
  | cons item items induction =>
      simp only [List.mapM_cons, Option.bind_eq_bind, Option.bind_eq_some_iff,
        Option.pure_def, Option.some.injEq] at read
      obtain ⟨result, first, others, further, rfl⟩ := read
      have rest := induction further
      have same := agree first
      rw [List.filter_cons, List.filter_cons, same]
      cases chosen item with
      | false => simpa using rest
      | true => simp [first, rest]

theorem mapM_eq_singleton {α β : Type} {f : α → Option β} {items : List α} {result : β}
    (read : items.mapM f = some [result]) : ∃ item, items = [item] ∧ f item = some result := by
  cases items with
  | nil => cases read
  | cons item items =>
      simp only [List.mapM_cons, Option.bind_eq_bind, Option.bind_eq_some_iff, Option.pure_def,
        Option.some.injEq, List.cons.injEq] at read
      obtain ⟨first, read_first, others, further, rfl, rfl⟩ := read
      cases items with
      | nil => exact ⟨item, rfl, read_first⟩
      | cons next items =>
          simp only [List.mapM_cons, Option.bind_eq_bind, Option.bind_eq_some_iff, Option.pure_def,
            Option.some.injEq, List.cons_ne_nil, and_false, exists_false] at further

theorem mapM_singleton_eq {α β : Type} {f : α → Option β} {item : α} {results : List β}
    (read : [item].mapM f = some results) :
    ∃ result, results = [result] ∧ f item = some result := by
  simp only [List.mapM_cons, List.mapM_nil, Option.bind_eq_bind, Option.bind_eq_some_iff,
    Option.pure_def, Option.some.injEq] at read
  obtain ⟨result, read_item, others, rfl, rfl⟩ := read
  exact ⟨result, rfl, read_item⟩

theorem exists_mapM_iff {α β : Type} {f : α → Option β} {items : List α} :
    (∃ results, items.mapM f = some results) ↔ ∀ item ∈ items, ∃ result, f item = some result := by
  induction items with
  | nil => exact ⟨fun _ _ member => absurd member List.not_mem_nil, fun _ => ⟨[], rfl⟩⟩
  | cons item items induction =>
      rw [List.forall_mem_cons, ← induction]
      constructor
      · rintro ⟨results, read⟩
        simp only [List.mapM_cons, Option.bind_eq_bind, Option.bind_eq_some_iff] at read
        obtain ⟨result, first, others, further, -⟩ := read
        exact ⟨⟨result, first⟩, others, further⟩
      · rintro ⟨⟨result, first⟩, others, further⟩
        exact ⟨result :: others, by rw [List.mapM_cons, first, further]; rfl⟩

theorem exists_of_mem_mapM {α β : Type} {f : α → Option β} {items : List α} {results : List β}
    (read : items.mapM f = some results) :
    ∀ result ∈ results, ∃ item ∈ items, f item = some result := by
  induction items generalizing results with
  | nil =>
      cases read
      exact fun _ member => absurd member List.not_mem_nil
  | cons item items induction =>
      simp only [List.mapM_cons, Option.bind_eq_bind, Option.bind_eq_some_iff,
        Option.pure_def, Option.some.injEq] at read
      obtain ⟨result, first, others, further, rfl⟩ := read
      refine List.forall_mem_cons.2 ⟨⟨item, List.mem_cons_self, first⟩, fun other listed => ?_⟩
      obtain ⟨origin, member, same⟩ := induction further other listed
      exact ⟨origin, List.mem_cons_of_mem item member, same⟩

theorem mapM_perm {α β : Type} {f : α → Option β} {items others : List α} {results : List β}
    (arranged : items.Perm others) (read : others.mapM f = some results) :
    ∃ found, items.mapM f = some found ∧ found.Perm results := by
  induction arranged generalizing results with
  | nil => exact ⟨results, read, .refl results⟩
  | cons item _ induction =>
      simp only [List.mapM_cons, Option.bind_eq_bind, Option.bind_eq_some_iff,
        Option.pure_def, Option.some.injEq] at read
      obtain ⟨result, first, rest, further, rfl⟩ := read
      obtain ⟨found, found_read, found_perm⟩ := induction further
      exact ⟨result :: found, by rw [List.mapM_cons, first, found_read]; rfl,
        found_perm.cons result⟩
  | swap item next items =>
      simp only [List.mapM_cons, Option.bind_eq_bind, Option.bind_eq_some_iff,
        Option.pure_def, Option.some.injEq] at read
      obtain ⟨result, first, rest, ⟨other, second, more, further, rfl⟩, rfl⟩ := read
      exact ⟨other :: result :: more, by
        rw [List.mapM_cons, List.mapM_cons, first, second, further]; rfl, .swap _ _ _⟩
  | trans _ _ first second =>
      obtain ⟨middle, middle_read, middle_perm⟩ := second read
      obtain ⟨found, found_read, found_perm⟩ := first middle_read
      exact ⟨found, found_read, found_perm.trans middle_perm⟩

theorem Members.find_of_filter {members : Members} {name : String} {member : Bytes × Value}
    (single : (members.filter fun member => member.1 = Bytes.ofText name) = [member]) :
    members.find name = some (some member.2) := by
  rw [find, single]

/-- Where a member stands makes no difference. -/
theorem Members.find_perm {members others : Members} (arranged : members.Perm others)
    (name : String) : members.find name = others.find name := by
  have chosen := arranged.filter fun member => member.1 = Bytes.ofText name
  rw [find, find]
  generalize members.filter _ = found at chosen
  generalize others.filter _ = expected at chosen
  match expected with
  | [] => rw [chosen.eq_nil]
  | [member] => rw [chosen.eq_singleton]
  | _ :: _ :: _ =>
      match found, chosen.length_eq with
      | _ :: _ :: _, _ => rfl

theorem Members.find_append {members others : Members} {name : String}
    (apart : ∀ member ∈ others, member.1 ≠ Bytes.ofText name) :
    find (members ++ others) name = members.find name := by
  have none_chosen : others.filter (fun member => member.1 = Bytes.ofText name) = [] := by
    simpa [List.filter_eq_nil_iff] using apart
  rw [find, find, List.filter_append, none_chosen, List.append_nil]

namespace Field

@[simp]
theorem toValue_bool (value : Bool) : (Field.bool value).toValue = .bool value := rfl

@[simp]
theorem toValue_nat (value : Nat) : (Field.nat value).toValue = .nat value := rfl

@[simp]
theorem toValue_text (content : String) : (Field.text content).toValue = .text content := rfl

end Field

namespace Value

@[simp]
theorem toNatBelow?_nat_of_lt {value bound : Nat} (below : value < bound) :
    (Value.nat value).toNatBelow? bound = some value := by
  simp [toNatBelow?, below]

theorem toBytes?_toValue (content : Bytes) :
    (Field.bytes content).toValue.toBytes? = some content := by
  rw [Field.toValue, toBytes?, List.mapM_map, mapM_eq_some_map (g := id), List.map_id]
  intro byte _
  simp [byte.toNat_lt]

end Value

@[simp]
theorem identityOfValue?_toNat (identity : Identity) :
    identityOfValue? (.nat identity.toNat) = some identity := by
  simp [identityOfValue?, identity.toNat_lt]

@[simp]
theorem sizeOfValue?_toNat (size : UInt32) : sizeOfValue? (.nat size.toNat) = some size := by
  simp [sizeOfValue?, size.toNat_lt]

@[simp]
theorem Code.ofValue?_number (code : Code) : Code.ofValue? (.nat code.number) = some code := by
  simp [Code.ofValue?, code.number_lt]

@[simp]
theorem KeyFunction.ofValue?_name (function : KeyFunction) :
    KeyFunction.ofValue? (.text function.name) = some function := by
  simp [KeyFunction.ofValue?]

namespace Message

/-- The members that a reader finds in the document of a message. -/
def members (message : Message) : Members :=
  message.document.map fun member => (Bytes.ofText member.1, member.2.toValue)

/-- The outcome of a response is found among its members, whatever else they hold. -/
theorem outcomeOfMembers?_append (tag : String) (outcome : Outcome) (rest : List (String × Field))
    (apart : ∀ member ∈ rest, member.1 = "keyBytes") :
    outcomeOfMembers? (((tagName, .text tag) :: outcomeFields outcome ++ rest).map fun member =>
      (Bytes.ofText member.1, member.2.toValue)) = some outcome := by
  have none_of_them (name : String) (other : name ≠ "keyBytes") :
      (rest.map fun member => (Bytes.ofText member.1, member.2.toValue)).filter
        (fun member => member.1 = Bytes.ofText name) = [] := by
    rw [List.filter_eq_nil_iff]
    intro member listed
    obtain ⟨written, found, rfl⟩ := List.mem_map.1 listed
    simp [Bytes.ofText_inj, apart written found, Ne.symm other]
  simp [outcomeOfMembers?, outcomeFields, Members.required, Members.find, Bytes.ofText_inj,
    tagName, Value.toBool?, Value.toText?, none_of_them]

/-- Reading the members of a message gives the message back. -/
theorem ofMembers?_members (message : Message) :
    ofMembers? message.kind message.members = some message := by
  have outcome_read (tag : String) (outcome : Outcome) :=
    outcomeOfMembers?_append tag outcome [] (by simp)
  simp only [List.append_nil] at outcome_read
  cases message with
  | welcome identity =>
      simp [ofMembers?, members, document, fields, kind, Members.required, Members.find,
        Bytes.ofText_inj, tagName]
  | keyRequest request =>
      obtain ⟨function, target, size⟩ := request
      cases function <;> cases target <;> cases size <;>
        simp [ofMembers?, members, document, fields, kind, optionalField, Members.optional,
          Members.find, Bytes.ofText_inj, tagName, Value.isNothing]
  | keyResponse response =>
      obtain ⟨outcome, key⟩ := response
      have read := outcomeOfMembers?_append Kind.keyResponse.tag outcome
        (optionalField "keyBytes" .bytes key) (by cases key <;> simp [optionalField])
      have key_read : (members (.keyResponse ⟨outcome, key⟩)).optional "keyBytes"
          Value.toBytes? = some key := by
        cases key with
        | none =>
            simp [members, document, fields, outcomeFields, optionalField, Members.optional,
              Members.find, Bytes.ofText_inj, tagName]
        | some content =>
            have not_nothing : (Field.bytes content).toValue.isNothing = false := rfl
            simp [members, document, fields, outcomeFields, optionalField, Members.optional,
              Members.find, Bytes.ofText_inj, tagName, Value.toBytes?_toValue, not_nothing]
      simp only [ofMembers?, kind, key_read]
      simp only [members, document, fields, kind, ← List.cons_append, read]
      rfl
  | keyAck target =>
      simp [ofMembers?, members, document, fields, kind, Members.required, Members.find,
        Bytes.ofText_inj, tagName]
  | ackResponse outcome =>
      simp only [ofMembers?, members, document, fields, kind, outcome_read, Option.map_some]
  | deleteResponse outcome =>
      simp only [ofMembers?, members, document, fields, kind, outcome_read, Option.map_some]
  | errorResponse code reason =>
      simp [ofMembers?, members, document, fields, kind, Members.required, Members.find,
        Bytes.ofText_inj, tagName, Value.toText?]

theorem kind_of_ofMembers? {kind : Kind} {members : Members} {message : Message}
    (read : ofMembers? kind members = some message) : message.kind = kind := by
  cases kind with
  | ackResponse | deleteResponse =>
      obtain ⟨outcome, -, rfl⟩ := Option.map_eq_some_iff.1 read
      rfl
  | _ =>
      simp only [ofMembers?, Option.bind_eq_bind, Option.bind_eq_some_iff, Option.pure_def,
        Option.some.injEq] at read
      grind [kind]

def fieldNames : List String :=
  ["identity", "function", "targetIdentity", "requestedSize", "success", "code", "reason",
   "keyBytes"]

theorem name_mem_fieldNames (message : Message) :
    ∀ member ∈ message.fields, member.1 ∈ fieldNames := by
  have optional_names {α : Type} {name : String} (write : α → Field) (value : Option α) :
      ∀ member ∈ optionalField name write value, member.1 = name := by
    cases value <;> simp [optionalField]
  cases message with
  | keyRequest request =>
      intro member listed
      simp only [fields, List.mem_append] at listed
      rcases listed with (found | found) | found <;>
        simp [optional_names _ _ member found, fieldNames]
  | keyResponse response =>
      intro member listed
      rcases List.mem_append.1 listed with found | found
      · simp only [outcomeFields, List.mem_cons, List.not_mem_nil, or_false] at found
        rcases found with rfl | rfl | rfl <;> simp [fieldNames]
      · simp [optional_names _ _ member found, fieldNames]
  | _ => simp [fields, outcomeFields, fieldNames]

theorem name_ne_tagName (message : Message) :
    ∀ member ∈ message.fields, member.1 ≠ tagName := by
  have apart : ∀ name ∈ fieldNames, name ≠ tagName := by decide
  exact fun member listed => apart member.1 (message.name_mem_fieldNames member listed)

/-- Every integer in the document of a message has at most 64 bits. -/
theorem nat_lt_of_mem_document (message : Message) (name : String) (value : Nat)
    (member : (name, Field.nat value) ∈ message.document) : value < UInt64.size := by
  have code_small (code : Code) : code.number < UInt64.size :=
    Nat.lt_trans code.number_lt (by decide)
  have identity_small (identity : Identity) : identity.toNat < UInt64.size := identity.toNat_lt
  have size_small (size : UInt32) : size.toNat < UInt64.size :=
    Nat.lt_trans size.toNat_lt (by decide)
  cases message with
  | keyRequest request =>
      obtain ⟨function, target, size⟩ := request
      cases function <;> cases target <;> cases size <;>
        simp [document, fields, optionalField] at member <;> grind
  | keyResponse response =>
      obtain ⟨outcome, key⟩ := response
      cases key <;> simp [document, fields, outcomeFields, optionalField] at member <;> grind
  | _ =>
      simp [document, fields, outcomeFields] at member
      grind

theorem find_tag_members (message : Message) :
    message.members.find tagName = some (some (.text message.kind.tag)) := by
  have no_other : (message.fields.map fun member =>
      (Bytes.ofText member.1, member.2.toValue)).filter
        (fun member => member.1 = Bytes.ofText tagName) = [] := by
    rw [List.filter_eq_nil_iff]
    intro member listed
    obtain ⟨written, found, rfl⟩ := List.mem_map.1 listed
    simpa [Bytes.ofText_inj] using message.name_ne_tagName written found
  simp [members, document, Members.find, no_other]

end Message

end PadRelay
