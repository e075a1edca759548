import Mathlib.Data.List.Count
import Mathlib.Data.List.Nodup
import PadRelay.Proofs.Json.Readable
import PadRelay.Proofs.Wire.Classification
import PadRelay.Proofs.Wire.RoundTrip

/-!
# Presentations of a message

The same message may be presented by many documents: its members in any order, what is absent left
out or written as null, members of other names among them, blanks wherever the grammar allows them.
All of them are read as the message, unless a number among the other members is too large.
-/

namespace PadRelay

namespace Kind

/-- The fields that a document of the kind has to have. -/
def requiredNames : Kind → List String
  | .welcome => ["identity"]
  | .keyRequest => []
  | .keyAck => ["targetIdentity"]
  | .keyResponse | .ackResponse | .deleteResponse => ["success", "code", "reason"]
  | .errorResponse => ["code", "reason"]

/-- The fields that it may leave out. -/
def optionalNames : Kind → List String
  | .keyRequest => ["function", "targetIdentity", "requestedSize"]
  | .keyResponse => ["keyBytes"]
  | _ => []

/-- The names that mean something in a document of the kind. -/
def names (kind : Kind) : List String := tagName :: kind.requiredNames ++ kind.optionalNames

/-- A name that means something may be left out or not, and not both. -/
theorem nodup_names (kind : Kind) : kind.names.Nodup := by
  cases kind <;> decide

end Kind

namespace Message

theorem ofMembers?_congr {kind : Kind} {members others : Members}
    (required : ∀ name ∈ kind.requiredNames, members.find name = others.find name)
    (optional : ∀ name ∈ kind.optionalNames, ∀ {α : Type} (read : Value → Option α),
      members.optional name read = others.optional name read) :
    ofMembers? kind members = ofMembers? kind others := by
  cases kind <;>
    simp only [Kind.requiredNames, Kind.optionalNames, List.forall_mem_cons]
      at required optional <;>
    simp [ofMembers?, outcomeOfMembers?, Members.required, required, optional]

end Message

/-- The entries of a message, of absent fields as null and of other members. -/
def Message.entries (message : Message) (nulls : List String) (extra : List Json.Member) :
    Json.Entries :=
  (message.document.map fun member => (.ofText member.1, member.2.toJson)) ++
    (nulls.map fun name => (.ofText name, .null)) ++ extra.map Json.Member.entry

/-- A JSON object that presents a message. -/
structure Presentation (message : Message) where
  /-- The absent fields that are written as null. -/
  nulls : List String
  /-- The members of other names. -/
  extra : List Json.Member
  /-- The members in their order. -/
  entries : Json.Entries
  /-- A field may be absent only if its kind allows it. -/
  nulls_absent : ∀ name ∈ nulls, name ∈ message.kind.optionalNames ∧
    ∀ member ∈ message.document, member.1 ≠ name
  /-- No absent field is written twice. -/
  nulls_nodup : nulls.Nodup
  /-- Other names are neither that of the tag nor those of fields. -/
  extra_foreign : ∀ member ∈ extra, member.name ∉ message.kind.names
  /-- The values of other members nest less than 127 levels, so that the document nests less than
  128, and their texts are well-formed. -/
  extra_readable : ∀ member ∈ extra, Json.Readable (fun _ => True) 126 member.value
  /-- The members are those of the message, the nulls and the others. -/
  arranged : entries.Perm (message.entries nulls extra)

namespace Presentation

variable {message : Message} (presentation : Presentation message)

def nullMembers : Members := presentation.nulls.map fun name => (Bytes.ofText name, .unit)

/-- The members are those of the message, the nulls, and others of other names, in some order. -/
def Shown (members : Members) : Prop :=
  ∃ others : Members, members.Perm (message.members ++ presentation.nullMembers ++ others) ∧
    ∀ member ∈ others, ∃ name ∉ message.kind.names, member.1 = Bytes.ofText name

/-- How a member is read from its entry. -/
def readEntry (entry : Json.Quoted × Json) : Option (Bytes × Value) := do
  let name ← entry.1.toText?
  let value ← Json.value? 126 entry.2
  return (Bytes.ofText name, value)

theorem members?_object (entries : Json.Entries) :
    Json.members? (.object entries) = entries.mapM readEntry := rfl

theorem readEntry_entry {member : Json.Member} {result : Bytes × Value} :
    readEntry member.entry = some result ↔
      ∃ value, Json.value? 126 member.value = some value ∧
        (Bytes.ofText member.name, value) = result := by
  simp [readEntry, Json.Member.entry, member.means.toText?_pieces, Option.bind_eq_some_iff]

/-- If the values of the other members are read, the members are read in their order. -/
theorem exists_members?
    (read : ∀ member ∈ presentation.extra, ∃ value, Json.value? 126 member.value = some value) :
    ∃ members, Json.members? (.object presentation.entries) = some members ∧
      presentation.Shown members := by
  have own := Json.members?_document message
  rw [members?_object] at own
  have nulls : (presentation.nulls.map fun name => (Json.Quoted.ofText name, Json.null)).mapM
      readEntry = some presentation.nullMembers := by
    rw [List.mapM_map]
    exact mapM_eq_some_map fun name _ => by simp [readEntry, Json.value?]
  obtain ⟨others, others_read⟩ : ∃ others,
      (presentation.extra.map Json.Member.entry).mapM readEntry = some others := by
    rw [exists_mapM_iff, List.forall_mem_map]
    intro member listed
    obtain ⟨value, value_read⟩ := read member listed
    exact ⟨_, readEntry_entry.2 ⟨value, value_read, rfl⟩⟩
  have in_order : (message.entries presentation.nulls presentation.extra).mapM readEntry =
      some (message.members ++ presentation.nullMembers ++ others) := by
    rw [Message.entries, List.mapM_append, List.mapM_append, own, nulls, others_read]
    rfl
  obtain ⟨members, members_read, same⟩ := mapM_perm presentation.arranged in_order
  refine ⟨members, members_read, others, same, fun member listed => ?_⟩
  obtain ⟨entry, found, entry_read⟩ := exists_of_mem_mapM others_read member listed
  obtain ⟨written, origin, rfl⟩ := List.mem_map.1 found
  obtain ⟨value, -, rfl⟩ := readEntry_entry.1 entry_read
  exact ⟨written.name, presentation.extra_foreign written origin, rfl⟩

theorem exists_value?_of_members? {members : Members}
    (read : Json.members? (.object presentation.entries) = some members) :
    ∀ member ∈ presentation.extra, ∃ value, Json.value? 126 member.value = some value := by
  intro member listed
  have entry_listed : member.entry ∈ presentation.entries :=
    presentation.arranged.mem_iff.2 (List.mem_append_right _ (List.mem_map_of_mem listed))
  obtain ⟨result, entry_read⟩ := exists_mapM_iff.1 ⟨members, read⟩ _ entry_listed
  obtain ⟨value, value_read, -⟩ := readEntry_entry.1 entry_read
  exact ⟨value, value_read⟩

variable {presentation}

/-- A name that means something is not found among the others. -/
theorem Shown.find_eq {members : Members} (shown : presentation.Shown members) {name : String}
    (meaningful : name ∈ message.kind.names) :
    members.find name = (message.members ++ presentation.nullMembers).find name := by
  obtain ⟨others, same, foreign⟩ := shown
  rw [Members.find_perm same]
  refine Members.find_append fun member listed equal => ?_
  obtain ⟨other, unknown, named⟩ := foreign member listed
  rw [named, Bytes.ofText_inj] at equal
  exact unknown (equal ▸ meaningful)

theorem not_mem_nulls {name : String} (required : name ∈ tagName :: message.kind.requiredNames) :
    name ∉ presentation.nulls := by
  intro absent
  have apart := List.disjoint_of_nodup_append message.kind.nodup_names
  exact apart required (presentation.nulls_absent name absent).1

theorem find_of_not_mem_nulls {name : String} (present : name ∉ presentation.nulls) :
    Members.find (message.members ++ presentation.nullMembers) name =
      message.members.find name := by
  refine Members.find_append fun member listed equal => ?_
  obtain ⟨absent, found, rfl⟩ := List.mem_map.1 listed
  exact present (Bytes.ofText_inj.1 equal ▸ found)

theorem Shown.find_required {members : Members} (shown : presentation.Shown members)
    {name : String} (required : name ∈ tagName :: message.kind.requiredNames) :
    members.find name = message.members.find name := by
  rw [shown.find_eq (List.mem_append_left _ required),
    find_of_not_mem_nulls (not_mem_nulls required)]

/-- A field that may be left out is found as the message has it, or as null if it has none. -/
theorem Shown.optional_eq {members : Members} (shown : presentation.Shown members)
    {name : String} (optional : name ∈ message.kind.optionalNames) {α : Type}
    (read : Value → Option α) :
    members.optional name read = message.members.optional name read := by
  have found := shown.find_eq (List.mem_append_right _ optional)
  by_cases absent : name ∈ presentation.nulls
  · have none_own : message.members.filter (fun member => member.1 = Bytes.ofText name) = [] := by
      rw [List.filter_eq_nil_iff]
      intro member listed
      obtain ⟨written, origin, rfl⟩ := List.mem_map.1 listed
      simpa [Bytes.ofText_inj] using (presentation.nulls_absent name absent).2 written origin
    have one_null : presentation.nullMembers.filter (fun member => member.1 = Bytes.ofText name) =
        [(Bytes.ofText name, .unit)] := by
      have single := List.count_eq_one_of_mem presentation.nulls_nodup absent
      have chosen : presentation.nulls.filter (fun other => other = name) = [name] := by
        rw [List.filter_eq, single, List.replicate_one]
      rw [nullMembers, List.filter_map]
      simp only [Function.comp_def, Bytes.ofText_inj, chosen, List.map_singleton]
    have own : message.members.find name = some none := by rw [Members.find, none_own]
    have null : Members.find (message.members ++ presentation.nullMembers) name =
        some (some .unit) := by
      rw [Members.find, List.filter_append, none_own, one_null]
      rfl
    rw [Members.optional, Members.optional, found, null, own]
    rfl
  · rw [Members.optional, Members.optional, found, find_of_not_mem_nulls absent]

theorem Shown.ofMembers? {members : Members} (shown : presentation.Shown members) :
    Message.ofMembers? message.kind members = some message := by
  rw [← message.ofMembers?_members]
  exact Message.ofMembers?_congr
    (fun name required => shown.find_required (List.mem_cons_of_mem _ required))
    fun name optional α read => shown.optional_eq optional read

/-- The tag is found in every presentation. -/
theorem tag?_entries (presentation : Presentation message) :
    Json.tag? (.object presentation.entries) = some message.kind.tag := by
  have nulls : (presentation.nulls.map fun name => (Json.Quoted.ofText name, Json.null)).mapM
      (fun entry => (entry.1.toText?).map fun name => (name, entry.2)) =
        some (presentation.nulls.map fun name => (name, .null)) := by
    rw [List.mapM_map]
    exact mapM_eq_some_map fun name _ => by simp
  have in_order : (message.entries presentation.nulls presentation.extra).mapM
      (fun entry => (entry.1.toText?).map fun name => (name, entry.2)) =
        some ((message.document.map fun member => (member.1, member.2.toJson)) ++
          (presentation.nulls.map fun name => (name, .null)) ++
          presentation.extra.map fun member => (member.name, member.value)) := by
    rw [Message.entries, List.mapM_append, List.mapM_append, Json.mapM_name_document, nulls,
      Json.mapM_entry]
    rfl
  obtain ⟨named, named_read, same⟩ := mapM_perm presentation.arranged in_order
  have no_null : (presentation.nulls.map fun name => (name, Json.null)).filter
      (fun member => member.1 = tagName) = [] := by
    rw [List.filter_eq_nil_iff, List.forall_mem_map]
    intro name absent tagged
    have same_name : name = tagName := of_decide_eq_true tagged
    exact not_mem_nulls List.mem_cons_self (same_name ▸ absent)
  have no_extra : (presentation.extra.map fun member => (member.name, member.value)).filter
      (fun member => member.1 = tagName) = [] := by
    rw [List.filter_eq_nil_iff, List.forall_mem_map]
    intro member listed tagged
    have same_name : member.name = tagName := of_decide_eq_true tagged
    exact presentation.extra_foreign member listed (same_name ▸ List.mem_cons_self)
  have chosen := same.filter fun member => member.1 = tagName
  rw [List.filter_append, List.filter_append, Json.filter_tag_document, no_null, no_extra] at chosen
  rw [Json.tag?, Json.tagOfEntries?, named_read]
  simp only [chosen.eq_singleton]
  exact Json.Quoted.toText?_ofText message.kind.tag

end Presentation

/-- A presentation of a message is read as the message exactly if the numbers in its other members
are read as finite doubles. -/
theorem Presentation.decode_eq_ok_iff {message : Message} (presentation : Presentation message)
    {bytes : Bytes} (written : Json.Written (.object presentation.entries) bytes) :
    Codec.json.decode bytes = .ok message ↔ ∀ member ∈ presentation.extra,
      Json.Readable (fun numeral => numeral.inRange = true) 126 member.value := by
  have parsed := written.ofBytes?
  have probed : Codec.json.probe? bytes = some message.kind.tag := by
    rw [Codec.probe?, parsed, Option.bind_some, presentation.tag?_entries]
  have readable (member : Json.Member) (listed : member ∈ presentation.extra) :=
    (presentation.extra_readable member listed).exists_value?_iff
  constructor
  · intro decoded member listed
    have read := Codec.message?_of_decode decoded
    rw [Codec.message?, parsed, Option.bind_some] at read
    obtain ⟨members, members_read, -⟩ := Option.bind_eq_some_iff.1 read
    exact (readable member listed).1
      (presentation.exists_value?_of_members? members_read member listed)
  · intro fitting
    obtain ⟨members, members_read, shown⟩ := presentation.exists_members?
      fun member listed => (readable member listed).2 (fitting member listed)
    refine Codec.decode_eq_ok probed ?_
    rw [Codec.message?, parsed, Option.bind_some, Json.message?, members_read]
    simp [Members.required, shown.find_required List.mem_cons_self, message.find_tag_members,
      shown.ofMembers?]

/-- Decoding JSON does not depend on presentation. However its members are arranged and its blanks
are placed, whether absent fields are left out or null, and whatever other members it has, an object
that presents a message is read as the message, if the numbers in the other members are read as
finite doubles, and only then. All numbers are that are some units below two to the 1024. -/
theorem json_decode_presentation {message : Message} (presentation : Presentation message)
    {bytes : Bytes} (written : Json.Written (.object presentation.entries) bytes) :
    (Codec.json.decode bytes = .ok message ↔ ∀ member ∈ presentation.extra,
        Json.Readable (fun numeral => numeral.inRange = true) 126 member.value) ∧
      ((∀ member ∈ presentation.extra, Json.Readable
          (fun numeral => numeral.magnitude ≤ Json.Numeral.safelyInRange) 126 member.value) →
        Codec.json.decode bytes = .ok message) := by
  have decoded := presentation.decode_eq_ok_iff written
  refine ⟨decoded, fun safe => decoded.2 fun member listed => ?_⟩
  exact (safe member listed).mono fun numeral => Json.Numeral.inRange_of_magnitude_le

def Json.Numeral.sample : Json.Numeral := ⟨true, digitList [2], digitList [5], none⟩

/-- A key request without a function, its members in another order and one of them foreign. -/
def Presentation.ofKeyRequest : Presentation (.keyRequest ⟨none, some 7, none⟩) where
  nulls := ["function"]
  extra := [.plain "x" (.array [.number .sample])]
  entries :=
    [(.ofText "targetIdentity", .number (.ofNat 7)), (.ofText "function", .null),
     Json.Member.entry (.plain "x" (.array [.number .sample])),
     (.ofText "type", .text (.ofText "KeyRequest"))]
  nulls_absent := by decide
  nulls_nodup := by decide
  extra_foreign := by decide
  extra_readable := List.forall_mem_singleton.2
    (.array (List.forall_mem_singleton.2 (.number trivial)))
  arranged := List.perm_append_singleton _ [_, _, _]

/-- A foreign member among those of a request, behind a blank. -/
theorem json_decode_presentation_keyRequest :
    Codec.json.decode (Bytes.ofText
        "\x7b\"targetIdentity\": 7,\"function\":null,\"x\":[-2.5],\"type\":\"KeyRequest\"\x7d") =
      .ok (.keyRequest ⟨none, some 7, none⟩) := by
  have number : Json.Written (.number .sample) (Bytes.ofText "-2.5") :=
    .number (.spelled (by decide) (by decide) (.point (by decide)) .absent)
  have array := @Json.Written.array [] [(_, _)] (by simp) (List.forall_mem_singleton.2 number)
  have plain : ∀ symbol ∈ "x".toList, ' ' ≤ symbol ∧ symbol ≠ '"' ∧ symbol ≠ '\\' := by simp
  have blank : (0x20 : UInt8) ∈ Json.blanks := List.mem_cons_self
  have written := @Json.Written.object []
    [⟨.ofText "targetIdentity", _, _, _⟩, ⟨.ofText "function", _, _, _⟩, ⟨.plain "x", _, _, _⟩,
      ⟨.ofText "type", _, _, _⟩] (by simp)
    (List.forall_mem_cons.2 ⟨Json.inQuotes_writeText _,
      List.forall_mem_cons.2 ⟨Json.inQuotes_writeText _, List.forall_mem_cons.2
        ⟨.quotes (Json.Letters.written_plain plain),
          List.forall_mem_singleton.2 (Json.inQuotes_writeText _)⟩⟩⟩)
    (List.forall_mem_cons.2 ⟨.before blank (Json.written_writeField (.nat 7)),
      List.forall_mem_cons.2 ⟨.null, List.forall_mem_cons.2 ⟨array,
        List.forall_mem_singleton.2 (Json.written_writeField (.text "KeyRequest"))⟩⟩⟩)
  simp only [List.map_cons, List.map_nil, Json.Letters.pieces_ofText] at written
  have decoded := (json_decode_presentation .ofKeyRequest written).1.2
    (List.forall_mem_singleton.2 (.array (List.forall_mem_singleton.2 (.number (by decide)))))
  exact (congrArg Codec.json.decode (by decide +kernel)).trans decoded

/-- A welcome with a number below the largest double. -/
def Presentation.ofWelcome : Presentation (.welcome 1) where
  nulls := []
  extra := [.plain "x" (.number .nearLargest)]
  entries := Message.entries (.welcome 1) [] [.plain "x" (.number .nearLargest)]
  nulls_absent := by decide
  nulls_nodup := by decide
  extra_foreign := by decide
  extra_readable := List.forall_mem_singleton.2 (.number trivial)
  arranged := .refl _

/-- It is not enough for the numbers to be at most the largest double. -/
theorem json_decode_presentation_nearLargest :
    ¬ ∀ {message : Message} (presentation : Presentation message) {bytes : Bytes},
      Json.Written (.object presentation.entries) bytes →
      (∀ member ∈ presentation.extra, Json.Readable
        (fun numeral => numeral.magnitude ≤ Json.Numeral.largestDouble) 126 member.value) →
      Codec.json.decode bytes = .ok message := by
  intro read
  have number : Json.Written (.number .nearLargest)
      (Bytes.ofText "1.7976931348623157081e308") :=
    .number (.spelled (by decide) (by decide) (.point (by decide)) (.bare (.inl rfl) (by decide)))
  have plain : ∀ symbol ∈ "x".toList, ' ' ≤ symbol ∧ symbol ≠ '"' ∧ symbol ≠ '\\' := by simp
  have written := @Json.Written.object []
    [⟨.ofText "type", _, _, _⟩, ⟨.ofText "identity", _, _, _⟩, ⟨.plain "x", _, _, _⟩] (by simp)
    (List.forall_mem_cons.2 ⟨Json.inQuotes_writeText _,
      List.forall_mem_cons.2 ⟨Json.inQuotes_writeText _,
        List.forall_mem_singleton.2 (.quotes (Json.Letters.written_plain plain))⟩⟩)
    (List.forall_mem_cons.2 ⟨Json.written_writeField (.text "Welcome"),
      List.forall_mem_cons.2 ⟨Json.written_writeField (.nat 1),
        List.forall_mem_singleton.2 number⟩⟩)
  simp only [List.map_cons, List.map_nil, Json.Letters.pieces_ofText] at written
  have decoded := read .ofWelcome written
    (List.forall_mem_singleton.2 (.number Json.Numeral.magnitude_nearLargest_le))
  have fitting := (Presentation.ofWelcome.decode_eq_ok_iff written).1 decoded
  cases List.forall_mem_singleton.1 fitting with
  | number finite => simp [Json.Numeral.inRange_nearLargest] at finite

end PadRelay
