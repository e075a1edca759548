import PadRelay.Proofs.Json.Reading
import PadRelay.Proofs.Wire.Members
import PadRelay.Wire.Codec

/-!
# How bytes are classified

A document is read twice: the probe looks for its tag, and only if this is one of ours the members
are read, with the limits that they have, and the tag among them once more. Both readings choose the
same member, so that a message is of the kind that was found; and a document with a foreign tag is
left to the application, whatever else it holds.
-/

namespace PadRelay

namespace Json

def isTag (entry : Quoted × Json) : Bool := entry.1.toText? = some tagName

/-- The probe finds the tag in the only entry of its name. -/
theorem filter_isTag_of_tag? {entries : Entries} {tag : String}
    (probed : tag? (.object entries) = some tag) :
    ∃ name pieces, entries.filter isTag = [(name, .text pieces)] ∧ pieces.toText? = some tag := by
  rw [tag?] at probed
  split at probed
  case h_2 => cases probed
  next pieces found =>
  rw [tagOfEntries?] at found
  split at found
  case h_1 => cases found
  next named named_read =>
  split at found
  case h_2 => cases found
  next member single =>
  have chosen := mapM_filter isTag (fun member => member.1 = tagName) (by
    intro entry result read
    obtain ⟨name, named, rfl⟩ := Option.map_eq_some_iff.1 read
    simp [isTag, named]) named_read
  rw [single] at chosen
  obtain ⟨⟨name, value⟩, only, read⟩ := mapM_eq_singleton chosen
  obtain ⟨text, -, rfl⟩ := Option.map_eq_some_iff.1 read
  cases found
  exact ⟨name, pieces, only, probed⟩

/-- The tag that the probe finds is found among the members. -/
theorem find_tag_of_tag? {json : Json} {tag : String} {members : Members}
    (probed : tag? json = some tag) (read : members? json = some members) :
    members.find tagName = some (some (.text tag)) := by
  cases json with
  | object entries =>
      obtain ⟨name, pieces, only, tagged⟩ := filter_isTag_of_tag? probed
      have chosen := mapM_filter isTag (fun member => member.1 = Bytes.ofText tagName) (by
        intro entry result read_entry
        simp only [Option.bind_eq_bind, Option.bind_eq_some_iff, Option.pure_def,
          Option.some.injEq] at read_entry
        obtain ⟨name, named, value, -, rfl⟩ := read_entry
        simp [isTag, named, Bytes.ofText_inj]) read
      have named : name.toText? = some tagName := by
        have member : (name, Json.text pieces) ∈ entries.filter isTag := by simp [only]
        simpa [isTag] using (List.mem_filter.1 member).2
      rw [only] at chosen
      obtain ⟨member, single, read_entry⟩ := mapM_singleton_eq chosen
      simp only [value?, named, tagged, Option.map_some, Option.bind_eq_bind, Option.bind_some,
        Option.pure_def, Option.some.injEq] at read_entry
      rw [Members.find_of_filter single, ← read_entry]
  | array items =>
      simp only [tag?] at probed
      split at probed
      case h_1 same => cases same
      case h_3 => cases probed
      next pieces same =>
      cases same
      simp only [members?, probed, Option.map_some, Option.some.injEq] at read
      cases read
      have only : [(Bytes.ofText tagName, Value.text tag)].filter
          (fun member => member.1 = Bytes.ofText tagName) =
            [(Bytes.ofText tagName, Value.text tag)] := by simp
      exact Members.find_of_filter only
  | _ => cases probed

theorem tag_of_message? {json : Json} {tag : String} {message : Message}
    (probed : tag? json = some tag) (read : message? json = some message) :
    message.kind.tag = tag := by
  simp only [message?, Option.bind_eq_bind, Option.bind_eq_some_iff] at read
  obtain ⟨members, members_read, again, tag_read, kind, kind_read, message_read⟩ := read
  rw [Members.required, find_tag_of_tag? probed members_read] at tag_read
  cases tag_read
  rw [Message.kind_of_ofMembers? message_read]
  exact Kind.tag_of_ofTag? kind_read

end Json

namespace Cbor

/-- Whether an entry has the name of the tag, behind whatever tags. -/
def isTag (entry : Cbor × Cbor) : Bool :=
  nameBytes? (untagged entry.1) = some (Bytes.ofText tagName)

theorem untagged_of_nameBytes? {name : Cbor} {bytes : Bytes}
    (named : nameBytes? name = some bytes) : untagged name = name := by
  cases name with
  | tag number value => cases named
  | _ => rfl

/-- The probe finds the tag in the only entry of its name. -/
theorem filter_isTag_of_tag? {entries : Entries} {tag : String}
    (probed : tag? (.map entries) = some tag) :
    ∃ name value chunked, entries.filter isTag = [(name, value)] ∧
      untagged value = .text tag chunked := by
  simp only [tag?, untagged] at probed
  split at probed
  case h_1 => cases probed
  next named named_read =>
  rw [List.partition_eq_filter_filter] at probed
  simp only at probed
  split at probed
  case h_2 => cases probed
  next member single =>
  split at probed
  case h_2 => cases probed
  next content chunked value_read =>
  split at probed
  case isFalse => cases probed
  cases probed
  have chosen := mapM_filter isTag (fun member => member.1 = Bytes.ofText tagName) (by
    intro entry result read
    obtain ⟨name, named, rfl⟩ := Option.map_eq_some_iff.1 read
    simp [isTag, named]) named_read
  rw [single] at chosen
  obtain ⟨⟨name, value⟩, only, read⟩ := mapM_eq_singleton chosen
  obtain ⟨bytes, -, rfl⟩ := Option.map_eq_some_iff.1 read
  exact ⟨name, value, chunked, only, value_read⟩

/-- How a member is read from its entry: the tag apart from the others. -/
theorem member_read {entry : Cbor × Cbor} {member : Bytes × Value}
    (read : (do
      let name ← nameBytes? entry.1
      let value ←
        if name = Bytes.ofText tagName then tagValue? entry.2
        else value? (maxDepth - 1) entry.2
      return (name, value)) = some member) :
    nameBytes? entry.1 = some member.1 ∧
      (member.1 = Bytes.ofText tagName → tagValue? entry.2 = some member.2) := by
  obtain ⟨name, named, rest⟩ := Option.bind_eq_some_iff.1 read
  split at rest
  · obtain ⟨value, value_read, same⟩ := Option.bind_eq_some_iff.1 rest
    cases same
    exact ⟨named, fun _ => value_read⟩
  · next other =>
    obtain ⟨value, value_read, same⟩ := Option.bind_eq_some_iff.1 rest
    cases same
    exact ⟨named, fun tagged => absurd tagged other⟩

/-- The tag that the probe finds is found among the members. -/
theorem find_tag_of_tag? {document : Cbor} {tag : String} {members : Members}
    (probed : tag? document = some tag) (read : members? document = some members) :
    members.find tagName = some (some (.text tag)) := by
  cases document with
  | map entries =>
      obtain ⟨name, value, chunked, only, tagged⟩ := filter_isTag_of_tag? probed
      have chosen := mapM_filter isTag (fun member => member.1 = Bytes.ofText tagName) (by
        intro entry member read_entry
        obtain ⟨named, -⟩ := member_read read_entry
        simp [isTag, untagged_of_nameBytes? named, named]) read
      rw [only] at chosen
      obtain ⟨member, single, read_entry⟩ := mapM_singleton_eq chosen
      have named : member ∈ members.filter fun member => member.1 = Bytes.ofText tagName := by
        simp [single]
      have value_read := (member_read read_entry).2 (by simpa using (List.mem_filter.1 named).2)
      rw [tagValue?, tagged] at value_read
      cases chunked with
      | true => cases value_read
      | false =>
          rw [Members.find_of_filter single, ← Option.some.inj value_read]
  | _ => cases read

theorem tag_of_message? {document : Cbor} {tag : String} {message : Message}
    (probed : tag? document = some tag) (read : message? document = some message) :
    message.kind.tag = tag := by
  simp only [message?, Option.bind_eq_bind, Option.bind_eq_some_iff] at read
  obtain ⟨members, members_read, again, tag_read, kind, kind_read, message_read⟩ := read
  rw [Members.required, find_tag_of_tag? probed members_read] at tag_read
  cases tag_read
  rw [Message.kind_of_ofMembers? message_read]
  exact Kind.tag_of_ofTag? kind_read

end Cbor
theorem Kind.ofTag?_eq_none {tag : String} :
    Kind.ofTag? tag = none ↔ ∀ kind : Kind, tag ≠ kind.tag := by
  constructor
  · rintro none_found kind rfl
    rw [ofTag?_tag] at none_found
    cases none_found
  · intro foreign
    cases found : ofTag? tag with
    | none => rfl
    | some kind => exact absurd (tag_of_ofTag? found).symm (foreign kind)

namespace Codec

/-- A message is of the kind that the probe found, in either encoding. -/
theorem tag_of_message? {codec : Codec} {bytes : Bytes} {tag : String} {message : Message}
    (probed : codec.probe? bytes = some tag) (read : codec.message? bytes = some message) :
    message.kind.tag = tag := by
  cases codec with
  | json =>
      obtain ⟨json, parsed, tagged⟩ := Option.bind_eq_some_iff.1 probed
      rw [message?, parsed] at read
      exact Json.tag_of_message? tagged read
  | cbor =>
      obtain ⟨document, parsed, tagged⟩ := Option.bind_eq_some_iff.1 probed
      rw [message?, parsed] at read
      exact Cbor.tag_of_message? tagged read

theorem message?_of_decode {codec : Codec} {bytes : Bytes} {message : Message}
    (decoded : codec.decode bytes = .ok message) : codec.message? bytes = some message := by
  rw [decode] at decoded
  split at decoded
  · cases decoded
  · split at decoded
    · cases decoded
    · split at decoded
      · cases decoded
      · next read =>
        cases decoded
        exact read

/-- How the tag that the probe finds in bytes classifies what decoding them gives. -/
inductive Classified (codec : Codec) (bytes : Bytes) : Except FormatError Message → Prop
  | undecodable {reason : String} (probed : codec.probe? bytes = none) :
      Classified codec bytes (.error (.undecodable reason))
  | unknown {tag : String} (probed : codec.probe? bytes = some tag)
      (foreign : ∀ kind : Kind, tag ≠ kind.tag) :
      Classified codec bytes (.error (.unknownType tag))
  | malformed {kind : Kind} {reason : String} (probed : codec.probe? bytes = some kind.tag) :
      Classified codec bytes (.error (.malformed kind reason))
  | read {message : Message} (probed : codec.probe? bytes = some message.kind.tag) :
      Classified codec bytes (.ok message)

theorem classified_decode (codec : Codec) (bytes : Bytes) :
    Classified codec bytes (codec.decode bytes) := by
  rw [decode]
  split
  · next probed => exact .undecodable probed
  · next tag probed =>
    split
    · next unknown => exact .unknown probed (Kind.ofTag?_eq_none.1 unknown)
    · next kind known =>
      split
      · exact .malformed (by rw [probed, Kind.tag_of_ofTag? known])
      · next message read => exact .read (by rw [probed, tag_of_message? probed read])

theorem decode_eq_unknownType {codec : Codec} {bytes : Bytes} {tag : String}
    (probed : codec.probe? bytes = some tag) (foreign : ∀ kind : Kind, tag ≠ kind.tag) :
    codec.decode bytes = .error (.unknownType tag) := by
  rw [decode, probed]
  simp only [Kind.ofTag?_eq_none.2 foreign]

end Codec

namespace Json

theorem mapM_entry (members : List Member) :
    (members.map Member.entry).mapM (fun entry => (entry.1.toText?).map fun name =>
      (name, entry.2)) = some (members.map fun member => (member.name, member.value)) := by
  rw [List.mapM_map]
  exact mapM_eq_some_map fun member _ => by
    simp [Member.entry, member.means.toText?_pieces]

/-- The only member named as the tag is found by the probe, whatever the other members hold. -/
theorem tag?_of_single {front back : List Member} {tagged : Member} {letters : Letters}
    {tag : String} (named : tagged.name = tagName)
    (single : ∀ member ∈ front ++ back, member.name ≠ tagName)
    (holds : tagged.value = .text letters.pieces) (means : letters.Means tag.toList) :
    tag? (.object ((front ++ tagged :: back).map Member.entry)) = some tag := by
  have none_of (members : List Member) (others : ∀ member ∈ members, member.name ≠ tagName) :
      (members.map fun member => (member.name, member.value)).filter
        (fun member => member.1 = tagName) = [] := by
    rw [List.filter_eq_nil_iff]
    intro member listed
    obtain ⟨written, found, rfl⟩ := List.mem_map.1 listed
    simpa using others written found
  have in_front := none_of front fun member listed => single member (List.mem_append_left _ listed)
  have in_back := none_of back fun member listed => single member (List.mem_append_right _ listed)
  have only_tag : ((front ++ tagged :: back).map fun member => (member.name, member.value)).filter
      (fun member => member.1 = tagName) = [(tagged.name, tagged.value)] := by
    rw [List.map_append, List.map_cons, List.filter_append, in_front,
      List.filter_cons_of_pos (by simpa using named), in_back, List.nil_append]
  rw [tag?, tagOfEntries?, mapM_entry]
  simp only [only_tag, holds]
  exact means.toText?_pieces

end Json

/-- Decoding is classified by the tag alone, and both readings of a document agree on it. In either
encoding bytes are undecodable, of an unknown type or malformed, or they hold a message, as the tag
that the probe finds says. A JSON object with one member named as the tag, which holds a text that
is the tag of no kind, is of that unknown type: its other members may hold anything, at any depth.
-/
theorem decode_classified_by_tag :
    (∀ codec bytes, Codec.Classified codec bytes (codec.decode bytes)) ∧
      ∀ {front back : List Json.Member} {tagged : Json.Member} {letters : Json.Letters}
        {tag : String} {bytes : Bytes},
        Json.Written (.object ((front ++ tagged :: back).map Json.Member.entry)) bytes →
        tagged.name = tagName → (∀ member ∈ front ++ back, member.name ≠ tagName) →
        tagged.value = .text letters.pieces → letters.Means tag.toList →
        (∀ kind : Kind, tag ≠ kind.tag) →
        Codec.json.decode bytes = .error (.unknownType tag) := by
  refine ⟨Codec.classified_decode, fun written named single holds means foreign => ?_⟩
  refine Codec.decode_eq_unknownType ?_ foreign
  rw [Codec.probe?, written.ofBytes?, Option.bind_some]
  exact Json.tag?_of_single named single holds means

/-- A number beyond the doubles and half a surrogate pair within two arrays. -/
theorem decode_classified_by_tag_chat :
    Codec.json.decode (Bytes.ofText "\x7b\"x\":[[-9e999,\"\\ud800\"]],\"type\":\"Chat\"\x7d") =
      .error (.unknownType "Chat") := by
  have number : Json.Written (.number ⟨true, [9], [], some (false, [9, 9, 9])⟩)
      (Bytes.ofText "-9e999") :=
    .number (.spelled (by decide) (by decide) .absent (.bare (.inl rfl) (by decide)))
  have half : Json.Written (.text [.codeUnit 0xd800]) (Bytes.ofText "\"\\ud800\"") :=
    .text (.quotes (.cons (.digits (.lower 3) (.decimal 8) (.decimal 0) (.decimal 0)) .nil))
  have none_blank : ∀ byte ∈ ([] : Bytes), byte ∈ Json.blanks := fun _ member =>
    absurd member List.not_mem_nil
  have inner := @Json.Written.array [] [(_, _), (_, _)] none_blank
    (List.forall_mem_cons.2 ⟨number, List.forall_mem_singleton.2 half⟩)
  have outer := @Json.Written.array [] [(_, _)] none_blank (List.forall_mem_singleton.2 inner)
  have quoted (text : String) (printable : ∀ symbol ∈ text.toList,
      ' ' ≤ symbol ∧ symbol ≠ '"' ∧ symbol ≠ '\\') :=
    Json.Letters.InQuotes.quotes (Json.Letters.written_plain printable)
  have written := @Json.Written.object []
    [⟨.plain "x", _, _, _⟩, ⟨.plain "type", _, _, _⟩] none_blank
    (List.forall_mem_cons.2 ⟨quoted "x" (by simp),
      List.forall_mem_singleton.2 (quoted "type" (by simp))⟩)
    (List.forall_mem_cons.2 ⟨outer,
      List.forall_mem_singleton.2 (.text (quoted "Chat" (by simp)))⟩)
  obtain ⟨-, unknown⟩ := decode_classified_by_tag
  exact @unknown [.plain "x" _] [] (.plain "type" _) _ _ _ written rfl (by decide) rfl
    (Json.Letters.means_plain "Chat") fun kind => by cases kind <;> decide

end PadRelay
