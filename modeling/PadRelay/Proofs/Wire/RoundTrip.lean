import PadRelay.Proofs.Cbor.Document
import PadRelay.Proofs.Json.Document
import PadRelay.Wire.Codec

/-!
# Messages written and read

Decoding an encoded message gives the message back. With CBOR the texts and the keys in it have to
be short enough for their lengths to be written, which the lengths of anything in memory are. A CBOR
document ends where its lengths say, so that it is read from the front of whatever bytes follow it.
-/

namespace PadRelay

/-- Whether a codec can write the texts and keys in a message. -/
def Codec.Carries : Codec → Message → Prop
  | .json, _ => True
  | .cbor, message => ∀ member ∈ message.document, member.2.Fits

namespace Codec

theorem decode_eq_ok {codec : Codec} {bytes : Bytes} {message : Message}
    (probed : codec.probe? bytes = some message.kind.tag)
    (read : codec.message? bytes = some message) : codec.decode bytes = .ok message := by
  rw [decode, probed]
  simp only [Kind.ofTag?_tag, read]

theorem decode_encode {codec : Codec} {message : Message} (carried : codec.Carries message) :
    codec.decode (codec.encode message) = .ok message := by
  cases codec with
  | json =>
      have read := Json.ofBytes?_encode message
      exact decode_eq_ok read.1 read.2
  | cbor =>
      have read := Cbor.ofBytes?_encode message carried []
      rw [List.append_nil] at read
      exact decode_eq_ok read.1 read.2

/-- A message written as JSON is one object, with the members of the message in their order, and
decoding the bytes gives the message back: neither the escapes of its reason nor the digits of its
numbers lose anything, and what is absent stays absent. -/
theorem json_decode_encode (message : Message) :
    Json.ofBytes? (Codec.json.encode message) =
        some (.object (message.document.map fun member => (.ofText member.1, member.2.toJson))) ∧
      Codec.json.decode (Codec.json.encode message) = .ok message := by
  refine ⟨Json.ofBytes?_writeObject message.document, ?_⟩
  obtain ⟨probed, read⟩ := Json.ofBytes?_encode message
  exact decode_eq_ok probed read

/-- The lengths of the texts and the keys in a message are machine words. -/
structure InMemory (message : Message) : Prop where
  text : ∀ {name content}, (name, Field.text content) ∈ message.document →
    (Bytes.ofText content).length < UInt64.size
  bytes : ∀ {name content}, (name, Field.bytes content) ∈ message.document →
    content.length < UInt64.size

theorem InMemory.carries {message : Message} (sized : InMemory message) :
    Codec.cbor.Carries message := by
  rintro ⟨name, field⟩ member
  cases field with
  | bool value => trivial
  | nat value => exact message.nat_lt_of_mem_document name value member
  | text content => exact sized.text member
  | bytes content => exact sized.bytes member

/-- A message written as CBOR is one map, with the members of the message in their order. The map is
read from the front of any bytes that begin with it, and decoding them gives the message back. -/
theorem cbor_decode_encode_append (message : Message) (sized : InMemory message) (rest : Bytes) :
    Cbor.ofBytes? (Codec.cbor.encode message ++ rest) =
        some (.map (message.document.map Cbor.entry)) ∧
      Codec.cbor.decode (Codec.cbor.encode message ++ rest) = .ok message := by
  refine ⟨Cbor.ofBytes?_encode_append message sized.carries rest, ?_⟩
  obtain ⟨probed, read⟩ := Cbor.ofBytes?_encode message sized.carries rest
  exact decode_eq_ok probed read

/-- A refusal with a key, in spite of its code, in front of the break of a map that was never
opened. -/
theorem cbor_decode_keyResponse_break :
    Codec.cbor.decode
        (Codec.cbor.encode (.keyResponse ⟨⟨false, .ok, "\"\u0000🔑"⟩, some []⟩) ++ [0xff]) =
      .ok (.keyResponse ⟨⟨false, .ok, "\"\u0000🔑"⟩, some []⟩) := by
  refine (cbor_decode_encode_append _ ⟨fun member => ?_, fun member => ?_⟩ [0xff]).2
  · simp [Message.document, Message.fields, Message.kind, Message.outcomeFields,
      Message.optionalField] at member
    rcases member with ⟨-, rfl⟩ | ⟨-, rfl⟩ <;> decide
  · simp [Message.document, Message.fields, Message.kind, Message.outcomeFields,
      Message.optionalField] at member
    simp [member.2, UInt64.size]

theorem fits_tag (kind : Kind) : (Field.text kind.tag).Fits := by
  rw [Field.Fits]
  cases kind <;> decide

theorem fits_identity (identity : Identity) : (Field.nat identity.toNat).Fits := identity.toNat_lt

theorem fits_size (size : UInt32) : (Field.nat size.toNat).Fits :=
  Nat.lt_trans size.toNat_lt (by decide)

theorem fits_function (function : KeyFunction) : (Field.text function.name).Fits := by
  rw [Field.Fits]
  cases function <;> decide

theorem fits_reason (code : Code) : (Field.text code.reason).Fits := by
  rw [Field.Fits]
  cases code <;> decide

theorem fits_number (code : Code) : (Field.nat code.number).Fits :=
  Nat.lt_trans code.number_lt (by decide)

theorem carries_keyAck (codec : Codec) (target : Identity) : codec.Carries (.keyAck target) := by
  cases codec with
  | json => trivial
  | cbor =>
      simp [Carries, Message.document, Message.fields, Message.kind, fits_tag, fits_identity]

theorem carries_keyRequest (codec : Codec) (request : KeyRequest) :
    codec.Carries (.keyRequest request) := by
  cases codec with
  | json => trivial
  | cbor =>
      obtain ⟨function, target, size⟩ := request
      cases function <;> cases target <;> cases size <;>
        simp [Carries, Message.document, Message.fields, Message.kind, Message.optionalField,
          fits_tag, fits_identity, fits_size, fits_function]

/-- A new key is carried if its length has at most 64 bits. -/
theorem carries_issued (codec : Codec) {key : Bytes} (short : key.length < UInt64.size) :
    codec.Carries (.keyResponse (.issued key)) := by
  cases codec with
  | json => trivial
  | cbor =>
      have success : (Field.bool true).Fits := trivial
      have bytes : (Field.bytes key).Fits := short
      simp [Carries, Message.document, Message.fields, Message.kind, Message.outcomeFields,
        Message.optionalField, KeyResponse.issued, fits_tag, fits_reason, fits_number, success,
        bytes]

theorem carries_keyFailure (codec : Codec) (code : Code) : codec.Carries (.keyFailure code) := by
  cases codec with
  | json => trivial
  | cbor =>
      have success : (Field.bool false).Fits := trivial
      simp [Carries, Message.document, Message.fields, Message.kind, Message.outcomeFields,
        Message.optionalField, Message.keyFailure, KeyResponse.failure, fits_tag, fits_reason,
        fits_number, success]

theorem carries_ackOutcome (codec : Codec) (code : Code) : codec.Carries (.ackOutcome code) := by
  cases codec with
  | json => trivial
  | cbor =>
      have success : (Field.bool code.isOk).Fits := trivial
      simp [Carries, Message.document, Message.fields, Message.kind, Message.outcomeFields,
        Message.ackOutcome, Outcome.ofCode, fits_tag, fits_reason, fits_number, success]

theorem carries_deleteOutcome (codec : Codec) (code : Code) :
    codec.Carries (.deleteOutcome code) := by
  cases codec with
  | json => trivial
  | cbor =>
      have success : (Field.bool code.isOk).Fits := trivial
      simp [Carries, Message.document, Message.fields, Message.kind, Message.outcomeFields,
        Message.deleteOutcome, Outcome.ofCode, fits_tag, fits_reason, fits_number, success]

theorem carries_failure (codec : Codec) (code : Code) : codec.Carries (.failure code) := by
  cases codec with
  | json => trivial
  | cbor =>
      simp [Carries, Message.document, Message.fields, Message.kind, Message.failure, fits_tag,
        fits_reason, fits_number]

end Codec

end PadRelay
