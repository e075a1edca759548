import PadRelay.Cbor.Document
import PadRelay.Cbor.Printer
import PadRelay.Json.Document
import PadRelay.Json.Printer
import PadRelay.Wire.FormatError

/-!
# Codecs

Messages are written as JSON or as CBOR. Reading goes in two phases. The probe reads the tag alone:
bytes without a tag, and documents with a foreign one, belong to the application. Only a document
with one of our tags is read in full, and only there can a body be malformed.
-/

namespace PadRelay

/-- The encodings of messages. -/
inductive Codec where
  | json
  | cbor
deriving DecidableEq, Repr

namespace Codec

def encode : Codec → Message → Bytes
  | .json, message => Json.encode message
  | .cbor, message => Cbor.encode message

/-- The tag of the document that the bytes hold. -/
def probe? : Codec → Bytes → Option String
  | .json, bytes => (Json.ofBytes? bytes).bind Json.tag?
  | .cbor, bytes => (Cbor.ofBytes? bytes).bind Cbor.tag?

def message? : Codec → Bytes → Option Message
  | .json, bytes => (Json.ofBytes? bytes).bind Json.message?
  | .cbor, bytes => (Cbor.ofBytes? bytes).bind Cbor.message?

/-- The message that the bytes hold, or why they hold none. -/
def decode (codec : Codec) (bytes : Bytes) : Except FormatError Message :=
  match codec.probe? bytes with
  | none => .error (.undecodable "no tagged document")
  | some tag =>
      match Kind.ofTag? tag with
      | none => .error (.unknownType tag)
      | some kind =>
          match codec.message? bytes with
          | none => .error (.malformed kind "the body does not fit the kind")
          | some message => .ok message

end Codec

end PadRelay
