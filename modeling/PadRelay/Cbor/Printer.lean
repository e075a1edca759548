import PadRelay.Cbor
import PadRelay.Wire.Fields

/-!
# Writing CBOR

Documents are maps of known length, members in their order, with the shortest heads.
-/

namespace PadRelay.Cbor

/-- The shortest head of a major type with an argument. -/
def writeHead (major argument : Nat) : Bytes :=
  if argument < 24 then [UInt8.ofNat (major * 32 + argument)]
  else if argument < UInt8.size then UInt8.ofNat (major * 32 + 24) :: Bytes.bigEndian 1 argument
  else if argument < UInt16.size then UInt8.ofNat (major * 32 + 25) :: Bytes.bigEndian 2 argument
  else if argument < UInt32.size then UInt8.ofNat (major * 32 + 26) :: Bytes.bigEndian 4 argument
  else UInt8.ofNat (major * 32 + 27) :: Bytes.bigEndian 8 argument

def writeText (text : String) : Bytes :=
  let content := Bytes.ofText text
  writeHead 3 content.length ++ content

/-- A member's value. -/
def writeField : Field → Bytes
  | .bool false => [0xf4]
  | .bool true => [0xf5]
  | .nat value => writeHead 0 value
  | .text content => writeText content
  | .bytes content =>
      writeHead 4 content.length ++ content.flatMap fun byte => writeHead 0 byte.toNat

def writeMap (members : List (String × Field)) : Bytes :=
  writeHead 5 members.length ++
    members.flatMap fun member => writeText member.1 ++ writeField member.2

def encode (message : Message) : Bytes := writeMap message.document

end PadRelay.Cbor
