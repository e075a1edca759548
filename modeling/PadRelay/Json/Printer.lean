import PadRelay.Json.Quoted
import PadRelay.Wire.Fields

/-!
# Writing JSON

Documents are written without blanks, members in their order, integers in decimal.
-/

namespace PadRelay.Json

def commaSeparated : List Bytes → Bytes
  | [] => []
  | first :: rest => first ++ rest.flatMap fun part => 0x2c :: part

def writeText (text : String) : Bytes := 0x22 :: Quoted.write text ++ [0x22]

/-- An unsigned integer in decimal. -/
def writeNat (value : Nat) : Bytes :=
  (Nat.toDigits 10 value).map fun digit => UInt8.ofNat digit.toNat

/-- A member's value. -/
def writeField : Field → Bytes
  | .bool true => [0x74, 0x72, 0x75, 0x65]
  | .bool false => [0x66, 0x61, 0x6c, 0x73, 0x65]
  | .nat value => writeNat value
  | .text content => writeText content
  | .bytes content =>
      0x5b :: commaSeparated (content.map fun byte => writeNat byte.toNat) ++ [0x5d]

def writeObject (members : List (String × Field)) : Bytes :=
  0x7b :: commaSeparated
    (members.map fun member => writeText member.1 ++ 0x3a :: writeField member.2) ++ [0x7d]

def encode (message : Message) : Bytes := writeObject message.document

end PadRelay.Json
