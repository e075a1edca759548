import PadRelay.Http.Target

/-!
# Requests

The head of a request of HTTP: a line that names method, target and version, then a line for each
field, then an empty line. A line ends with a line feed, after a carriage return or not. Requests
without a body are all that is read here, so that the head is the request.
-/

namespace PadRelay.Http

/-- A field of a request. -/
structure Field where
  name : Bytes
  value : Bytes

/-- A request to get something. -/
structure Request where
  target : Bytes
  fields : List Field

/-- The bytes with ASCII letters made small. -/
def lowercase (bytes : Bytes) : Bytes :=
  bytes.map fun byte => if 0x41 ≤ byte && byte ≤ 0x5a then byte + 0x20 else byte

/-- The line in front, without its end, and what follows. -/
def splitLine? (bytes : Bytes) : Option (Bytes × Bytes) :=
  match bytes.dropWhile fun byte => byte ≠ 0x0a with
  | [] => none
  | _ :: rest =>
      let line := bytes.takeWhile fun byte => byte ≠ 0x0a
      some (if line.getLast? = some 0x0d then line.dropLast else line, rest)

/-- What follows the empty lines in front. -/
def skipEmptyLines : Bytes → Bytes
  | 0x0a :: rest => skipEmptyLines rest
  | 0x0d :: 0x0a :: rest => skipEmptyLines rest
  | bytes => bytes

namespace Field

/-- Whether a byte may stand in a name. -/
def isNameByte (byte : UInt8) : Bool := isAlphanumeric byte || isAmong "!#$%&'*+-.^_`|~" byte

def isBlank (byte : UInt8) : Bool := byte = 0x20 || byte = 0x09

/-- Whether a byte may stand in a value: no control character but the tab. -/
def isValueByte (byte : UInt8) : Bool := byte = 0x09 || (0x20 ≤ byte && byte ≠ 0x7f)

/-- The field that a line holds. The colon follows the name at once. -/
def ofLine? (line : Bytes) : Option Field :=
  let name := line.takeWhile isNameByte
  match line.dropWhile isNameByte with
  | 0x3a :: value =>
      if name ≠ [] && value.all isValueByte then
        some { name, value := ((value.dropWhile isBlank).reverse.dropWhile isBlank).reverse }
      else none
  | _ => none

/-- A value in ASCII, with its letters made small. -/
def ascii? (field : Field) : Option Bytes :=
  if field.value.all fun byte => byte ≤ 0x7e then some (lowercase field.value) else none

end Field

namespace Request

/-- Fields that a request may have. -/
def maxFields : Nat := 124

/-- Whether a byte is visible, or of a character beyond ASCII. -/
def isVisible (byte : UInt8) : Bool := 0x21 ≤ byte && byte ≠ 0x7f

/-- The target that a first line names. -/
def target? (line : Bytes) : Option Bytes :=
  let target := (line.drop 4).takeWhile isVisible
  if line = Bytes.ofText "GET " ++ target ++ Bytes.ofText " HTTP/1.1" &&
      (Bytes.toText? target).isSome && isTarget target then
    some target
  else none

/-- The fields in the lines up to an empty one, and what follows it. -/
def fields? (room : Nat) (bytes : Bytes) : Option (List Field × Bytes) := do
  let (line, rest) ← splitLine? bytes
  if line = [] then return ([], rest)
  match room with
  | 0 => none
  | room + 1 =>
      let field ← Field.ofLine? line
      let (fields, rest) ← fields? room rest
      return (field :: fields, rest)

/-- The request that the bytes start with, and what follows it. Empty lines before it are passed
over. -/
def ofBytes? (bytes : Bytes) : Option (Request × Bytes) := do
  let (line, rest) ← splitLine? (skipEmptyLines bytes)
  let target ← target? line
  let (fields, rest) ← fields? maxFields rest
  return ({ target, fields }, rest)

/-- The first field with a name, which is given in small letters. -/
def get? (request : Request) (name : String) : Option Field :=
  request.fields.find? fun field => lowercase field.name = Bytes.ofText name

end Request

end PadRelay.Http
