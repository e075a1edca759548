import PadRelay.Json

/-!
# JSON tokens

The bytes of a document are read one at a time. Blanks separate tokens, punctuation is a token of
its own, and a run of other bytes must spell a number or one of the three words. A quoted text is
checked for its escapes and for control characters only.
-/

namespace PadRelay.Json

/-- A token of a document. -/
inductive Token where
  | openArray
  | closeArray
  | openObject
  | closeObject
  | comma
  | colon
  | scalar (value : Json)
  | quoted (pieces : Quoted)

namespace Token

/-- Where the reader stands within a token. The parts read so far are reversed. -/
inductive Mode where
  | idle
  | scalar (seen : Bytes)
  | quoted (pieces : Quoted)
  | escape (pieces : Quoted)
  | hex (pieces : Quoted) (missing : Nat) (value : Nat)

def isBlank (byte : UInt8) : Bool := byte = 0x20 || byte = 0x09 || byte = 0x0a || byte = 0x0d

def punctuation? (byte : UInt8) : Option Token :=
  if byte = 0x5b then some .openArray
  else if byte = 0x5d then some .closeArray
  else if byte = 0x7b then some .openObject
  else if byte = 0x7d then some .closeObject
  else if byte = 0x2c then some .comma
  else if byte = 0x3a then some .colon
  else none

/-- The value that a run of bytes spells. -/
def scalar? (spelling : Bytes) : Option Json :=
  if spelling = [0x6e, 0x75, 0x6c, 0x6c] then some .null
  else if spelling = [0x74, 0x72, 0x75, 0x65] then some (.bool true)
  else if spelling = [0x66, 0x61, 0x6c, 0x73, 0x65] then some (.bool false)
  else (Numeral.ofBytes? spelling).map .number

/-- The byte that a letter behind a backslash stands for. -/
def escaped? (letter : UInt8) : Option UInt8 :=
  if letter = 0x22 || letter = 0x5c || letter = 0x2f then some letter
  else if letter = 0x62 then some 0x08
  else if letter = 0x66 then some 0x0c
  else if letter = 0x6e then some 0x0a
  else if letter = 0x72 then some 0x0d
  else if letter = 0x74 then some 0x09
  else none

/-- The value of a hexadecimal digit of either case. -/
def hexValue? (byte : UInt8) : Option Nat :=
  let code := byte.toNat
  if 0x30 ≤ code ∧ code ≤ 0x39 then some (code - 0x30)
  else if 0x61 ≤ code ∧ code ≤ 0x66 then some (code - 0x61 + 10)
  else if 0x41 ≤ code ∧ code ≤ 0x46 then some (code - 0x41 + 10)
  else none

/-- A byte between tokens: the tokens before it are complete. -/
def startAt (tokens : List Token) (byte : UInt8) : Mode × List Token :=
  if isBlank byte then (.idle, tokens)
  else
    match punctuation? byte with
    | some token => (.idle, token :: tokens)
    | none => if byte = 0x22 then (.quoted [], tokens) else (.scalar [byte], tokens)

/-- Whether a byte ends a word or a number. -/
def isDelimiter (byte : UInt8) : Bool :=
  isBlank byte || (punctuation? byte).isSome || byte = 0x22

/-- One byte. The tokens are reversed. -/
def step (tokens : List Token) (byte : UInt8) : Mode → Option (Mode × List Token)
  | .idle => some (startAt tokens byte)
  | .scalar seen =>
      if isDelimiter byte then
        (scalar? seen.reverse).map fun value => startAt (.scalar value :: tokens) byte
      else
        some (.scalar (byte :: seen), tokens)
  | .quoted pieces =>
      if byte = 0x22 then some (.idle, .quoted pieces.reverse :: tokens)
      else if byte = 0x5c then some (.escape pieces, tokens)
      else if byte < 0x20 then none
      else some (.quoted (.byte byte :: pieces), tokens)
  | .escape pieces =>
      if byte = 0x75 then some (.hex pieces 3 0, tokens)
      else (escaped? byte).map fun meant => (.quoted (.byte meant :: pieces), tokens)
  | .hex pieces missing value =>
      (hexValue? byte).map fun digit =>
        match missing with
        | 0 => (.quoted (.codeUnit (value * 16 + digit) :: pieces), tokens)
        | missing + 1 => (.hex pieces missing (value * 16 + digit), tokens)

/-- The tokens up to the end of the bytes, which must not fall within a quoted text. -/
def run (tokens : List Token) (mode : Mode) : Bytes → Option (List Token)
  | [] =>
      match mode with
      | .idle => some tokens.reverse
      | .scalar seen => (scalar? seen.reverse).map fun value => (.scalar value :: tokens).reverse
      | _ => none
  | byte :: rest =>
      match step tokens byte mode with
      | none => none
      | some (mode, tokens) => run tokens mode rest

def ofBytes? (bytes : Bytes) : Option (List Token) := run [] .idle bytes

end Token

end PadRelay.Json
