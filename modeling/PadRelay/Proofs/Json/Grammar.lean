import PadRelay.Json
import PadRelay.Json.Printer
import PadRelay.Proofs.Json.Numeral

/-!
# The grammar of JSON

Which bytes spell a letter, a text, a number and a value, said without a reader. A document is
written in UTF-8; blanks may stand around every token. A text is a sequence of letters, each a
character or a code unit given by its digits, and means a sequence of characters if every surrogate
among its code units is half of a pair.
-/

namespace PadRelay.Json

/-- The bytes that may stand between tokens: space, tab, line feed and carriage return. -/
def blanks : Bytes := [0x20, 0x09, 0x0a, 0x0d]

/-- A letter of a text. -/
inductive Letter where
  | char (symbol : Char)
  | unit (value : Nat)

abbrev Letters := List Letter

/-- A hexadecimal digit of either case, with its value. -/
inductive HexDigit : UInt8 → Nat → Prop
  | decimal (value : Fin 10) : HexDigit (UInt8.ofNat (0x30 + value)) value
  | lower (value : Fin 6) : HexDigit (UInt8.ofNat (0x61 + value)) (10 + value)
  | upper (value : Fin 6) : HexDigit (UInt8.ofNat (0x41 + value)) (10 + value)

namespace Letter

/-- The pieces that a letter consists of: the bytes of a character, or the code unit. -/
def pieces : Letter → Quoted
  | .char symbol => (String.utf8EncodeChar symbol).map .byte
  | .unit value => [.codeUnit value]

/-- The characters that a single byte behind a backslash stands for. -/
def shortEscapes : List (UInt8 × Char) :=
  [(0x22, '"'), (0x5c, '\\'), (0x2f, '/'), (0x62, '\x08'), (0x66, '\x0c'), (0x6e, '\n'),
   (0x72, '\r'), (0x74, '\t')]

/-- The bytes that spell a letter. -/
inductive Written : Letter → Bytes → Prop
  /-- A character stands for itself, unless it is a control character, a quote or a backslash. -/
  | plain {symbol : Char} (printable : ' ' ≤ symbol) (no_quote : symbol ≠ '"')
      (no_backslash : symbol ≠ '\\') : Written (.char symbol) (String.utf8EncodeChar symbol)
  /-- A character is given by a byte behind a backslash. -/
  | short {byte : UInt8} {symbol : Char} (listed : (byte, symbol) ∈ shortEscapes) :
      Written (.char symbol) [0x5c, byte]
  /-- A code unit is given by four hexadecimal digits. -/
  | digits {first second third fourth : UInt8} {a b c d : Nat} (one : HexDigit first a)
      (two : HexDigit second b) (three : HexDigit third c) (four : HexDigit fourth d) :
      Written (.unit (((a * 16 + b) * 16 + c) * 16 + d)) [0x5c, 0x75, first, second, third, fourth]

end Letter

namespace Letters

def pieces (letters : Letters) : Quoted := letters.flatMap Letter.pieces

/-- The bytes that spell a text between its quotes. -/
inductive Written : Letters → Bytes → Prop
  | nil : Written [] []
  | cons {letter : Letter} {letters : Letters} {front rest : Bytes} (first : letter.Written front)
      (others : Written letters rest) : Written (letter :: letters) (front ++ rest)

/-- The bytes that spell a text with its quotes, blanks around it allowed. -/
inductive InQuotes (letters : Letters) : Bytes → Prop
  | quotes {bytes : Bytes} (written : letters.Written bytes) :
      InQuotes letters (0x22 :: bytes ++ [0x22])
  | before {blank : UInt8} {bytes : Bytes} (isBlank : blank ∈ blanks)
      (written : InQuotes letters bytes) : InQuotes letters (blank :: bytes)
  | after {blank : UInt8} {bytes : Bytes} (isBlank : blank ∈ blanks)
      (written : InQuotes letters bytes) : InQuotes letters (bytes ++ [blank])

/-- The characters that a text means. A surrogate has to be half of a pair. -/
inductive Means : Letters → List Char → Prop
  | nil : Means [] []
  | char (symbol : Char) {letters : Letters} {text : List Char} (others : Means letters text) :
      Means (.char symbol :: letters) (symbol :: text)
  | unit {value : Nat} {letters : Letters} {text : List Char}
      (not_high : ¬ (0xd800 ≤ value ∧ value < 0xdc00))
      (not_low : ¬ (0xdc00 ≤ value ∧ value < 0xe000)) (others : Means letters text) :
      Means (.unit value :: letters) (.ofNat value :: text)
  | pair {high low : Nat} {letters : Letters} {text : List Char}
      (is_high : 0xd800 ≤ high ∧ high < 0xdc00) (is_low : 0xdc00 ≤ low ∧ low < 0xe000)
      (others : Means letters text) :
      Means (.unit high :: .unit low :: letters)
        (.ofNat (0x10000 + (high - 0xd800) * 0x400 + (low - 0xdc00)) :: text)

def plain (text : String) : Letters := text.toList.map .char

theorem means_plain (text : String) : (plain text).Means text.toList := by
  rw [plain]
  induction text.toList with
  | nil => exact .nil
  | cons symbol symbols induction => exact .char symbol induction

end Letters

namespace Numeral

/-- The bytes that spell decimals: a point and digits, or nothing. -/
inductive Decimals : List Digit → Bytes → Prop
  | absent : Decimals [] []
  | point {digits : List Digit} (nonempty : digits ≠ []) :
      Decimals digits (0x2e :: digits.map digitByte)

/-- The bytes that spell an exponent: a letter of either case, a sign and digits, or nothing. -/
inductive Power : Option (Bool × List Digit) → Bytes → Prop
  | absent : Power none []
  | bare {letter : UInt8} {digits : List Digit} (either : letter = 0x65 ∨ letter = 0x45)
      (nonempty : digits ≠ []) : Power (some (false, digits)) (letter :: digits.map digitByte)
  | plus {letter : UInt8} {digits : List Digit} (either : letter = 0x65 ∨ letter = 0x45)
      (nonempty : digits ≠ []) :
      Power (some (false, digits)) (letter :: 0x2b :: digits.map digitByte)
  | minus {letter : UInt8} {digits : List Digit} (either : letter = 0x65 ∨ letter = 0x45)
      (nonempty : digits ≠ []) :
      Power (some (true, digits)) (letter :: 0x2d :: digits.map digitByte)

/-- The bytes that spell a number. A leading zero stands alone before the point. -/
inductive Written : Numeral → Bytes → Prop
  | spelled {negative : Bool} {whole fraction : List Digit} {exponent : Option (Bool × List Digit)}
      {decimals power : Bytes} (nonempty : whole ≠ [])
      (leading : whole.head? = some 0 → whole.length = 1) (point : Decimals fraction decimals)
      (letter : Power exponent power) :
      Written ⟨negative, whole, fraction, exponent⟩
        ((if negative then [0x2d] else []) ++ (whole.map digitByte ++ (decimals ++ power)))

end Numeral

/-- A member of an object as it is written. -/
structure WrittenMember where
  name : Letters
  nameBytes : Bytes
  value : Json
  valueBytes : Bytes

/-- The bytes that spell a value, blanks around it allowed. -/
inductive Written : Json → Bytes → Prop
  | null : Written .null [0x6e, 0x75, 0x6c, 0x6c]
  | true : Written (.bool true) [0x74, 0x72, 0x75, 0x65]
  | false : Written (.bool false) [0x66, 0x61, 0x6c, 0x73, 0x65]
  | number {numeral : Numeral} {bytes : Bytes} (written : numeral.Written bytes) :
      Written (.number numeral) bytes
  | text {letters : Letters} {bytes : Bytes} (written : letters.InQuotes bytes) :
      Written (.text letters.pieces) bytes
  | array {space : Bytes} {items : List (Json × Bytes)} (isBlank : ∀ byte ∈ space, byte ∈ blanks)
      (each : ∀ item ∈ items, Written item.1 item.2) :
      Written (.array (items.map Prod.fst))
        (0x5b :: (space ++ (commaSeparated (items.map Prod.snd) ++ [0x5d])))
  | object {space : Bytes} {members : List WrittenMember}
      (isBlank : ∀ byte ∈ space, byte ∈ blanks)
      (names : ∀ member ∈ members, member.name.InQuotes member.nameBytes)
      (values : ∀ member ∈ members, Written member.value member.valueBytes) :
      Written (.object (members.map fun member => (member.name.pieces, member.value)))
        (0x7b :: (space ++ (commaSeparated (members.map fun member =>
          member.nameBytes ++ 0x3a :: member.valueBytes) ++ [0x7d])))
  | before {value : Json} {blank : UInt8} {bytes : Bytes} (isBlank : blank ∈ blanks)
      (written : Written value bytes) : Written value (blank :: bytes)
  | after {value : Json} {blank : UInt8} {bytes : Bytes} (isBlank : blank ∈ blanks)
      (written : Written value bytes) : Written value (bytes ++ [blank])

/-- A member of an object whose name means a text. -/
structure Member where
  letters : Letters
  name : String
  value : Json
  means : letters.Means name.toList

/-- The member among the entries of an object. -/
def Member.entry (member : Member) : Quoted × Json := (member.letters.pieces, member.value)

def Member.plain (name : String) (value : Json) : Member :=
  ⟨.plain name, name, value, Letters.means_plain name⟩

end PadRelay.Json
