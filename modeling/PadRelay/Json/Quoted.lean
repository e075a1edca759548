import PadRelay.Bytes

/-!
# Quoted text

Between the quotes of a JSON text stand bytes and escapes. An escape with four hexadecimal digits
gives a 16-bit code unit; a high surrogate is only good together with a low one that follows at
once. What is left must be UTF-8.
-/

namespace PadRelay.Json

/-- A piece of a quoted text. -/
inductive Piece where
  /-- A byte that stands for itself, directly or behind a backslash. -/
  | byte (byte : UInt8)
  /-- A code unit given by its hexadecimal digits. -/
  | codeUnit (unit : Nat)
deriving DecidableEq

abbrev Quoted := List Piece

namespace Quoted

/-- Whether a code unit is the first half of a pair. -/
def isHighSurrogate (unit : Nat) : Bool := 0xd800 ≤ unit && unit < 0xdc00

/-- Whether a code unit is the second half of a pair. -/
def isLowSurrogate (unit : Nat) : Bool := 0xdc00 ≤ unit && unit < 0xe000

/-- The UTF-8 bytes of a scalar value. -/
def scalarBytes (scalar : Nat) : Bytes := Bytes.ofText (Char.ofNat scalar).toString

/-- The bytes that the pieces stand for; `done` is reversed. A lone surrogate is refused. -/
def toBytes? (done : Bytes) : Quoted → Option Bytes
  | [] => some done.reverse
  | .byte byte :: rest => toBytes? (byte :: done) rest
  | [.codeUnit unit] =>
      if isHighSurrogate unit || isLowSurrogate unit then none
      else some ((scalarBytes unit).reverse ++ done).reverse
  | .codeUnit unit :: .byte byte :: rest =>
      if isHighSurrogate unit || isLowSurrogate unit then none
      else toBytes? (byte :: ((scalarBytes unit).reverse ++ done)) rest
  | .codeUnit unit :: .codeUnit next :: rest =>
      if isHighSurrogate unit then
        if isLowSurrogate next then
          let scalar := 0x10000 + (unit - 0xd800) * 0x400 + (next - 0xdc00)
          toBytes? ((scalarBytes scalar).reverse ++ done) rest
        else none
      else if isLowSurrogate unit then none
      else toBytes? ((scalarBytes unit).reverse ++ done) (.codeUnit next :: rest)

/-- The text, if it is well-formed Unicode. -/
def toText? (quoted : Quoted) : Option String := (toBytes? [] quoted).bind Bytes.toText?

/-- How a byte is written between quotes: quotes, backslashes and control characters are escaped. -/
def escape (byte : UInt8) : Bytes :=
  if byte = 0x22 then [0x5c, 0x22]
  else if byte = 0x5c then [0x5c, 0x5c]
  else if byte = 0x08 then [0x5c, 0x62]
  else if byte = 0x0c then [0x5c, 0x66]
  else if byte = 0x0a then [0x5c, 0x6e]
  else if byte = 0x0d then [0x5c, 0x72]
  else if byte = 0x09 then [0x5c, 0x74]
  else if byte < 0x20 then
    [0x5c, 0x75, 0x30, 0x30] ++ Bytes.ofText (Bytes.toHex [byte])
  else [byte]

/-- The bytes of a text between its quotes. -/
def write (text : String) : Bytes := (Bytes.ofText text).flatMap escape

end Quoted

end PadRelay.Json
