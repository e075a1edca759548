/-!
# Byte strings

Everything on the wire is a list of bytes. This module holds the conversions that the formats
share: text, hexadecimal digits, and big-endian numbers of a fixed width.
-/

namespace PadRelay

/-- A byte string. -/
abbrev Bytes := List UInt8

namespace Bytes

def ofText (text : String) : Bytes := text.toByteArray.data.toList

def toText? (bytes : Bytes) : Option String := String.fromUTF8? ⟨bytes.toArray⟩

@[simp]
theorem toText?_ofText (text : String) : toText? (ofText text) = some text := by
  simp only [toText?, ofText, Array.toArray_toList, String.fromUTF8?]
  exact dif_pos text.isValidUTF8

/-- The lower-case hexadecimal digit of a number below sixteen. -/
def hexDigit (value : Nat) : Char := Nat.digitChar value

/-- Two lower-case hexadecimal digits for each byte. -/
def toHex (bytes : Bytes) : String :=
  String.ofList (bytes.flatMap fun byte => [hexDigit (byte.toNat / 16), hexDigit (byte.toNat % 16)])

def hexValue (digit : Char) : Nat :=
  if digit.isDigit then digit.toNat - '0'.toNat else digit.toLower.toNat - 'a'.toNat + 10

/-- The bytes that pairs of hexadecimal digits stand for; `done` is reversed output. -/
def ofHexDigits : List Char → (done : Bytes) → Bytes
  | high :: low :: rest, done =>
      ofHexDigits rest (UInt8.ofNat (hexValue high * 16 + hexValue low) :: done)
  | _, done => done.reverse

/-- The bytes that a text stands for, two hexadecimal digits each. -/
def ofHex (text : String) : Bytes := ofHexDigits text.toList []

/-- The `width` bytes of `value`, most significant first. -/
def bigEndian : (width : Nat) → (value : Nat) → Bytes
  | 0, _ => []
  | width + 1, value => bigEndian width (value / 256) ++ [UInt8.ofNat value]

/-- The number whose big-endian digits are the bytes. -/
def ofBigEndian (bytes : Bytes) : Nat :=
  bytes.foldl (fun value byte => value * 256 + byte.toNat) 0

@[simp]
theorem length_bigEndian (width value : Nat) : (bigEndian width value).length = width := by
  induction width generalizing value with
  | zero => rfl
  | succ width induction => simp [bigEndian, induction]

@[simp]
theorem ofBigEndian_append_singleton (bytes : Bytes) (byte : UInt8) :
    ofBigEndian (bytes ++ [byte]) = ofBigEndian bytes * 256 + byte.toNat := by
  simp [ofBigEndian]

/-- A number survives being written in enough bytes. -/
theorem ofBigEndian_bigEndian (width value : Nat) (fits : value < Nat.pow 256 width) :
    ofBigEndian (bigEndian width value) = value := by
  induction width generalizing value with
  | zero => simp at fits; simp [bigEndian, ofBigEndian, fits]
  | succ width induction =>
      have quotient_fits : value / 256 < Nat.pow 256 width := Nat.div_lt_of_lt_mul (by
        rwa [Nat.mul_comm])
      rw [bigEndian, ofBigEndian_append_singleton, induction _ quotient_fits]
      simp only [UInt8.toNat_ofNat']
      omega

theorem bigEndian_ofBigEndian (bytes : Bytes) :
    bigEndian bytes.length (ofBigEndian bytes) = bytes := by
  generalize length : bytes.length = width
  induction width generalizing bytes with
  | zero => exact (List.eq_nil_of_length_eq_zero length).symm
  | succ width induction =>
      have nonempty : bytes ≠ [] := List.ne_nil_of_length_eq_add_one length
      obtain ⟨front, last, rfl⟩ : ∃ front last, bytes = front ++ [last] :=
        ⟨_, _, (List.dropLast_concat_getLast nonempty).symm⟩
      have front_length : front.length = width := by simpa using length
      have last_lt := last.toNat_lt
      have quotient : (ofBigEndian front * 256 + last.toNat) / 256 = ofBigEndian front := by omega
      have remainder : UInt8.ofNat (ofBigEndian front * 256 + last.toNat) = last := by
        apply UInt8.toNat.inj
        rw [UInt8.toNat_ofNat']
        omega
      rw [ofBigEndian_append_singleton, bigEndian, quotient, induction front front_length, remainder]

end Bytes

end PadRelay
