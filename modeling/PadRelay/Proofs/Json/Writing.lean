import Mathlib.Data.List.Basic
import PadRelay.Proofs.Json.Reading

/-!
# What is written is in the grammar

An encoded document keeps to the grammar, without blanks: numbers are written without leading zeros,
and in a text the quotes, the backslashes and the control characters are escaped.
-/

namespace PadRelay

namespace Json.Quoted

/-- The piece that a written byte is read as: control characters without a short escape come back as
code units. -/
def piece (byte : UInt8) : Piece :=
  if byte < 0x20 ∧ byte ∉ ([0x08, 0x0c, 0x0a, 0x0d, 0x09] : Bytes) then .codeUnit byte.toNat
  else .byte byte

/-- The pieces that a written text is read as. -/
def ofText (text : String) : Quoted := (Bytes.ofText text).map piece

end Json.Quoted

def Field.toJson : Field → Json
  | .bool value => .bool value
  | .nat value => .number (.ofNat value)
  | .text content => .text (.ofText content)
  | .bytes content => .array (content.map fun byte => .number (.ofNat byte.toNat))

namespace Json

namespace Letter

/-- The letter that a character is written as: control characters without a short escape are code
units. -/
def ofChar (symbol : Char) : Letter :=
  if symbol < ' ' ∧ symbol ∉ ['\x08', '\x0c', '\n', '\r', '\t'] then .unit symbol.toNat
  else .char symbol

end Letter

theorem exists_code_of_lt {symbol : Char} (control : symbol < ' ') :
    ∃ code : Fin 32, symbol = Char.ofNat code := by
  have small : symbol.toNat < 32 := by simpa [Char.lt_def, UInt32.lt_iff_toNat_lt] using control
  exact ⟨⟨symbol.toNat, small⟩, (Char.ofNat_toNat symbol).symm⟩

namespace Letter

/-- The pieces that the bytes of a character are read as are those of its letter. -/
theorem pieces_ofChar (symbol : Char) :
    (ofChar symbol).pieces = (String.utf8EncodeChar symbol).map Quoted.piece := by
  by_cases control : symbol < ' '
  · obtain ⟨code, rfl⟩ := exists_code_of_lt control
    clear control
    revert code
    decide
  by_cases special : symbol = '"' ∨ symbol = '\\'
  · rcases special with rfl | rfl <;> decide
  obtain ⟨no_quote, no_backslash⟩ := not_or.1 special
  have plain := plain_of_mem_utf8EncodeChar (Char.not_lt.1 control) no_quote no_backslash
  rw [ofChar, if_neg fun both => control both.1, pieces]
  exact List.map_congr_left fun byte member => by simp [Quoted.piece, (plain byte member).2.2]

end Letter

theorem HexDigit.of_hexValue? {byte : UInt8} {value : Nat}
    (read : Token.hexValue? byte = some value) : HexDigit byte value := by
  have same (code : Nat) (equal : code = byte.toNat) : UInt8.ofNat code = byte := by
    rw [equal, UInt8.ofNat_toNat]
  rw [Token.hexValue?] at read
  split at read
  · next decimal =>
    cases read
    have digit := HexDigit.decimal ⟨byte.toNat - 0x30, by omega⟩
    rwa [same _ (by simp only; omega)] at digit
  · split at read
    · next lower =>
      cases read
      have digit := HexDigit.lower ⟨byte.toNat - 0x61, by omega⟩
      rwa [same _ (by simp only; omega), Nat.add_comm] at digit
    · split at read
      · next upper =>
        cases read
        have digit := HexDigit.upper ⟨byte.toNat - 0x41, by omega⟩
        rwa [same _ (by simp only; omega), Nat.add_comm] at digit
      · cases read

/-- A control character is written with the two hexadecimal digits that make it up. -/
theorem Token.ofText_toHex_of_lt {byte : UInt8} (control : byte < 0x20) :
    ∃ high low, Bytes.ofText (Bytes.toHex [byte]) = [high, low] ∧
      Token.hexValue? high = some (byte.toNat / 16) ∧
      Token.hexValue? low = some (byte.toNat % 16) := by
  have all_controls : ∀ code : Fin 32, ∃ high low : UInt8,
      Bytes.ofText (Bytes.toHex [UInt8.ofNat code.val]) = [high, low] ∧
        Token.hexValue? high = some (code.val / 16) ∧
        Token.hexValue? low = some (code.val % 16) := by
    intro code
    refine ⟨UInt8.ofNat (Bytes.hexDigit (code.val / 16)).toNat,
      UInt8.ofNat (Bytes.hexDigit (code.val % 16)).toNat, ?_⟩
    revert code
    decide
  have found := all_controls ⟨byte.toNat, by simpa using UInt8.lt_iff_toNat_lt.1 control⟩
  simpa using found

/-- A control character without a short escape is written with four digits. -/
theorem Letter.written_control {symbol : Char} (control : symbol < ' ')
    (long : symbol ∉ ['\x08', '\x0c', '\n', '\r', '\t']) :
    (Letter.unit symbol.toNat).Written
      ((String.utf8EncodeChar symbol).flatMap Quoted.escape) := by
  have small : symbol.toNat < 32 := by simpa [Char.lt_def, UInt32.lt_iff_toNat_lt] using control
  have encoded : String.utf8EncodeChar symbol = [UInt8.ofNat symbol.toNat] := by
    rw [String.utf8EncodeChar]
    exact if_pos (Nat.le_of_lt (Nat.lt_trans small (by decide)))
  have byte_eq : (UInt8.ofNat symbol.toNat).toNat = symbol.toNat := by
    rw [UInt8.toNat_ofNat']
    omega
  have below : UInt8.ofNat symbol.toNat < 0x20 := by
    simpa [UInt8.lt_iff_toNat_lt, byte_eq] using small
  obtain ⟨high, low, written, high_read, low_read⟩ := Token.ofText_toHex_of_lt below
  have escaped :
      Quoted.escape (UInt8.ofNat symbol.toNat) = [0x5c, 0x75, 0x30, 0x30, high, low] := by
    rw [← written]
    obtain ⟨code, rfl⟩ := exists_code_of_lt control
    clear control small encoded byte_eq below written high_read low_read
    revert code
    decide
  have digits := Written.digits (.decimal 0) (.decimal 0) (.of_hexValue? high_read)
    (.of_hexValue? low_read)
  rw [byte_eq] at digits
  rw [encoded, List.flatMap_singleton, escaped]
  simpa [Nat.div_add_mod'] using digits

theorem Quoted.escape_of_plain {byte : UInt8} (no_quote : byte ≠ 0x22) (no_backslash : byte ≠ 0x5c)
    (printable : ¬ byte < 0x20) : escape byte = [byte] := by
  have no_control : ∀ control ∈ ([0x08, 0x0c, 0x0a, 0x0d, 0x09] : Bytes), byte ≠ control := by
    have controls : ∀ control ∈ ([0x08, 0x0c, 0x0a, 0x0d, 0x09] : Bytes), control < 0x20 := by
      simp
    rintro control listed rfl
    exact printable (controls byte listed)
  simp only [List.forall_mem_cons, List.not_mem_nil, false_imp_iff, implies_true,
    and_true] at no_control
  simp [escape, no_quote, no_backslash, printable, no_control]

/-- The escapes of the bytes of a character spell its letter. -/
theorem Letter.written_ofChar (symbol : Char) :
    (ofChar symbol).Written ((String.utf8EncodeChar symbol).flatMap Quoted.escape) := by
  by_cases control : symbol < ' '
  · by_cases short : symbol ∈ ['\x08', '\x0c', '\n', '\r', '\t']
    · rw [ofChar, if_neg fun both => both.2 short]
      simp only [List.mem_cons, List.not_mem_nil, or_false] at short
      rcases short with rfl | rfl | rfl | rfl | rfl
      · exact @Written.short 0x62 _ (by decide)
      · exact @Written.short 0x66 _ (by decide)
      · exact @Written.short 0x6e _ (by decide)
      · exact @Written.short 0x72 _ (by decide)
      · exact @Written.short 0x74 _ (by decide)
    · rw [ofChar, if_pos ⟨control, short⟩]
      exact written_control control short
  by_cases special : symbol = '"' ∨ symbol = '\\'
  · rcases special with rfl | rfl
    · exact @Written.short 0x22 _ (by decide)
    · exact @Written.short 0x5c _ (by decide)
  obtain ⟨no_quote, no_backslash⟩ := not_or.1 special
  have printable := Char.not_lt.1 control
  have plain := plain_of_mem_utf8EncodeChar printable no_quote no_backslash
  have unescaped : (String.utf8EncodeChar symbol).flatMap Quoted.escape =
      String.utf8EncodeChar symbol := by
    rw [List.flatMap_congr fun byte member => Quoted.escape_of_plain (plain byte member).1
      (plain byte member).2.1 (plain byte member).2.2, List.flatMap_singleton']
  rw [ofChar, if_neg fun both => control both.1, unescaped]
  exact .plain printable no_quote no_backslash

namespace Letters

def ofText (text : String) : Letters := text.toList.map Letter.ofChar

theorem pieces_ofText (text : String) : (ofText text).pieces = .ofText text := by
  rw [Quoted.ofText, Bytes.ofText_eq_flatMap, ofText]
  induction text.toList with
  | nil => rfl
  | cons symbol symbols induction =>
      rw [List.map_cons, pieces_cons, Letter.pieces_ofChar, induction, List.flatMap_cons,
        List.map_append]

theorem written_ofText (text : String) : (ofText text).Written (Quoted.write text) := by
  rw [Quoted.write, Bytes.ofText_eq_flatMap, ofText]
  induction text.toList with
  | nil => exact .nil
  | cons symbol symbols induction =>
      rw [List.flatMap_cons, List.flatMap_append]
      exact .cons (Letter.written_ofChar symbol) induction

theorem means_ofText (text : String) : (ofText text).Means text.toList := by
  rw [ofText]
  induction text.toList with
  | nil => exact .nil
  | cons symbol symbols induction =>
      rw [List.map_cons, Letter.ofChar]
      split
      · next control =>
        have small : symbol.toNat < 32 := by
          simpa [Char.lt_def, UInt32.lt_iff_toNat_lt] using control.1
        have unit := @Means.unit symbol.toNat _ _ (by omega) (by omega) induction
        rwa [Char.ofNat_toNat] at unit
      · exact .char symbol induction

end Letters

@[simp]
theorem Quoted.toText?_ofText (text : String) : (ofText text).toText? = some text := by
  rw [← Letters.pieces_ofText]
  exact (Letters.means_ofText text).toText?_pieces

theorem inQuotes_writeText (text : String) : (Letters.ofText text).InQuotes (writeText text) :=
  .quotes (Letters.written_ofText text)

theorem Numeral.written_writeNat (number : Nat) : (ofNat number).Written (writeNat number) := by
  have written := @Written.spelled false _ _ _ _ _ (decimals_ne_nil number)
    length_decimals_of_head? .absent .absent
  rw [writeNat_eq, ofNat]
  simpa using written

theorem written_writeField (field : Field) : Written field.toJson (writeField field) := by
  cases field with
  | bool value =>
      cases value with
      | false => exact .false
      | true => exact .true
  | nat value => exact .number (Numeral.written_writeNat value)
  | text content =>
      rw [Field.toJson, ← Letters.pieces_ofText]
      exact .text (inQuotes_writeText content)
  | bytes content =>
      have items := @Written.array [] (content.map fun byte =>
        (.number (.ofNat byte.toNat), writeNat byte.toNat)) (by simp)
        (List.forall_mem_map.2 fun byte _ => .number (Numeral.written_writeNat byte.toNat))
      rw [List.map_map, List.map_map] at items
      exact items

theorem written_writeObject (members : List (String × Field)) :
    Written (.object (members.map fun member => (.ofText member.1, member.2.toJson)))
      (writeObject members) := by
  have object := @Written.object [] (members.map fun member =>
    ⟨.ofText member.1, writeText member.1, member.2.toJson, writeField member.2⟩) (by simp)
    (List.forall_mem_map.2 fun member _ => inQuotes_writeText member.1)
    (List.forall_mem_map.2 fun member _ => written_writeField member.2)
  rw [List.map_map, List.map_map] at object
  simp only [Function.comp_def, Letters.pieces_ofText] at object
  exact object

end Json

end PadRelay
