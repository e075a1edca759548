import PadRelay.Json.Numeral
import PadRelay.Json.Printer

/-!
# Decimal numbers

An unsigned integer is written without a leading zero. The digits that were written are the digits
that are read, and their value is the integer.
-/

namespace PadRelay.Json

namespace Numeral

/-- The decimal digits of a number, without leading zeros. -/
def decimals (number : Nat) : List Digit :=
  if small : number < 10 then [⟨number, small⟩]
  else decimals (number / 10) ++ [⟨number % 10, Nat.mod_lt number (by decide)⟩]

def digitList (digits : List Nat) : List Digit :=
  digits.map fun digit => ⟨digit % 10, Nat.mod_lt digit (by decide)⟩

def ofNat (number : Nat) : Numeral := ⟨false, decimals number, [], none⟩

def digitByte (digit : Digit) : UInt8 := UInt8.ofNat (0x30 + digit.val)

theorem decimals_ne_nil (number : Nat) : decimals number ≠ [] := by
  rw [decimals]
  split <;> simp

theorem value_append_singleton (digits : List Digit) (last : Digit) :
    value (digits ++ [last]) = value digits * 10 + last.val := by
  simp [value]

theorem value_decimals (number : Nat) : value (decimals number) = number := by
  induction number using Nat.strongRecOn with
  | ind number induction =>
      rw [decimals]
      split
      · simp [value]
      · next large =>
          rw [value_append_singleton, induction (number / 10) (by omega)]
          exact Nat.div_add_mod' number 10

theorem head?_decimals (number : Nat) (positive : 0 < number) :
    (decimals number).head? ≠ some 0 := by
  induction number using Nat.strongRecOn with
  | ind number induction =>
      rw [decimals]
      split
      · intro zero
        have value_zero := congrArg Fin.val (Option.some.inj zero)
        have is_zero : number = 0 := value_zero
        omega
      · next large =>
          obtain ⟨first, rest, shape⟩ := List.exists_cons_of_ne_nil (decimals_ne_nil (number / 10))
          have front := induction (number / 10) (by omega) (by omega)
          rw [shape] at front ⊢
          exact front

theorem length_decimals_of_head? {number : Nat} (zero : (decimals number).head? = some 0) :
    (decimals number).length = 1 := by
  rcases Nat.eq_zero_or_pos number with rfl | positive
  · simp [decimals]
  · exact absurd zero (head?_decimals number positive)

theorem digit?_digitByte (digit : Digit) : digit? (digitByte digit) = some digit := by
  revert digit
  decide

theorem digits_map_digitByte (done written : List Digit) :
    digits done (written.map digitByte) = (done.reverse ++ written, []) := by
  induction written generalizing done with
  | nil => simp [digits]
  | cons digit written induction =>
      rw [List.map_cons, digits, digit?_digitByte]
      simp [induction]

theorem toNat?_ofNat {number : Nat} (fits : number < UInt64.size) :
    (ofNat number).toNat? = some number := by
  simp [toNat?, ofNat, value_decimals, fits]

end Numeral

theorem writeNat_eq (number : Nat) :
    writeNat number = (Numeral.decimals number).map Numeral.digitByte := by
  induction number using Nat.strongRecOn with
  | ind number induction =>
      have digit_written : ∀ digit : Fin 10,
          UInt8.ofNat (Nat.digitChar digit).toNat = Numeral.digitByte digit := by
        decide
      rw [writeNat, Nat.toDigits_eq_if (by decide), Numeral.decimals]
      split
      · next small => simpa using digit_written ⟨number, small⟩
      · next large =>
          have front := induction (number / 10) (by omega)
          rw [writeNat] at front
          rw [List.map_append, front, List.map_append, List.map_singleton]
          have last := digit_written ⟨number % 10, Nat.mod_lt number (by decide)⟩
          rw [List.map_singleton]
          exact congrArg (fun byte => _ ++ [byte]) last

end PadRelay.Json
