import Mathlib.Algebra.Order.Field.Power
import Mathlib.Data.Rat.Cast.Order
import Mathlib.Tactic.Linarith
import Mathlib.Tactic.Positivity
import Mathlib.Tactic.Ring
import PadRelay.Proofs.Json.Numeral

/-!
# The range of numbers

How large a number may be to be read as a finite double. A reader loses digits and rounds three
times, so that it may refuse a number just below the largest double; but it takes every number that
is smaller by some units in the last place.
-/

namespace PadRelay.Json.Numeral

/-- The number that a numeral stands for, without its sign. -/
def magnitude (numeral : Numeral) : ℚ :=
  value (numeral.whole ++ numeral.fraction) * 10 ^ (numeral.shift - numeral.fraction.length)

def largestDouble : ℚ := (2 ^ 53 - 1) * 2 ^ 971

/-- What every reader takes for a finite double. -/
def safelyInRange : ℚ := 2 ^ 1024 - 2 ^ 973

theorem value_append (front back : List Digit) :
    value (front ++ back) = value front * 10 ^ back.length + value back := by
  induction back using List.reverseRecOn with
  | nil => simp [value]
  | append_singleton back last induction =>
      rw [← List.append_assoc, value_append_singleton, value_append_singleton, induction,
        List.length_append, List.length_singleton, pow_succ]
      ring

theorem value_lt (digits : List Digit) : value digits < 10 ^ digits.length := by
  induction digits using List.reverseRecOn with
  | nil => simp [value]
  | append_singleton digits last induction =>
      have small := last.isLt
      rw [value_append_singleton, List.length_append, List.length_singleton, pow_succ]
      omega

/-- Digits go into the significand as long as it holds them. -/
theorem absorb_spec (significand : Nat) (digits : List Digit) :
    ∃ taken, digits = taken ++ (absorb significand digits).2 ∧
      (absorb significand digits).1 = significand * 10 ^ taken.length + value taken ∧
      (∀ first ∈ taken.head?, significand * 10 + first.val < UInt64.size) ∧
      ∀ next ∈ (absorb significand digits).2.head?,
        UInt64.size ≤ (absorb significand digits).1 * 10 + next.val := by
  induction digits generalizing significand with
  | nil => exact ⟨[], by simp [absorb, value]⟩
  | cons digit digits induction =>
      rw [absorb]
      split
      · next fits =>
        obtain ⟨taken, shape, sum, -, full⟩ := induction (significand * 10 + digit.val)
        refine ⟨digit :: taken, ?_, ?_, by simpa using fits, full⟩
        · rw [List.cons_append, ← shape]
        · have front := value_append [digit] taken
          have single : value [digit] = digit.val := by simp [value]
          rw [List.singleton_append, single] at front
          rw [sum, front, List.length_cons, pow_succ]
          ring
      · next overflows => exact ⟨[], by simpa [value] using overflows⟩

/-- Rounding adds at most half a unit in the last of 53 binary digits. -/
theorem roundToDouble_le (number : Nat) :
    2 ^ 53 * roundToDouble number ≤ (2 ^ 53 + 1) * number := by
  rw [roundToDouble]
  split
  · omega
  · next large =>
    have log_large : 53 ≤ number.log2 := by
      rw [Nat.le_log2 (by omega)]
      omega
    have unit_eq : 1 <<< (number.log2 - 52) * 2 ^ 52 = 2 ^ number.log2 := by
      rw [Nat.one_shiftLeft, ← pow_add, Nat.sub_add_cancel (by omega)]
    have above : 2 ^ number.log2 ≤ number := Nat.log2_self_le (by omega)
    have parts := Nat.div_add_mod number (1 <<< (number.log2 - 52))
    generalize 1 <<< (number.log2 - 52) = unit at *
    have below : number / unit * unit ≤ number := Nat.div_mul_le_self number unit
    dsimp only
    split
    · next up =>
      have half : unit ≤ 2 * (number % unit) := by omega
      have next_up : (number / unit + 1) * unit = number / unit * unit + unit := Nat.succ_mul _ _
      have same : unit * (number / unit) = number / unit * unit := Nat.mul_comm _ _
      omega
    · omega

/-- Decimals that are read although whole digits were left out are smaller than these. -/
theorem decimals_le {significand : Nat} {left fraction : List Digit}
    (full : ∀ next ∈ left.head?, UInt64.size ≤ significand * 10 + next.val)
    (fits : ∀ first ∈ fraction.head?, significand * 10 + first.val < UInt64.size) :
    value fraction * 10 ^ left.length ≤ value left * 10 ^ fraction.length + value fraction := by
  cases left with
  | nil => simp
  | cons next left =>
      cases fraction with
      | nil => simp [value]
      | cons first fraction =>
          have smaller : first.val + 1 ≤ next.val := by
            have high := full next rfl
            have low := fits first rfl
            omega
          have single (digit : Digit) : value [digit] = digit.val := by simp [value]
          have fraction_value := value_append [first] fraction
          have left_value := value_append [next] left
          have rest := value_lt fraction
          rw [List.singleton_append, single] at fraction_value left_value
          have bound : value (first :: fraction) ≤ next.val * 10 ^ fraction.length := by
            have step := Nat.mul_le_mul_right (10 ^ fraction.length) smaller
            rw [Nat.succ_mul] at step
            omega
          calc value (first :: fraction) * 10 ^ (next :: left).length
              ≤ next.val * 10 ^ fraction.length * 10 ^ (next :: left).length :=
                Nat.mul_le_mul_right _ bound
            _ = next.val * 10 ^ left.length * 10 ^ (first :: fraction).length := by
                rw [List.length_cons, List.length_cons, pow_succ, pow_succ]
                ring
            _ ≤ value (next :: left) * 10 ^ (first :: fraction).length := by
                rw [left_value]
                exact Nat.mul_le_mul_right _ (Nat.le_add_right _ _)
            _ ≤ _ := Nat.le_add_right _ _

/-- What is read of a number, before it is rounded, is at most the number. -/
theorem truncated_le (numeral : Numeral) {front significand : Nat}
    {uncounted dropped : List Digit} (whole_read : absorb 0 numeral.whole = (front, uncounted))
    (fraction_read : absorb front numeral.fraction = (significand, dropped)) :
    significand * 10 ^ (uncounted.length + dropped.length) ≤
      value (numeral.whole ++ numeral.fraction) := by
  obtain ⟨whole, whole_shape, whole_sum, -, full⟩ := absorb_spec 0 numeral.whole
  obtain ⟨fraction, fraction_shape, fraction_sum, fits, -⟩ := absorb_spec front numeral.fraction
  simp only [whole_read, Nat.zero_mul, Nat.zero_add] at whole_shape whole_sum full
  simp only [fraction_read] at fraction_shape fraction_sum
  have decimals := decimals_le full fits
  rw [whole_shape, fraction_shape, value_append, value_append, value_append, fraction_sum,
    ← whole_sum, List.length_append]
  calc (front * 10 ^ fraction.length + value fraction) *
        10 ^ (uncounted.length + dropped.length)
      = front * 10 ^ (uncounted.length + (fraction.length + dropped.length)) +
          value fraction * 10 ^ uncounted.length * 10 ^ dropped.length := by ring
    _ ≤ front * 10 ^ (uncounted.length + (fraction.length + dropped.length)) +
          (value uncounted * 10 ^ fraction.length + value fraction) * 10 ^ dropped.length := by
        gcongr
    _ ≤ _ := by
        rw [pow_add, pow_add]
        nlinarith [value dropped]

/-- The rounded product of a significand and a power of ten is finite if the product is safely in
range. -/
theorem product_finite {significand power : Nat}
    (bounded : significand * power + 2 ^ 973 ≤ 2 ^ 1024) :
    roundToDouble (roundToDouble significand * roundToDouble power) < 1 <<< 1024 := by
  rw [Nat.one_shiftLeft]
  have left := roundToDouble_le significand
  have right := roundToDouble_le power
  have whole := roundToDouble_le (roundToDouble significand * roundToDouble power)
  have both := Nat.mul_le_mul left right
  have cubed : 2 ^ 53 * 2 ^ 53 * (2 ^ 53 * roundToDouble
      (roundToDouble significand * roundToDouble power)) ≤
        (2 ^ 53 + 1) * ((2 ^ 53 + 1) * (2 ^ 53 + 1) * (significand * power)) := by
    calc _ ≤ 2 ^ 53 * 2 ^ 53 * ((2 ^ 53 + 1) * (roundToDouble significand * roundToDouble power)) :=
          Nat.mul_le_mul_left _ whole
      _ = (2 ^ 53 + 1) * (2 ^ 53 * roundToDouble significand * (2 ^ 53 * roundToDouble power)) := by
          ring
      _ ≤ (2 ^ 53 + 1) * ((2 ^ 53 + 1) * significand * ((2 ^ 53 + 1) * power)) :=
          Nat.mul_le_mul_left _ both
      _ = _ := by ring
  omega

theorem power_lt {power bound limit : Nat} (below : 10 ^ power ≤ bound)
    (beyond : bound < 10 ^ limit) : power < limit :=
  (Nat.pow_lt_pow_iff_right (by decide)).1 (Nat.lt_of_le_of_lt below beyond)

/-- A number that is safely in range is read as a finite double. -/
theorem inRange_of_magnitude_le {numeral : Numeral} (bounded : numeral.magnitude ≤ safelyInRange) :
    numeral.inRange = true := by
  rcases whole_read : absorb 0 numeral.whole with ⟨front, uncounted⟩
  rcases fraction_read : absorb front numeral.fraction with ⟨significand, dropped⟩
  have truncated := truncated_le numeral whole_read fraction_read
  have shorter : dropped.length ≤ numeral.fraction.length := by
    obtain ⟨taken, shape, -⟩ := absorb_spec front numeral.fraction
    rw [fraction_read] at shape
    rw [shape, List.length_append]
    exact Nat.le_add_left _ _
  simp only [inRange, whole_read, fraction_read, Bool.or_eq_true, Bool.and_eq_true,
    decide_eq_true_eq]
  rcases Nat.eq_zero_or_pos significand with zero | positive
  · exact .inl (.inl zero)
  by_cases negative : (uncounted.length : Int) -
      ((numeral.fraction.length - dropped.length : Nat) : Int) + numeral.shift < 0
  · exact .inl (.inr negative)
  obtain ⟨power, power_eq⟩ := Int.eq_ofNat_of_zero_le (Int.not_lt.1 negative)
  have product_le : significand * 10 ^ power + 2 ^ 973 ≤ 2 ^ 1024 := by
    have exponents : ((uncounted.length + dropped.length : Nat) : Int) +
        (numeral.shift - numeral.fraction.length) = power := by
      rw [Nat.cast_sub shorter] at power_eq
      push_cast
      linarith
    have in_rationals : (significand * 10 ^ power : ℚ) ≤ 2 ^ 1024 - 2 ^ 973 :=
      calc (significand * 10 ^ power : ℚ)
          = significand * 10 ^ (uncounted.length + dropped.length) *
              10 ^ (numeral.shift - numeral.fraction.length) := by
            rw [mul_assoc, ← zpow_natCast, ← zpow_natCast, ← zpow_add₀ (by norm_num), exponents]
        _ ≤ numeral.magnitude := by
            rw [magnitude]
            gcongr
            exact_mod_cast truncated
        _ ≤ _ := bounded
    exact_mod_cast le_sub_iff_add_le.1 in_rationals
  have power_le : 10 ^ power ≤ 2 ^ 1024 :=
    (Nat.le_mul_of_pos_left _ positive).trans (Nat.le_of_add_right_le product_le)
  have power_small : power < 309 := power_lt power_le (by decide +kernel)
  rw [power_eq, Int.toNat_natCast, Nat.pow_eq]
  exact .inr ⟨by omega, product_finite product_le⟩

/-- An unsigned integer of 64 bits is far from the end of the range. -/
theorem inRange_of_toNat? {numeral : Numeral} {number : Nat}
    (read : numeral.toNat? = some number) : numeral.inRange = true := by
  rw [toNat?] at read
  split at read
  · next plain =>
    obtain ⟨-, no_fraction, no_exponent, small⟩ := plain
    apply inRange_of_magnitude_le
    have unshifted : numeral.shift = 0 := by simp [shift, no_exponent]
    have far : UInt64.size + 2 ^ 973 ≤ 2 ^ 1024 := by decide +kernel
    have below : value numeral.whole + 2 ^ 973 ≤ 2 ^ 1024 := by omega
    simp only [magnitude, no_fraction, unshifted, List.append_nil, List.length_nil, Nat.cast_zero,
      sub_self, zpow_zero, mul_one]
    exact le_sub_iff_add_le.2 (by exact_mod_cast below)
  · cases read

/-- The number 1.7976931348623157081e308. -/
def nearLargest : Numeral :=
  ⟨false, digitList [1], digitList [7, 9, 7, 6, 9, 3, 1, 3, 4, 8, 6, 2, 3, 1, 5, 7, 0, 8, 1],
    some (false, digitList [3, 0, 8])⟩

theorem magnitude_nearLargest_le : nearLargest.magnitude ≤ largestDouble := by
  have digits : value (nearLargest.whole ++ nearLargest.fraction) = 17976931348623157081 := by
    decide
  have exponent : nearLargest.shift - nearLargest.fraction.length = (289 : Nat) := by decide
  have significand : (2 ^ 53 - 1 : ℚ) = (9007199254740991 : Nat) := by norm_num
  have below : 17976931348623157081 * 10 ^ 289 ≤ 9007199254740991 * 2 ^ 971 := by decide +kernel
  rw [magnitude, digits, exponent, zpow_natCast, largestDouble, significand]
  exact_mod_cast below

/-- A number below the largest double is refused if its digits and its power of ten are both rounded
up. -/
theorem inRange_nearLargest : nearLargest.inRange = false := by decide +kernel

end PadRelay.Json.Numeral
