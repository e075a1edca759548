import PadRelay.Bytes

/-!
# JSON numbers

The grammar of a number, and the two questions that a reader asks of one: whether it is a plain
unsigned integer of 64 bits, and whether it lies among the finite doubles.

The second question is answered the way a reader without arbitrary precision answers it. Digits go
into a significand of 64 bits as long as it holds them; further whole digits only count as powers of
ten, further decimals are dropped. The significand and the power of ten are rounded to doubles, and
so is their product, which must not overflow.
-/

namespace PadRelay.Json

abbrev Digit := Fin 10

/-- A number as it was written. -/
structure Numeral where
  negative : Bool
  whole : List Digit
  fraction : List Digit
  exponent : Option (Bool × List Digit)
deriving DecidableEq

namespace Numeral

/-- The digit that a byte stands for. -/
def digit? (byte : UInt8) : Option Digit :=
  if in_range : 0x30 ≤ byte.toNat ∧ byte.toNat ≤ 0x39 then
    some ⟨byte.toNat - 0x30, by omega⟩
  else
    none

/-- The digits at the front of the bytes, and what follows; `done` is reversed. -/
def digits (done : List Digit) : Bytes → List Digit × Bytes
  | [] => (done.reverse, [])
  | byte :: rest =>
      match digit? byte with
      | some digit => digits (digit :: done) rest
      | none => (done.reverse, byte :: rest)

/-- The optional minus sign at the front. -/
def sign : Bytes → Bool × Bytes
  | 0x2d :: rest => (true, rest)
  | bytes => (false, bytes)

/-- The optional decimals at the front: a point is followed by at least one digit. -/
def fraction? : Bytes → Option (List Digit × Bytes)
  | 0x2e :: rest =>
      match digits [] rest with
      | ([], _) => none
      | found => some found
  | bytes => some ([], bytes)

def exponentDigits? (negative : Bool) (bytes : Bytes) : Option (Option (Bool × List Digit)) :=
  match digits [] bytes with
  | (digit :: more, []) => some (some (negative, digit :: more))
  | _ => none

/-- The optional exponent up to the end: a letter, an optional sign and at least one digit. -/
def exponent? : Bytes → Option (Option (Bool × List Digit))
  | [] => some none
  | letter :: rest =>
      if letter = 0x65 ∨ letter = 0x45 then
        match rest with
        | 0x2b :: rest => exponentDigits? false rest
        | 0x2d :: rest => exponentDigits? true rest
        | rest => exponentDigits? false rest
      else
        none

/-- The number that the bytes spell. A leading zero stands alone before the point. -/
def ofBytes? (bytes : Bytes) : Option Numeral := do
  let (negative, bytes) := sign bytes
  let (whole, bytes) := digits [] bytes
  if whole = [] ∨ (whole.head? = some 0 ∧ whole.length ≠ 1) then
    none
  else
    let (fraction, bytes) ← fraction? bytes
    let exponent ← exponent? bytes
    return ⟨negative, whole, fraction, exponent⟩

def value (digits : List Digit) : Nat :=
  digits.foldl (fun total digit => total * 10 + digit.val) 0

/-- The unsigned integer of 64 bits that the number spells without sign, point or exponent. -/
def toNat? (numeral : Numeral) : Option Nat :=
  if numeral.negative = false ∧ numeral.fraction = [] ∧ numeral.exponent = none
      ∧ value numeral.whole < UInt64.size then
    some (value numeral.whole)
  else
    none

/-- Digits taken into a significand while it fits in 64 bits, and the digits left. -/
def absorb : Nat → List Digit → Nat × List Digit
  | significand, [] => (significand, [])
  | significand, digit :: rest =>
      if significand * 10 + digit.val < UInt64.size then
        absorb (significand * 10 + digit.val) rest
      else
        (significand, digit :: rest)

/-- The exponent as a number. -/
def shift (numeral : Numeral) : Int :=
  match numeral.exponent with
  | none => 0
  | some (negative, digits) => if negative then -(value digits : Int) else value digits

/-- The nearest number with 53 binary digits, a tie going to the even one. -/
def roundToDouble (number : Nat) : Nat :=
  if number < 0x20000000000000 then number
  else
    let unit := 1 <<< (number.log2 - 52)
    let below := number / unit
    let rest := number % unit
    let up := unit < 2 * rest ∨ (unit = 2 * rest ∧ below % 2 = 1)
    if up then (below + 1) * unit else below * unit

/-- Whether the number is read as a finite double. -/
def inRange (numeral : Numeral) : Bool :=
  let (significand, uncounted) := absorb 0 numeral.whole
  let (significand, dropped) := absorb significand numeral.fraction
  let decimals := numeral.fraction.length - dropped.length
  let exponent : Int := (uncounted.length : Int) - decimals + numeral.shift
  significand = 0 || exponent < 0
    || (exponent ≤ 308
      && roundToDouble (roundToDouble significand * roundToDouble (Nat.pow 10 exponent.toNat))
        < 1 <<< 1024)

end Numeral

end PadRelay.Json
