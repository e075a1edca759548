import PadRelay.Net.Address

/-!
# Reading addresses

The text forms of addresses: decimal octets without leading zeros, hexadecimal groups with at most
one gap, an IPv4 address in the last two groups, and a bracketed IPv6 address with an optional zone
before the port. A reader gives what it read and the characters that follow.
-/

namespace PadRelay

namespace IpAddress

/-- The value of a digit in a base up to sixteen. -/
def digit? (base : Nat) (char : Char) : Option Nat :=
  let value :=
    if char.isDigit then some (char.toNat - '0'.toNat)
    else if 'a' ≤ char ∧ char ≤ 'f' then some (char.toNat - 'a'.toNat + 10)
    else if 'A' ≤ char ∧ char ≤ 'F' then some (char.toNat - 'A'.toNat + 10)
    else none
  value.filter fun value => value < base

/-- All digits at the front: how many, and their value. -/
def digits (base : Nat) (count total : Nat) : List Char → Nat × Nat × List Char
  | [] => (count, total, [])
  | char :: rest =>
      match digit? base char with
      | some value => digits base (count + 1) (total * base + value) rest
      | none => (count, total, char :: rest)

/-- A number below a bound, with at least one digit and at most the given number of them. -/
def number? (base bound : Nat) (maxDigits : Option Nat) (leadingZero : Bool) (chars : List Char) :
    Option (Nat × List Char) :=
  let (count, value, rest) := digits base 0 0 chars
  if count = 0 ∨ bound ≤ value ∨ maxDigits.any (· < count) then none
  else if ¬ leadingZero ∧ 1 < count ∧ chars.head? = some '0' then none
  else some (value, rest)

/-- The characters behind a given one. -/
def behind? (char : Char) : List Char → Option (List Char)
  | [] => none
  | first :: rest => if first = char then some rest else none

def octet? (chars : List Char) : Option (UInt8 × List Char) :=
  (number? 10 256 (some 3) false chars).map fun (value, rest) => (UInt8.ofNat value, rest)

/-- Four octets with points between them. -/
def readV4? (chars : List Char) : Option (Vector UInt8 4 × List Char) := do
  let (a, chars) ← octet? chars
  let (b, chars) ← octet? (← behind? '.' chars)
  let (c, chars) ← octet? (← behind? '.' chars)
  let (d, chars) ← octet? (← behind? '.' chars)
  return (#v[a, b, c, d], chars)

/-- A group of up to four hexadecimal digits. -/
def group? (chars : List Char) : Option (UInt16 × List Char) :=
  (number? 16 65536 (some 4) true chars).map fun (value, rest) => (UInt16.ofNat value, rest)

/-- Up to `room` groups with colons between them, and whether the last two were an IPv4 address. -/
def readGroups : (room : Nat) → (first : Bool) → List Char → List UInt16 × Bool × List Char
  | 0, _, chars => ([], false, chars)
  | room + 1, first, chars =>
      let start := if first then some chars else behind? ':' chars
      match if 0 < room then start.bind readV4? else none with
      | some (octets, rest) =>
          ([UInt16.ofNat (octets[0].toNat * 256 + octets[1].toNat),
            UInt16.ofNat (octets[2].toNat * 256 + octets[3].toNat)], true, rest)
      | none =>
          match start.bind group? with
          | some (group, rest) =>
              let (groups, embedded, rest) := readGroups room false rest
              (group :: groups, embedded, rest)
          | none => ([], false, chars)

/-- The groups as an address, if there are eight. -/
def ofGroups? (groups : List UInt16) : Option (Vector UInt16 8) :=
  if eight : groups.toArray.size = 8 then some ⟨groups.toArray, eight⟩ else none

/-- Eight groups, or fewer around a gap that stands for at least one group of zeros. -/
def readV6? (chars : List Char) : Option (Vector UInt16 8 × List Char) := do
  let (front, embedded, chars) := readGroups 8 true chars
  if front.length = 8 then
    let groups ← ofGroups? front
    return (groups, chars)
  else if embedded then
    none
  else
    let chars ← behind? ':' (← behind? ':' chars)
    let (back, _, chars) := readGroups (7 - front.length) true chars
    let gap := List.replicate (8 - front.length - back.length) 0
    let groups ← ofGroups? (front ++ gap ++ back)
    return (groups, chars)

/-- The result of a reader that has to take every character. -/
def whole? {α : Type} : Option (α × List Char) → Option α
  | some (value, []) => some value
  | _ => none

def ofText? (text : String) : Option IpAddress :=
  whole? (((readV4? text.toList).map fun (octets, rest) => (.v4 octets, rest)).or
    ((readV6? text.toList).map fun (groups, rest) => (.v6 groups, rest)))

end IpAddress

namespace SocketAddress

open IpAddress

def port? (chars : List Char) : Option (UInt16 × List Char) := do
  let (value, rest) ← number? 10 65536 none true (← behind? ':' chars)
  return (UInt16.ofNat value, rest)

/-- The zone behind a percent sign, zero without one. -/
def zoneOrZero (chars : List Char) : UInt32 × List Char :=
  match (behind? '%' chars).bind (number? 10 UInt32.size none true) with
  | some (value, rest) => (UInt32.ofNat value, rest)
  | none => (0, chars)

/-- An IPv4 address and a port. -/
def readV4? (chars : List Char) : Option (SocketAddress × List Char) := do
  let (octets, chars) ← IpAddress.readV4? chars
  let (port, chars) ← port? chars
  return (⟨.v4 octets, port, 0⟩, chars)

/-- A bracketed IPv6 address and a port. -/
def readV6? (chars : List Char) : Option (SocketAddress × List Char) := do
  let (groups, chars) ← IpAddress.readV6? (← behind? '[' chars)
  let (zone, chars) := zoneOrZero chars
  let (port, chars) ← port? (← behind? ']' chars)
  return (⟨.v6 groups, port, zone⟩, chars)

/-- The address and port that a text spells. -/
def ofText? (text : String) : Option SocketAddress :=
  whole? ((readV4? text.toList).or (readV6? text.toList))

end SocketAddress

end PadRelay
