/-!
# Network addresses

Internet addresses of both families, with the text forms that a configuration may use. Two addresses
name the same host when they agree after an IPv4 address mapped into IPv6 is taken out of it.
-/

namespace PadRelay

/-- An internet address. -/
inductive IpAddress where
  | v4 (octets : Vector UInt8 4)
  | v6 (groups : Vector UInt16 8)
deriving DecidableEq

/-- An address with a port. -/
structure SocketAddress where
  ip : IpAddress
  port : UInt16
  zone : UInt32 := 0
deriving DecidableEq

namespace IpAddress

def loopback : IpAddress := .v4 #v[127, 0, 0, 1]

instance : Inhabited IpAddress := ⟨loopback⟩

/-- The IPv4 address that the groups of an IPv6 address hold behind `::ffff:`. -/
def mapped? (groups : Vector UInt16 8) : Option (Vector UInt8 4) :=
  if groups.toList.take 6 = [0, 0, 0, 0, 0, 0xffff] then
    some #v[(groups[6] >>> 8).toUInt8, groups[6].toUInt8, (groups[7] >>> 8).toUInt8,
      groups[7].toUInt8]
  else
    none

/-- The address with a mapped IPv4 address taken out. -/
def canonical : IpAddress → IpAddress
  | .v4 octets => .v4 octets
  | .v6 groups =>
      match mapped? groups with
      | some octets => .v4 octets
      | none => .v6 groups

/-- Whether two addresses name the same host. -/
def sameHost (left right : IpAddress) : Bool := left.canonical = right.canonical

theorem canonical_canonical (address : IpAddress) :
    address.canonical.canonical = address.canonical := by
  cases address with
  | v4 octets => rfl
  | v6 groups =>
      cases found : mapped? groups with
      | none => simp [canonical, found]
      | some octets => simp [canonical, found]

/-- The octets with points between them. -/
def writeV4 (octets : Vector UInt8 4) : String :=
  ".".intercalate (octets.toList.map fun octet => toString octet.toNat)

/-- The groups in hexadecimal with colons between them. -/
def writeGroups (groups : List UInt16) : String :=
  ":".intercalate (groups.map fun group => String.ofList (Nat.toDigits 16 group.toNat))

/-- Length of the run of zeros at the front. -/
def zeros (groups : List UInt16) : Nat := (groups.takeWhile (· = 0)).length

/-- Start and length of the longest run of zeros, the first of equals. -/
def longestZeros (groups : List UInt16) : Nat × Nat :=
  (List.range groups.length).foldl
    (fun best start =>
      let length := zeros (groups.drop start)
      if best.2 < length then (start, length) else best)
    (0, 0)

/-- The groups, the longest run of at least two zeros shortened, a mapped address as such. -/
def writeV6 (groups : Vector UInt16 8) : String :=
  match mapped? groups with
  | some octets => s!"::ffff:{writeV4 octets}"
  | none =>
      let groups := groups.toList
      let (start, length) := longestZeros groups
      if 1 < length then
        s!"{writeGroups (groups.take start)}::{writeGroups (groups.drop (start + length))}"
      else
        writeGroups groups

def write : IpAddress → String
  | .v4 octets => writeV4 octets
  | .v6 groups => writeV6 groups

end IpAddress

/-- The text of an address with its port. -/
def SocketAddress.write (address : SocketAddress) : String :=
  match address.ip with
  | .v4 octets => s!"{IpAddress.writeV4 octets}:{address.port.toNat}"
  | .v6 groups =>
      if address.zone = 0 then s!"[{IpAddress.writeV6 groups}]:{address.port.toNat}"
      else s!"[{IpAddress.writeV6 groups}%{address.zone.toNat}]:{address.port.toNat}"

end PadRelay
