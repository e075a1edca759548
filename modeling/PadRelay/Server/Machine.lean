import PadRelay.Net.Address

/-!
# The machine of a server

What a server asks of the machine that it runs on: the content of files, and sockets to listen on.
A socket can be opened at an address of the machine, unless one that is open already takes it.
-/

namespace PadRelay

/-- The machine that a server runs on. -/
structure Machine where
  files : List (String × String) := []
  directories : List String := []
  owns : IpAddress → Bool := fun _ => true

/-- Why the machine refuses. -/
inductive MachineError where
  | noEntry
  | notDirectory
  | isDirectory
  | addressInUse
  | addressNotAvailable
deriving DecidableEq

/-- The wording of a refusal, with its number. -/
def MachineError.message : MachineError → String
  | .noEntry => "No such file or directory (os error 2)"
  | .notDirectory => "Not a directory (os error 20)"
  | .isDirectory => "Is a directory (os error 21)"
  | .addressInUse => "Address already in use (os error 98)"
  | .addressNotAvailable => "Cannot assign requested address (os error 99)"

namespace IpAddress

/-- Whether an address stands for all of its machine's. -/
def isUnspecified : IpAddress → Bool
  | .v4 octets => octets.all (· = 0)
  | .v6 groups => groups.all (· = 0)

/-- Whether a socket at one address hears all that comes in at another. At all addresses of the
sixth version, it hears those of the fourth as well. -/
def covers : (wide narrow : IpAddress) → Bool
  | .v4 wide, .v4 narrow => wide = narrow || (v4 wide).isUnspecified
  | .v6 wide, .v6 narrow => wide = narrow || (v6 wide).isUnspecified
  | .v6 wide, .v4 _ => (v6 wide).isUnspecified
  | .v4 _, .v6 _ => false

/-- Whether sockets at two addresses could hear the same. -/
def overlaps (left right : IpAddress) : Bool :=
  left.canonical.covers right.canonical || right.canonical.covers left.canonical

/-- Whether an address is one that every machine has, or hears many peers at. -/
def isCommon (address : IpAddress) : Bool :=
  match address.canonical with
  | .v4 octets =>
      octets.all (· = 255) || octets.toList.head?.any fun network =>
        network = 0 || network = 127 || (224 ≤ network && network < 240)
  | .v6 groups => (v6 groups).isUnspecified || groups = #v[0, 0, 0, 0, 0, 0, 0, 1]

end IpAddress

namespace Machine

/-- Read a file. -/
def read (machine : Machine) (path : String) : Except MachineError String :=
  match machine.files.lookup path with
  | some content => .ok content
  | none =>
      if path ∈ machine.directories then .error .isDirectory
      else if machine.files.any fun file => path.startsWith (file.1 ++ "/") then
        .error .notDirectory
      else .error .noEntry

/-- Open a socket beside those that are open. Any number may be opened at port zero, which stands
for a free port. -/
def listen (machine : Machine) (taken : List SocketAddress) (address : SocketAddress) :
    Except MachineError Unit :=
  if !machine.owns address.ip then .error .addressNotAvailable
  else if address.port ≠ 0 && taken.any fun other =>
      other.port = address.port && other.ip.overlaps address.ip then
    .error .addressInUse
  else .ok ()

end Machine

end PadRelay
