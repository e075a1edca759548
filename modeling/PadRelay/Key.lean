import PadRelay.Digest.Fingerprint

/-!
# Keys

A key is a byte string that is not empty. Its text in a log is its length and its fingerprint, never
its bytes.
-/

namespace PadRelay

/-- Key material. -/
structure Key where
  bytes : Bytes
  nonempty : bytes ≠ []
deriving DecidableEq

/-- What is wrong with a key size. -/
inductive SizeFault where
  | notPositive
  | notPowerOfTwo
  | aboveMaximum
  | defaultAboveMaximum
deriving DecidableEq

/-- Why a key cannot be made. -/
inductive KeyError where
  | empty
  | invalidSize (size : Nat) (fault : SizeFault)
deriving DecidableEq

/-- The wording of a fault. -/
def SizeFault.message : SizeFault → String
  | .notPositive => "must be positive"
  | .notPowerOfTwo => "must be a power of two"
  | .aboveMaximum => "exceeds maximum key size"
  | .defaultAboveMaximum => "default size exceeds maximum size"

def KeyError.name : KeyError → String
  | .empty => "EmptyKey"
  | .invalidSize _ _ => "InvalidKeySize"

def KeyError.message : KeyError → String
  | .empty => "key must not be empty"
  | .invalidSize size fault => s!"invalid key size {size}: {fault.message}"

namespace Key

instance : Inhabited Key := ⟨⟨[0], List.cons_ne_nil _ _⟩⟩

def ofBytes (bytes : Bytes) : Except KeyError Key :=
  if nonempty : bytes = [] then .error .empty else .ok ⟨bytes, nonempty⟩

def size (key : Key) : Nat := key.bytes.length

/-- The name of the key in logs. -/
def fingerprint (key : Key) : String := key.bytes.fingerprint

/-- The text of the key in logs, without its bytes. -/
def describe (key : Key) : String :=
  s!"OtpKey \x7b len: {key.size}, fingerprint: \"{key.fingerprint}\" \x7d"

theorem size_pos (key : Key) : 0 < key.size := List.length_pos_iff.2 key.nonempty

@[simp]
theorem ofBytes_bytes (key : Key) : ofBytes key.bytes = .ok key := by
  simp [ofBytes, key.nonempty]

end Key

end PadRelay
