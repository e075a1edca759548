import PadRelay.Key
import PadRelay.Entropy

/-!
# Key sizes

Keys have a power of two many bytes, up to a configured maximum. A request may leave the size to the
policy's default.
-/

namespace PadRelay

/-- A positive size that is a power of two. -/
def IsKeySize (size : Nat) : Prop := 1 <<< size.log2 = size

instance (size : Nat) : Decidable (IsKeySize size) := inferInstanceAs (Decidable (_ = _))

theorem IsKeySize.pos {size : Nat} (valid : IsKeySize size) : 0 < size := by
  rw [← valid, Nat.one_shiftLeft]
  exact Nat.two_pow_pos _

theorem isKeySize_shiftLeft (exponent : Nat) : IsKeySize (1 <<< exponent) := by
  simp [IsKeySize, Nat.one_shiftLeft]

theorem isKeySize_iff_exists (size : Nat) : IsKeySize size ↔ ∃ exponent, size = 1 <<< exponent :=
  ⟨fun valid => ⟨size.log2, valid.symm⟩,
    fun ⟨exponent, equal⟩ => equal ▸ isKeySize_shiftLeft exponent⟩

/-- The default and the largest key size. -/
structure SizePolicy where
  /-- Size used when a request names none. -/
  default : Nat
  /-- Largest size handed out. -/
  maximum : Nat
  /-- The default is a key size. -/
  default_valid : IsKeySize default
  /-- The maximum is a key size. -/
  maximum_valid : IsKeySize maximum
  /-- The default is not above the maximum. -/
  default_le : default ≤ maximum

namespace SizePolicy

/-- The policy used unless another is configured: 64 bytes, at most 4096. -/
def standard : SizePolicy where
  default := 64
  maximum := 4096
  default_valid := isKeySize_shiftLeft 6
  maximum_valid := isKeySize_shiftLeft 12
  default_le := by decide

instance : Inhabited SizePolicy := ⟨standard⟩

/-- What keeps a number from being a key size: being zero is reported first. -/
def fault? (size : Nat) : Option SizeFault :=
  if size = 0 then some .notPositive
  else if IsKeySize size then none
  else some .notPowerOfTwo

theorem fault?_eq_none_iff (size : Nat) : fault? size = none ↔ IsKeySize size := by
  unfold fault?
  split
  · next zero => simp [zero, IsKeySize]
  · split <;> simp_all

/-- The policy of two sizes. The maximum is checked first, then the default, then their order. -/
def ofSizes (default maximum : Nat) : Except KeyError SizePolicy :=
  match maximum_fault : fault? maximum with
  | some fault => .error (.invalidSize maximum fault)
  | none =>
      match default_fault : fault? default with
      | some fault => .error (.invalidSize default fault)
      | none =>
          if default_le : default ≤ maximum then
            .ok ⟨default, maximum, (fault?_eq_none_iff _).1 default_fault,
              (fault?_eq_none_iff _).1 maximum_fault, default_le⟩
          else
            .error (.invalidSize default .defaultAboveMaximum)

/-- The size itself if the policy allows it. -/
def validate (policy : SizePolicy) (size : Nat) : Except KeyError Nat :=
  match fault? size with
  | some fault => .error (.invalidSize size fault)
  | none =>
      if size ≤ policy.maximum then .ok size else .error (.invalidSize size .aboveMaximum)

/-- The size for a request: the default if it names none. -/
def resolve (policy : SizePolicy) : Option UInt32 → Except KeyError Nat
  | none => .ok policy.default
  | some size => policy.validate size.toNat

theorem validate_eq_ok_iff (policy : SizePolicy) (size result : Nat) :
    policy.validate size = .ok result ↔
      result = size ∧ IsKeySize size ∧ size ≤ policy.maximum := by
  unfold validate
  split
  · next fault found =>
      have invalid : ¬ IsKeySize size := by
        rw [← fault?_eq_none_iff, found]
        simp
      simp [invalid]
  · next valid =>
      rw [fault?_eq_none_iff] at valid
      split
      · next small => simp [valid, small, eq_comm]
      · next large =>
          have not_small : ¬ size ≤ policy.maximum := large
          simp [not_small]

theorem validate_of_resolve {policy : SizePolicy} {requested : Option UInt32} {size : Nat}
    (resolved : policy.resolve requested = .ok size) : policy.validate size = .ok size := by
  cases requested with
  | none =>
      cases resolved
      exact (validate_eq_ok_iff _ _ _).2 ⟨rfl, policy.default_valid, policy.default_le⟩
  | some given =>
      obtain ⟨rfl, valid, small⟩ := (validate_eq_ok_iff _ _ _).1 resolved
      exact (validate_eq_ok_iff _ _ _).2 ⟨rfl, valid, small⟩

end SizePolicy

/-- A fresh key of a size that the policy allows. A refused size takes nothing from the source. -/
def Key.generate (policy : SizePolicy) (size : Nat) (source : Entropy) :
    Except KeyError (Key × Entropy) := do
  let size ← policy.validate size
  let (bytes, rest) := source.take size
  let key ← Key.ofBytes bytes
  return (key, rest)

end PadRelay
