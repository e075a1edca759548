import Mathlib.Algebra.Order.Ring.Nat
import PadRelay.Config
import PadRelay.Proofs.Json.Numeral
import PadRelay.Stream.Framing
import PadRelay.Wire.Codec

/-!
# How long an answer with a key gets

In JSON every byte of a key is written in decimal, behind a comma unless it is the first. So the
answer that brings a new key is about four times as long as the key, and a frame carries it only up
to some size. The configuration does not look at frames: it allows keys of any power of two.
-/

namespace PadRelay

namespace Json

/-- How many digits a byte is written with. -/
def digitCount (byte : UInt8) : Nat := if byte < 10 then 1 else if byte < 100 then 2 else 3

theorem digitCount_pos (byte : UInt8) : 1 ≤ digitCount byte := by
  unfold digitCount
  split
  · exact Nat.le_refl 1
  · split <;> decide

theorem digitCount_le (byte : UInt8) : digitCount byte ≤ 3 := by
  unfold digitCount
  split
  · decide
  · split <;> decide

theorem length_writeNat_toNat (byte : UInt8) :
    (writeNat byte.toNat).length = digitCount byte := by
  have bound := byte.toNat_lt
  rw [writeNat_eq, List.length_map, digitCount]
  simp only [UInt8.lt_iff_toNat_lt, UInt8.reduceToNat]
  rw [Numeral.decimals]
  split
  · rfl
  · next large =>
      rw [List.length_append, Numeral.decimals]
      split
      · next medium =>
          rw [if_pos (by omega)]
          rfl
      · next huge =>
          rw [List.length_append, Numeral.decimals, dif_pos (by omega), if_neg (by omega)]
          rfl

theorem length_commaSeparated (parts : List Bytes) :
    (commaSeparated parts).length = (parts.map List.length).sum + (parts.length - 1) := by
  have behind (rest : List Bytes) :
      (rest.flatMap fun part => (0x2c : UInt8) :: part).length =
        (rest.map List.length).sum + rest.length := by
    induction rest with
    | nil => rfl
    | cons part rest induction =>
        rw [List.flatMap_cons, List.length_append, induction]
        simp only [List.length_cons, List.map_cons, List.sum_cons]
        omega
  cases parts with
  | nil => rfl
  | cons first rest =>
      rw [commaSeparated, List.length_append, behind]
      simp only [List.map_cons, List.sum_cons, List.length_cons]
      omega

theorem length_writeField_bytes (content : Bytes) :
    (writeField (.bytes content)).length =
      (content.map digitCount).sum + (content.length - 1) + 2 := by
  have written : (content.map fun byte => writeNat byte.toNat).map List.length =
      content.map digitCount := by
    rw [List.map_map]
    exact List.map_congr_left fun byte _ => length_writeNat_toNat byte
  simp [writeField, length_commaSeparated, written]

theorem length_writeObject (members : List (String × Field)) :
    (writeObject members).length =
      (members.map fun member =>
        (writeText member.1).length + (writeField member.2).length + 1).sum +
          (members.length - 1) + 2 := by
  have parts : (members.map fun member =>
        writeText member.1 ++ 0x3a :: writeField member.2).map List.length =
      members.map fun member =>
        (writeText member.1).length + (writeField member.2).length + 1 := by
    rw [List.map_map]
    exact List.map_congr_left fun member _ => List.length_append
  simp only [writeObject, List.length_append, List.length_cons, length_commaSeparated, parts,
    List.length_map]
  rfl

/-- Length of an answer that brings a key without bytes. -/
def emptyAnswerSize : Nat := (encode (.keyResponse (.issued []))).length

theorem emptyAnswerSize_eq : emptyAnswerSize = 74 := by
  decide

/-- An answer is longer than an empty one by the digits of its key and the commas between them. -/
theorem length_encode_issued (bytes : Bytes) :
    (encode (.keyResponse (.issued bytes))).length =
      emptyAnswerSize + (bytes.map digitCount).sum + (bytes.length - 1) := by
  have shape (content : Bytes) :
      Message.document (.keyResponse (.issued content)) =
        Message.document (.keyResponse ⟨Outcome.ok, none⟩) ++ [("keyBytes", .bytes content)] := rfl
  rw [emptyAnswerSize, encode, encode, shape, shape, length_writeObject, length_writeObject]
  simp only [List.map_append, List.sum_append, List.map_cons, List.map_nil, List.sum_cons,
    List.sum_nil, List.length_append, length_writeField_bytes, List.length_cons, List.length_nil]
  omega

theorem sum_digitCount_ge (bytes : Bytes) : bytes.length ≤ (bytes.map digitCount).sum := by
  induction bytes with
  | nil => exact Nat.le_refl 0
  | cons byte rest induction =>
      have first := digitCount_pos byte
      simp only [List.length_cons, List.map_cons, List.sum_cons]
      omega

theorem sum_digitCount_le (bytes : Bytes) : (bytes.map digitCount).sum ≤ 3 * bytes.length := by
  induction bytes with
  | nil => exact Nat.le_refl 0
  | cons byte rest induction =>
      have first := digitCount_le byte
      simp only [List.length_cons, List.map_cons, List.sum_cons]
      omega

end Json

namespace Key

/-- The answer that brings a key, as it goes out on a channel. -/
def answer (key : Key) : Bytes := Codec.json.encode (.keyResponse (.issued key.bytes))

/-- Whether a socket takes the answer that brings a key. -/
def IsDeliverable (key : Key) : Prop := ∃ wire, writeFrame false key.answer = .ok wire

theorem length_answer (key : Key) :
    key.answer.length = 73 + (key.bytes.map Json.digitCount).sum + key.size := by
  have positive := key.size_pos
  have exact_length := Json.length_encode_issued key.bytes
  rw [Json.emptyAnswerSize_eq] at exact_length
  rw [answer, Codec.encode, exact_length]
  rw [size] at positive ⊢
  omega

theorem isDeliverable_iff (key : Key) :
    key.IsDeliverable ↔ key.answer.length ≤ Frame.maxPayload := by
  rw [IsDeliverable, writeFrame, Frame.ofPayload]
  by_cases fits : key.answer.length ≤ Frame.maxPayload <;> simp [fits]

def uniform (size : Nat) (positive : 0 < size) (byte : UInt8) : Key :=
  ⟨List.replicate size byte, by simpa using Nat.ne_of_gt positive⟩

@[simp]
theorem size_uniform (size : Nat) (positive : 0 < size) (byte : UInt8) :
    (uniform size positive byte).size = size := List.length_replicate

theorem length_answer_uniform (size : Nat) (positive : 0 < size) (byte : UInt8) :
    (uniform size positive byte).answer.length =
      73 + size * Json.digitCount byte + size := by
  rw [length_answer, size_uniform, uniform, List.map_replicate, List.sum_replicate_nat]

end Key

namespace Config

variable {config : Config} {policy : SizePolicy}

/-- The largest size that is allowed is a power of two, so beyond one power it is at least the
next. -/
theorem le_maximum_of_lt (valid : config.validate = .ok policy) {exponent : Nat}
    (larger : 2 ^ exponent < config.maximumSize) : 2 ^ (exponent + 1) ≤ policy.maximum := by
  rw [← (sizes_of_validate valid).2] at larger
  obtain ⟨power, equal⟩ := (isKeySize_iff_exists _).1 policy.maximum_valid
  rw [Nat.one_shiftLeft] at equal
  rw [equal] at larger ⊢
  exact Nat.pow_le_pow_right (by decide) ((Nat.pow_lt_pow_iff_right (by decide)).1 larger)

/-- A power of two that a request can name is granted up to the largest size. -/
theorem resolve_power {exponent : Nat} (short : exponent < 32)
    (small : 2 ^ exponent ≤ policy.maximum) :
    policy.resolve (some (UInt32.ofNat (2 ^ exponent))) = .ok (2 ^ exponent) := by
  have fits : 2 ^ exponent < UInt32.size := Nat.pow_lt_pow_right (by decide) short
  refine (SizePolicy.validate_eq_ok_iff _ _ _).2 ?_
  rw [UInt32.toNat_ofNat_of_lt' fits]
  refine ⟨rfl, ?_, small⟩
  rw [← Nat.one_shiftLeft]
  exact isKeySize_shiftLeft exponent

theorem le_maximum_of_resolve {requested : Option UInt32} {size : Nat}
    (resolved : policy.resolve requested = .ok size) : 0 < size ∧ size ≤ policy.maximum := by
  obtain ⟨-, valid, small⟩ :=
    (SizePolicy.validate_eq_ok_iff _ _ _).1 (SizePolicy.validate_of_resolve resolved)
  exact ⟨valid.pos, small⟩

/-- Every key that a configuration allows can be delivered exactly if no size above 131072 is
allowed. Every size that it allows has some key that can be delivered exactly if no size above
262144 is allowed. -/
theorem deliverable_iff (valid : config.validate = .ok policy) :
    ((∀ requested size, policy.resolve requested = .ok size →
        ∀ key : Key, key.size = size → key.IsDeliverable) ↔ config.maximumSize ≤ 131072) ∧
      ((∀ requested size, policy.resolve requested = .ok size →
        ∃ key : Key, key.size = size ∧ key.IsDeliverable) ↔ config.maximumSize ≤ 262144) := by
  have maximum := (sizes_of_validate valid).2
  refine ⟨⟨fun every => ?_, fun bounded requested size resolved key sized => ?_⟩,
    ⟨fun some_key => ?_, fun bounded requested size resolved => ?_⟩⟩
  · -- A key of the next size with three digits for every byte is too long.
    refine Nat.le_of_not_lt fun large => ?_
    have allowed := resolve_power (by decide : 18 < 32)
      (le_maximum_of_lt valid large)
    have delivered := every _ _ allowed (Key.uniform (2 ^ 18) (by decide) 255) (Key.size_uniform ..)
    rw [Key.isDeliverable_iff, Key.length_answer_uniform] at delivered
    exact absurd delivered (by decide)
  · have small := (le_maximum_of_resolve resolved).2
    have digits := Json.sum_digitCount_le key.bytes
    rw [Key.isDeliverable_iff, Key.length_answer, Frame.maxPayload]
    rw [Key.size] at sized ⊢
    omega
  · -- One digit for every byte is too much already.
    refine Nat.le_of_not_lt fun large => ?_
    obtain ⟨key, sized, delivered⟩ := some_key _ _ (resolve_power (by decide : 19 < 32)
      (le_maximum_of_lt valid large))
    have digits := Json.sum_digitCount_ge key.bytes
    rw [Key.isDeliverable_iff, Key.length_answer, Frame.maxPayload] at delivered
    rw [Key.size] at sized delivered
    omega
  · obtain ⟨positive, small⟩ := le_maximum_of_resolve resolved
    refine ⟨.uniform size positive 0, Key.size_uniform .., ?_⟩
    have one_digit : Json.digitCount 0 = 1 := rfl
    rw [Key.isDeliverable_iff, Key.length_answer_uniform, one_digit, Frame.maxPayload]
    omega

/-- With the sizes used unless others are given every key can be delivered. -/
theorem standard_deliverable :
    ({} : Config).validate = .ok SizePolicy.standard ∧
      ∀ requested size, SizePolicy.standard.resolve requested = .ok size →
        ∀ key : Key, key.size = size → key.IsDeliverable := by
  have valid : ({} : Config).validate = .ok SizePolicy.standard := rfl
  exact ⟨valid, (deliverable_iff valid).1.2 (by decide)⟩

/-- A configuration with keys of up to 262144 bytes has no mistakes, and a request for one is
granted, but the answer with 255 for every byte is refused by the socket. -/
theorem exists_undeliverable_key :
    ∃ (policy : SizePolicy) (key : Key),
      ({ maximumSize := 262144 } : Config).validate = .ok policy ∧
        policy.resolve (some 262144) = .ok 262144 ∧ key.size = 262144 ∧
        Frame.maxPayload < key.answer.length ∧
        writeFrame false key.answer =
          .error (.ofFormat (.payloadTooLarge 1048649 Frame.maxPayload)) := by
  have length := Key.length_answer_uniform 262144 (by decide) 255
  refine ⟨⟨64, 262144, isKeySize_shiftLeft 6, isKeySize_shiftLeft 18, by decide⟩,
    .uniform 262144 (by decide) 255, rfl, rfl, Key.size_uniform .., ?_, ?_⟩
  · rw [length]
    decide
  · have large : ¬ (Key.uniform 262144 (by decide) 255).answer.length ≤ Frame.maxPayload := by
      rw [length]
      decide
    rw [writeFrame, Frame.ofPayload, dif_neg large, length]
    rfl

end Config

end PadRelay
