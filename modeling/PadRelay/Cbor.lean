import PadRelay.Bytes

/-!
# CBOR values

A value as it was written: texts and byte strings remember whether they came in chunks, since a
name may not.
-/

namespace PadRelay

/-- A CBOR value. -/
inductive Cbor where
  | uint (value : Nat)
  | nint (value : Nat)
  | bytes (content : Bytes) (chunked : Bool)
  | text (content : String) (chunked : Bool)
  | array (items : List Cbor)
  | map (entries : List (Cbor × Cbor))
  | tag (number : Nat) (value : Cbor)
  | bool (value : Bool)
  | null
  | undefined
  | float

end PadRelay
