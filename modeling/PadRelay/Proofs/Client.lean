import PadRelay.Client
import PadRelay.Proofs.Cipher
import PadRelay.Proofs.Wire.RoundTrip

/-!
# What clients make of answers

A client that hears a new key stages it, and hears nothing in a refusal.
-/

namespace PadRelay.Client

variable (client : Client)

/-- The client after an answer that may have come. -/
def hear : Option Bytes → Client
  | some answer =>
      match client.accept answer with
      | .ok (_, next) => next
      | .error _ => client
  | none => client

theorem hear_issued {key : Key} (short : key.size < UInt64.size) :
    client.hear (some (client.codec.encode (.keyResponse (.issued key.bytes)))) =
      { client with staged := some key } := by
  have read := Codec.decode_encode (client.codec.carries_issued short)
  have made : Key.ofBytes key.bytes = .ok key := dif_neg key.nonempty
  have accepted : client.accept (client.codec.encode (.keyResponse (.issued key.bytes))) =
      .ok (key, { client with staged := some key }) := by
    rw [accept, decode, read]
    change (do
      let key ← (Key.ofBytes key.bytes).mapError ClientError.key
      return (key, { client with staged := some key })) = _
    rw [made]
    rfl
  rw [hear, accepted]

theorem hear_keyFailure (code : Code) :
    client.hear (some (client.codec.encode (.keyFailure code))) = client := by
  have read := Codec.decode_encode (client.codec.carries_keyFailure code)
  have refused : client.accept (client.codec.encode (.keyFailure code)) =
      .error (.refused code) := by
    rw [accept, decode, read]
    rfl
  rw [hear, refused]

end PadRelay.Client
