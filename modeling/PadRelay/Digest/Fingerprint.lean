import PadRelay.Digest.Sha256

/-!
# Fingerprints

Sixteen hexadecimal digits that name a byte string in a log without revealing it.
-/

namespace PadRelay

/-- The first eight bytes of the digest, in hexadecimal. -/
def Bytes.fingerprint (bytes : Bytes) : String :=
  Bytes.toHex ((Sha256.hash bytes).take 8)

end PadRelay
