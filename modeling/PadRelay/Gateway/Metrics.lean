import PadRelay.Gateway

/-!
# Metrics

What a family reports about its exchange of keys. Seven of the numbers are the family's own. The
eighth belongs to the staged keys, which the families share, so every family reports the same one.
-/

namespace PadRelay

/-- The numbers that a family reports. -/
structure Metrics extends Tally where
  expired : Nat
deriving DecidableEq

def Gateway.metrics (gateway : Gateway) (family : Family) : Metrics :=
  ⟨(gateway.layer family).tally, gateway.staged.expired⟩

end PadRelay
