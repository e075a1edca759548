import PadRelay.Key.SizePolicy

/-!
# Configuration of the key exchange

Key sizes, how long a staged key waits for its acknowledgement, and how long an encrypted channel
may stay silent. Times are in nanoseconds. A configuration is checked once, before anything is
opened.
-/

namespace PadRelay

def second : Nat := 1000000000

/-- What can be configured about the key exchange. -/
structure Config where
  /-- Key size when a request names none. -/
  defaultSize : Nat := SizePolicy.standard.default
  /-- Largest key size. -/
  maximumSize : Nat := SizePolicy.standard.maximum
  /-- Lifetime of a staged key. -/
  expiry : Nat := 30 * second
  /-- How long an encrypted channel may stay silent. -/
  readTimeout : Nat := 10 * second
deriving DecidableEq

/-- What is wrong with a configuration. -/
inductive ConfigError where
  /-- The key sizes make no policy. -/
  | keySize (error : KeyError)
  /-- Staged keys would expire at once. -/
  | zeroExpiry
  /-- Encrypted channels would time out at once. -/
  | zeroReadTimeout
deriving DecidableEq

def ConfigError.name : ConfigError → String
  | .keySize _ => "KeySize"
  | .zeroExpiry => "ZeroExpiry"
  | .zeroReadTimeout => "ZeroReadTimeout"

def ConfigError.message : ConfigError → String
  | .keySize error => s!"invalid key size configuration: {error.message}"
  | .zeroExpiry => "pending key expiry must be greater than zero, got 0ns"
  | .zeroReadTimeout => "encrypted read timeout must be greater than zero, got 0ns"

namespace Config

/-- The size policy of a configuration without mistakes. The lifetime is checked first, then the
timeout, then the sizes. -/
def validate (config : Config) : Except ConfigError SizePolicy :=
  if config.expiry = 0 then .error .zeroExpiry
  else if config.readTimeout = 0 then .error .zeroReadTimeout
  else (SizePolicy.ofSizes config.defaultSize config.maximumSize).mapError .keySize

/-- The configuration used unless another is given has no mistakes. -/
theorem validate_default : (({} : Config).validate).isOk = true := by
  decide

theorem sizes_of_validate {config : Config} {policy : SizePolicy}
    (valid : config.validate = .ok policy) :
    policy.default = config.defaultSize ∧ policy.maximum = config.maximumSize := by
  simp only [validate, SizePolicy.ofSizes] at valid
  split at valid
  · cases valid
  · split at valid
    · cases valid
    · split at valid
      · cases valid
      · split at valid
        · cases valid
        · split at valid <;> cases valid
          exact ⟨rfl, rfl⟩

end Config

end PadRelay
