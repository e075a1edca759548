import PadRelay.Server.Bind

/-!
# Command line arguments

Every option but `--random-identities` is followed by its value. A later option wins over an earlier
one of the same name.
-/

namespace PadRelay

/-- What is wrong with the arguments. -/
inductive ArgumentError where
  | unknown (option : String)
  | missing (option : String)
  | notANumber (option value : String)
deriving DecidableEq

def ArgumentError.message : ArgumentError → String
  | .unknown option => s!"unexpected argument '{option}'"
  | .missing option => s!"a value is required for '{option}'"
  | .notANumber option value => s!"invalid value '{value}' for '{option}'"

namespace ServerConfig

def usual : ServerConfig := { address := usualAddress }

def number (option value : String) : Except ArgumentError Nat :=
  match value.toNat? with
  | some number => if value.all Char.isDigit then .ok number else .error (.notANumber option value)
  | none => .error (.notANumber option value)

/-- The same configuration with another address for a listener. -/
def withAddress (config : ServerConfig) (endpoint : Endpoint) (text : String) : ServerConfig :=
  { config with address := fun other => if other = endpoint then text else config.address other }

/-- The configuration after an option with its value. -/
def set (config : ServerConfig) (option value : String) : Except ArgumentError ServerConfig := do
  match option with
  | "--socket-bind" => return config.withAddress .tcp value
  | "--tls-bind" => return config.withAddress .tls value
  | "--ws-bind" => return config.withAddress .ws value
  | "--wss-bind" => return config.withAddress .wss value
  | "--default-key-size" =>
      return { config with handshake.defaultSize := ← number option value }
  | "--max-key-size" =>
      return { config with handshake.maximumSize := ← number option value }
  | "--pending-expiry-secs" =>
      return { config with handshake.expiry := (← number option value) * second }
  | "--encrypted-timeout-secs" =>
      return { config with handshake.readTimeout := (← number option value) * second }
  | _ => throw (.unknown option)

/-- The configuration that the arguments ask for. -/
def ofArguments (config : ServerConfig) : List String → Except ArgumentError ServerConfig
  | [] => .ok config
  | "--random-identities" :: rest => { config with randomIdentities := true }.ofArguments rest
  | [option] => do
      let _ ← config.set option "0"
      throw (.missing option)
  | option :: value :: rest => do
      (← config.set option value).ofArguments rest

@[simp]
theorem ofArguments_nil (config : ServerConfig) : config.ofArguments [] = .ok config := by
  simp [ofArguments]

end ServerConfig

end PadRelay
