import PadRelay.Config
import PadRelay.Wire.FormatError

/-!
# Errors of the server

What keeps the server from starting, and what ends a single connection.
-/

namespace PadRelay

/-- A failure of the server or of one of its connections. -/
inductive ServerError where
  | config (text : String)
  | handshake (error : ConfigError)
  | transport (text : String)
  | protocol (text : String)
  | internal (text : String)
deriving DecidableEq

namespace ServerError

/-- The error that a broken frame ends a connection with. -/
def ofFormat (error : FormatError) : ServerError := .protocol error.message

/-- The name of an error in reports. -/
def name : ServerError → String
  | .config _ => "Config"
  | .handshake _ => "Handshake"
  | .transport _ => "Transport"
  | .protocol _ => "Protocol"
  | .internal _ => "Internal"

/-- The wording of an error. -/
def message : ServerError → String
  | .config text => s!"configuration error: {text}"
  | .handshake error => s!"handshake configuration error: {error.message}"
  | .transport text => s!"transport error: {text}"
  | .protocol text => s!"protocol error: {text}"
  | .internal text => s!"internal error: {text}"

def source? : ServerError → Option ConfigError
  | .handshake error => some error
  | _ => none

end ServerError

end PadRelay
