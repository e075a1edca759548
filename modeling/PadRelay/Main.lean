import PadRelay.Server.Arguments

/-!
# Command line

Checks the configuration that the arguments ask for, and prints where each listener would be opened.
-/

namespace PadRelay

/-- What to print for the arguments, or what is wrong with them. -/
def report (arguments : List String) : Except String (List String) := do
  let config ← (ServerConfig.usual.ofArguments arguments).mapError ArgumentError.message
  let bound ← (config.bind {}).mapError ServerError.message
  return bound.map fun (endpoint, address) =>
    s!"{endpoint.label} listening on {address.write}"

end PadRelay

/-- Print the report. -/
def main (arguments : List String) : IO UInt32 := do
  match PadRelay.report arguments with
  | .ok lines =>
      lines.forM fun line => IO.println line
      return 0
  | .error reason =>
      IO.eprintln s!"error: {reason}"
      return 1
