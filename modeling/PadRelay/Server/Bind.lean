import PadRelay.Net.Address.Parser
import PadRelay.Server.Endpoint
import PadRelay.Server.Error
import PadRelay.Server.Machine

/-!
# Opening the listeners

First the key exchange is looked at, then the certificate and the private key if both are given, and
then the listeners are opened one after the other.
-/

namespace PadRelay

/-- The configuration of a server. -/
structure ServerConfig where
  address : Endpoint → String
  certificate : Option String := none
  privateKey : Option String := none
  handshake : Config := {}
  randomIdentities : Bool := false

namespace ServerConfig

/-- The addresses used unless others are given. -/
def usualAddress : Endpoint → String
  | .tcp => "0.0.0.0:9100"
  | .tls => "0.0.0.0:9101"
  | .ws => "0.0.0.0:9102"
  | .wss => "0.0.0.0:9103"

/-- The labels of the sections that a PEM text holds. -/
def sections (text : String) : List String :=
  (text.splitOn "\n").filterMap fun line =>
    let line := line.trimAscii.toString
    if line.startsWith "-----BEGIN " && line.endsWith "-----" then
      some ((line.drop 11).dropEnd 5).toString
    else none

/-- Look at the certificate and the private key. Both are read before either is looked into. -/
def checkTls (machine : Machine) (certificate privateKey : String) : Except ServerError Unit := do
  let chain ← (machine.read certificate).mapError fun error =>
    .config s!"failed to read cert '{certificate}': {error.message}"
  let secret ← (machine.read privateKey).mapError fun error =>
    .config s!"failed to read key '{privateKey}': {error.message}"
  if "CERTIFICATE" ∉ sections chain then
    throw (.config s!"no certificates found in '{certificate}'")
  if (sections secret).all fun label => !label.endsWith "PRIVATE KEY" then
    throw (.config "no private key found")

def listenAddress (config : ServerConfig) (endpoint : Endpoint) :
    Except ServerError SocketAddress :=
  let text := config.address endpoint
  match SocketAddress.ofText? text with
  | some address => .ok address
  | none =>
      .error (.config (s!"invalid {endpoint.label} bind address '{text}': " ++
        "invalid socket address syntax"))

/-- Open listeners beside those that are open, in order. -/
def openAll (config : ServerConfig) (machine : Machine) (taken : List SocketAddress) :
    List Endpoint → Except ServerError (List (Endpoint × SocketAddress))
  | [] => .ok []
  | endpoint :: rest => do
      let address ← config.listenAddress endpoint
      (machine.listen taken address).mapError fun error =>
        .transport s!"failed to bind {endpoint.label} listener on {address.write}: {error.message}"
      return (endpoint, address) :: (← config.openAll machine (address :: taken) rest)

/-- Open every listener. The answer holds their addresses, in the order of the listeners. -/
def bind (config : ServerConfig) (machine : Machine) :
    Except ServerError (List (Endpoint × SocketAddress)) := do
  let _ ← config.handshake.validate.mapError .handshake
  match config.certificate, config.privateKey with
  | some certificate, some privateKey => checkTls machine certificate privateKey
  | _, _ => pure ()
  config.openAll machine [] Endpoint.all

end ServerConfig

end PadRelay
