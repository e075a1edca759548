import PadRelay.Cipher
import PadRelay.Wire.Codec

/-!
# Clients

The client's half of the key exchange: the keys that a client holds, and the bytes that it puts on
each of its channels. A client switches to a staged key when it sends the acknowledgement, as the
gateway does when it receives it.
-/

namespace PadRelay

/-- A client with the keys that it holds. -/
structure Client where
  codec : Codec
  identity : Identity
  active : Option Key := none
  staged : Option Key := none

/-- What a client may find wrong. -/
inductive ClientError where
  | format (error : FormatError)
  | key (error : KeyError)
  | unexpected (kind : Kind)
  | refused (code : Code)
  | nothingPending
deriving DecidableEq

/-- The name of an error in reports. -/
def ClientError.name : ClientError → String
  | .format _ => "Protocol"
  | .key _ => "Cipher"
  | .unexpected _ => "Unexpected"
  | .refused _ => "Refused"
  | .nothingPending => "NothingPending"

/-- The wording of an error. -/
def ClientError.message : ClientError → String
  | .format error => s!"protocol error: {error.message}"
  | .key error => s!"cipher error: {error.message}"
  | .unexpected kind => s!"unexpected {kind.tag} message"
  | .refused code => s!"request refused: {code.describe}"
  | .nothingPending => "no key pending"

namespace Client

def decode (codec : Codec) (bytes : Bytes) : Except ClientError Message :=
  (codec.decode bytes).mapError .format

def ofWelcome (codec : Codec) (bytes : Bytes) : Except ClientError Client := do
  match ← decode codec bytes with
  | .welcome identity => return { codec, identity }
  | other => throw (.unexpected other.kind)

/-- The request for a new key, for an encrypted channel. -/
def newKeyRequest (client : Client) (size : Option UInt32) : Bytes :=
  client.codec.encode (.keyRequest (.newKey client.identity size))

/-- The request to end the active key, for an encrypted channel. -/
def deleteRequest (client : Client) : Bytes :=
  client.codec.encode (.keyRequest (.deleteKey client.identity))

/-- The key in the answer to a request, and the client with that key staged. -/
def accept (client : Client) (bytes : Bytes) : Except ClientError (Key × Client) := do
  match ← decode client.codec bytes with
  | .keyResponse response =>
      match response.success, response.key with
      | true, some bytes =>
          let key ← (Key.ofBytes bytes).mapError .key
          return (key, { client with staged := some key })
      | _, _ => throw (.refused response.code)
  | other => throw (.unexpected other.kind)

/-- The acknowledgement of the staged key, sealed with it, and the client that has switched to it.
-/
def acknowledge (client : Client) : Except ClientError (Bytes × Client) :=
  match client.staged with
  | none => .error .nothingPending
  | some key =>
      .ok (Cipher.transform key (client.codec.encode (.keyAck client.identity)),
        { client with active := some key, staged := none })

/-- The client without its active key. -/
def forget (client : Client) : Client := { client with active := none }

/-- Bytes as they go over the clear channel. -/
def sealBytes (client : Client) (bytes : Bytes) : Bytes :=
  match client.active with
  | some key => Cipher.transform key bytes
  | none => bytes

/-- A message as it goes over the clear channel. -/
def sealMessage (client : Client) (message : Message) : Bytes :=
  client.sealBytes (client.codec.encode message)

/-- Bytes from the clear channel as they were before they were sealed. -/
def openBytes (client : Client) (bytes : Bytes) : Bytes := client.sealBytes bytes

/-- The message in bytes from the clear channel. -/
def openMessage (client : Client) (bytes : Bytes) : Except ClientError Message :=
  decode client.codec (client.openBytes bytes)

end Client

end PadRelay
