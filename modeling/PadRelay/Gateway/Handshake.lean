import PadRelay.Gateway.Pairing

/-!
# The exchange of keys

An encrypted channel carries one request: for a new key, or for the end of the active one. It is
closed whatever becomes of the request, and a request that breaks the rules gets no answer at all.

A clear channel is long-lived. While a key is staged, nobody knows whether the client has switched
to it, for the acknowledgement is itself sealed with it. So what arrives is first opened with the
staged key, and only an acknowledgement counts; then with the retired key, to recognise one that
comes too late; and last with the active key. Failures are answered, and the channel stays open.

A refused request never changes the active key.
-/

namespace PadRelay

/-- The desk of one family: what is fixed about its exchange of keys. -/
structure Desk where
  family : Family := .socket
  codec : Codec := .json
  policy : SizePolicy := .standard

/-- What became of a message on a clear channel. -/
inductive ClearOutcome where
  /-- The staged key is now the active one. -/
  | activated
  /-- The active key is gone. -/
  | deleted
  /-- A failure with this code was sent. -/
  | rejected (code : Code)
  /-- No message about keys: the opened payload. -/
  | application (payload : Bytes)
deriving DecidableEq

/-- What became of the request on an encrypted channel. -/
inductive EncryptedOutcome where
  /-- A new key was staged and sent. -/
  | keyIssued
  /-- The active key is gone. -/
  | keyDeleted
  /-- A failure with this code was sent. -/
  | rejected (code : Code)
  /-- The request broke the rules: there was no answer. -/
  | dropped (code : Code)
deriving DecidableEq

/-- Whether a message on a clear channel was refused. -/
def ClearOutcome.isRejected : ClearOutcome → Bool
  | .rejected _ => true
  | _ => false

/-- Whether a request on an encrypted channel was refused or dropped. -/
def EncryptedOutcome.isFailure : EncryptedOutcome → Bool
  | .rejected _ | .dropped _ => true
  | .keyIssued | .keyDeleted => false

namespace Desk

open Script (ask)

/-- Hand a payload to a connection, which need not take it. -/
def deliver (party : Party) (payload : Bytes) : Script Unit := do
  let _ ← ask (.send party.handle payload)

/-- Seal a payload for a clear connection with the key that is active now, and send it. -/
def sendClear (desk : Desk) (party : Party) (payload : Bytes) : Script Unit := do
  let payload ← ask (.sealFor desk.family party.id payload)
  deliver party payload

/-- Send a message as it is. A message that cannot be written is not sent. -/
def reply (desk : Desk) (party : Party) (message : Message) : Script Unit := do
  match ← ask (.encode desk.codec message) with
  | .ok payload => deliver party payload
  | .error _ => return

/-- Send a message over a clear connection. -/
def respond (desk : Desk) (party : Party) (message : Message) : Script Unit := do
  match ← ask (.encode desk.codec message) with
  | .ok payload => desk.sendClear party payload
  | .error _ => return

/-- Take in a new clear connection: pair it under its own identity, drop its keys when it closes,
and welcome it. -/
def attach (desk : Desk) (party : Party) : Script Unit := do
  Script.setClear desk.family party.id party
  ask (.onClose party.handle (.dropKeys party.id))
  desk.reply party (.welcome party.id)

/-- Drop the active key of an identity. -/
def deleteKey (desk : Desk) (identity : Identity) : Script Code := do
  match ← ask (.deactivate identity) with
  | some _ =>
      ask (.count desk.family .deleted)
      return .ok
  | none => return (ChannelError.noActiveKey identity).code

/-- Answer a message on a clear channel with a failure. -/
def reject (desk : Desk) (party : Party) (code : Code) : Script ClearOutcome := do
  desk.respond party (.failure code)
  return .rejected code

/-- Answer an acknowledgement with a failure. -/
def rejectAck (desk : Desk) (party : Party) (code : Code) : Script ClearOutcome := do
  desk.respond party (.ackOutcome code)
  return .rejected code

/-- Answer a deletion with a failure. -/
def rejectDelete (desk : Desk) (party : Party) (code : Code) : Script ClearOutcome := do
  desk.respond party (.deleteOutcome code)
  return .rejected code

/-- An acknowledgement came under the staged key: make it the active key, if it is still staged and
the acknowledgement names the channel's own identity. -/
def activate (desk : Desk) (party : Party) (target : Identity) (expected : StagedKey) :
    Script ClearOutcome := do
  if target ≠ party.id then
    desk.rejectAck party .identityMismatch
  else
    match ← ask (.takeStaged party.id expected) with
    | none => desk.rejectAck party .noPendingKey
    | some key =>
        ask (.activate party.id key)
        ask (.count desk.family .activated)
        desk.respond party (.ackOutcome .ok)
        return .activated

/-- A key request came over a clear channel, where only a deletion of its own key is allowed. -/
def clearRequest (desk : Desk) (party : Party) (request : KeyRequest) : Script ClearOutcome := do
  match request.function with
  | some .delete =>
      if request.target ≠ some party.id then
        desk.rejectDelete party .identityMismatch
      else
        let code ← desk.deleteKey party.id
        if code.isOk then
          desk.respond party (.deleteOutcome .ok)
          return .deleted
        else
          desk.rejectDelete party code
  | some .new => desk.reject party .wrongChannel
  | none => desk.reject party .missingFunction

def openWith (desk : Desk) (key : Key) (payload : Bytes) : Script Bytes := do
  ask (.count desk.family .decrypted)
  return Cipher.transform key payload

/-- Whom an opened payload acknowledges a key for, if it is an acknowledgement. -/
def ackTarget? (desk : Desk) (payload : Bytes) : Option Identity :=
  match desk.codec.decode payload with
  | .ok (.keyAck target) => some target
  | _ => none

/-- Read a payload that acknowledges no key. -/
def readPlain (desk : Desk) (party : Party) (payload : Bytes) : Script ClearOutcome :=
  match desk.codec.decode payload with
  | .ok (.keyRequest request) => desk.clearRequest party request
  | .ok (.keyAck _) => desk.rejectAck party .noPendingKey
  | .ok _ => desk.reject party .wrongChannel
  | .error error =>
      if error.isViolation then desk.reject party .malformedRequest
      else return .application payload

/-- Read a payload under the active key, or as it is without one. -/
def readActive (desk : Desk) (party : Party) (payload : Bytes) : Script ClearOutcome := do
  match ← ask (.active party.id) with
  | some key =>
      let plain ← desk.openWith key payload
      desk.readPlain party plain
  | none => desk.readPlain party payload

/-- Read a payload under the retired key first, where only an acknowledgement counts. -/
def readRetired (desk : Desk) (party : Party) (payload : Bytes) : Script ClearOutcome := do
  match ← ask (.retired party.id) with
  | some key =>
      let plain ← desk.openWith key payload
      match desk.ackTarget? plain with
      | some _ => desk.rejectAck party .noPendingKey
      | none => desk.readActive party payload
  | none => desk.readActive party payload

/-- Read a payload under the staged key first, where only an acknowledgement counts. -/
def readStaged (desk : Desk) (party : Party) (payload : Bytes) : Script ClearOutcome := do
  match ← ask (.staged party.id) with
  | some staged =>
      let plain ← desk.openWith staged.key payload
      match desk.ackTarget? plain with
      | some target => desk.activate party target staged
      | none =>
          ask (.count desk.family .ambiguous)
          desk.readRetired party payload
  | none => desk.readRetired party payload

/-- Handle a message on a clear channel. -/
def handleClear (desk : Desk) (party : Party) (payload : Bytes) : Script ClearOutcome := do
  let outcome ← desk.readStaged party payload
  if outcome.isRejected then
    ask (.count desk.family .rejected)
  return outcome

/-- Answer a request on an encrypted channel with a failure. -/
def refuse (desk : Desk) (party : Party) (code : Code) : Script EncryptedOutcome := do
  desk.reply party (.keyFailure code)
  return .rejected code

/-- A new key was asked for: draw it, stage it and send it. The clear channel is looked at again
after the staging, for it may have closed, with all its clean-up, since it was looked at first. -/
def issue (desk : Desk) (party : Party) (target : Identity) (size : Option UInt32) :
    Script (Except RequestError EncryptedOutcome) := do
  match desk.policy.resolve size with
  | .error _ => return .ok (← desk.refuse party .invalidKeySize)
  | .ok size =>
      match ← ask (.generate desk.policy size) with
      | .error error => return .error (.key error)
      | .ok key =>
          match ← ask (.encode desk.codec (.keyResponse (.issued key.bytes))) with
          | .error error => return .error (.format error)
          | .ok payload =>
              ask (.stage target key)
              match ← ask (.clearOf desk.family target) with
              | none =>
                  ask (.unstage target)
                  return .ok (← desk.refuse party .noClearChannel)
              | some _ =>
                  ask (.count desk.family .issued)
                  deliver party payload
                  return .ok .keyIssued

/-- The end of the active key was asked for. The success is told on the clear channel, a failure on
the encrypted one. -/
def revoke (desk : Desk) (party : Party) (target : Identity) : Script EncryptedOutcome := do
  let code ← desk.deleteKey target
  if code.isOk then
    match ← ask (.clearOf desk.family target) with
    | some clear => desk.respond clear (.deleteOutcome .ok)
    | none => pure ()
    return .keyDeleted
  else
    desk.reply party (.deleteOutcome code)
    return .rejected code

/-- Carry out a request that names its function and its target. -/
def serve (desk : Desk) (party : Party) (function : KeyFunction) (target : Identity)
    (size : Option UInt32) : Script (Except RequestError EncryptedOutcome) := do
  match ← ask (.clearOf desk.family target) with
  | none => return .ok (← desk.refuse party .noClearChannel)
  | some _ =>
      if ← ask (.hostMatches desk.family target party.handle) then
        match ← Script.setEncrypted desk.family target party with
        | .error error => return .error (.channel error)
        | .ok () =>
            match function with
            | .new => desk.issue party target size
            | .delete => return .ok (← desk.revoke party target)
      else
        return .ok (.dropped .hostMismatch)

/-- Read the request of an encrypted channel and carry it out. -/
def readRequest (desk : Desk) (party : Party) (payload : Bytes) :
    Script (Except RequestError EncryptedOutcome) := do
  match desk.codec.decode payload with
  | .ok (.keyRequest request) =>
      if ← ask (.isSecure party.handle) then
        match request.function, request.target with
        | none, _ => return .ok (← desk.refuse party .missingFunction)
        | some _, none => return .ok (← desk.refuse party .malformedRequest)
        | some function, some target => desk.serve party function target request.size
      else
        return .ok (.dropped .notEncrypted)
  | _ => return .ok (.dropped .malformedRequest)

/-- Handle the one request of an encrypted channel, and close it. -/
def handleEncrypted (desk : Desk) (party : Party) (payload : Bytes) :
    Script EncryptedOutcome := do
  let outcome ←
    match ← desk.readRequest party payload with
    | .ok outcome => pure outcome
    | .error error => desk.refuse party error.code
  if outcome.isFailure then
    ask (.count desk.family .rejected)
  ask (.close party.handle)
  return outcome

end Desk

end PadRelay
