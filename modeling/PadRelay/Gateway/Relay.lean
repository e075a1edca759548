import PadRelay.Gateway.Handshake

/-!
# The relay

Clear connections form an audience. What a client sends beside the exchange of keys goes to every
other member, each copy sealed for its recipient. Delivery is best effort: a connection that is
closed or does not take the payload is passed over.
-/

namespace PadRelay.Desk

open Script (ask)

/-- Send a payload to a connection of the directory: whether it took it. -/
def deliverTo (desk : Desk) (party : Party) (payload : Bytes) : Script Bool := do
  if ← ask (.isOpen party.handle) then
    let payload ← ask (.dress desk.family party.id payload)
    ask (.send party.handle payload)
  else
    return false

/-- Send a payload to several connections: how many took it. -/
def deliverEach (desk : Desk) (payload : Bytes) : List Party → Script Nat
  | [] => return 0
  | party :: parties => do
      let taken ← desk.deliverTo party payload
      let others ← desk.deliverEach payload parties
      return (if taken then 1 else 0) + others

/-- Send a payload to the connection under a key: whether it took it. -/
def sendTo (desk : Desk) (key : ChannelKey) (payload : Bytes) : Script Bool := do
  match ← ask (.lookup desk.family key) with
  | some party => desk.deliverTo party payload
  | none => return false

/-- Send a payload to the members of a group, except the connections under some keys: how many took
it. -/
def broadcast (desk : Desk) (group : String) (payload : Bytes) (except : List ChannelKey) :
    Script Nat := do
  let parties ← ask (.audience desk.family group except)
  desk.deliverEach payload parties

/-- Take in a new clear connection: enter it under its identity, make it a member of the audience,
and attach it to the exchange of keys. -/
def accept (desk : Desk) (party : Party) : Script Unit := do
  let _ ← Script.enter desk.family (.identity party.id) party
  let _ ← Script.join desk.family everyone party
  desk.attach party

/-- Handle a message on a clear channel, and relay it to the others if it is none about keys. -/
def receive (desk : Desk) (party : Party) (payload : Bytes) : Script ClearOutcome := do
  let outcome ← desk.handleClear party payload
  match outcome with
  | .application plain =>
      let _ ← desk.broadcast everyone plain [.identity party.id]
  | _ => pure ()
  return outcome

/-- Enter the clear connection of an identity under another key: whether there is one. -/
def bind (desk : Desk) (key : ChannelKey) (identity : Identity) : Script Bool := do
  match ← ask (.lookup desk.family (.identity identity)) with
  | some party =>
      let _ ← Script.enter desk.family key party
      return true
  | none => return false

end PadRelay.Desk
