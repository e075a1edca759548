import PadRelay.Gateway.Script
import PadRelay.RequestError

/-!
# Entering connections

A connection that enters a slot of a pair or the directory is watched, so that it leaves when it
closes. A slot that holds the connection already, and a directory that watches it already, register
nothing more.
-/

namespace PadRelay.Script

/-- Put a connection into a slot of a pair. -/
def occupy (family : Family) (identity : Identity) (role : Role) (party : Party) :
    Script Unit := do
  let held ← ask (.place family identity role party)
  if held then
    return
  else
    ask (.onClose party.handle (.vacate family identity role party.id))

/-- Make a connection the clear channel of an identity. -/
def setClear (family : Family) (identity : Identity) (party : Party) : Script Unit :=
  occupy family identity .clear party

/-- Make a connection the encrypted channel of an identity, if it has transport security. -/
def setEncrypted (family : Family) (identity : Identity) (party : Party) :
    Script (Except ChannelError Unit) := do
  if ← ask (.isSecure party.handle) then
    occupy family identity .encrypted party
    return .ok ()
  else
    return .error (.notEncrypted party.id)

/-- Watch a connection that has just entered the directory. One that has closed already leaves at
once. -/
def watch (family : Family) (party : Party) : Script Unit := do
  if ← ask (.watch family party.id) then
    ask (.onClose party.handle (.forget family party.id))
  if ← ask (.isOpen party.handle) then
    return
  else
    ask (.forget family party.id)

/-- Enter a connection under a key: the connection that the key had before. -/
def enter (family : Family) (key : ChannelKey) (party : Party) : Script (Option Party) := do
  let previous ← ask (.enter family key party)
  watch family party
  return previous

/-- Add a connection to a group: whether it was no member before. -/
def join (family : Family) (group : String) (party : Party) : Script Bool := do
  let joined ← ask (.join family group party)
  if joined then
    watch family party
  return joined

end PadRelay.Script
