import PadRelay.Gateway
import PadRelay.Key.SizePolicy
import PadRelay.Wire.Codec

/-!
# Calls

The steps that handlers are made of. Each is atomic: between two of them anything may happen to the
gateway, for connections close whenever their peers like. What a step answers depends on the step.
-/

namespace PadRelay

/-- An atomic step on the gateway. -/
inductive Call where
  /-- Whether a connection is open. -/
  | isOpen (handle : Handle)
  /-- Whether a connection has transport security. -/
  | isSecure (handle : Handle)
  /-- Register a hook for the close of a connection. -/
  | onClose (handle : Handle) (hook : Hook)
  /-- Hand a payload to a connection. -/
  | send (handle : Handle) (payload : Bytes)
  /-- Close a connection. -/
  | close (handle : Handle)
  /-- Write a message. -/
  | encode (codec : Codec) (message : Message)
  /-- Count an event. -/
  | count (family : Family) (event : Event)
  /-- The open clear connection of an identity. -/
  | clearOf (family : Family) (identity : Identity)
  /-- Whether that connection comes from the host of another one. -/
  | hostMatches (family : Family) (identity : Identity) (handle : Handle)
  /-- Put a connection into a slot of a pair. -/
  | place (family : Family) (identity : Identity) (role : Role) (party : Party)
  /-- Draw a new key. -/
  | generate (policy : SizePolicy) (size : Nat)
  /-- The staged key of an identity. -/
  | staged (identity : Identity)
  /-- The retired key of an identity. -/
  | retired (identity : Identity)
  /-- The active key of an identity. -/
  | active (identity : Identity)
  /-- Stage a new key. -/
  | stage (identity : Identity) (key : Key)
  /-- Drop the staged and the retired key. -/
  | unstage (identity : Identity)
  /-- Take the staged key out if it is the expected one. -/
  | takeStaged (identity : Identity) (expected : StagedKey)
  /-- Make a key the active one. -/
  | activate (identity : Identity) (key : Key)
  /-- Drop the active key. -/
  | deactivate (identity : Identity)
  /-- Seal a payload with the active key. -/
  | sealFor (family : Family) (identity : Identity) (payload : Bytes)
  /-- Change a payload as the directory of a family does for a recipient. -/
  | dress (family : Family) (recipient : Identity) (payload : Bytes)
  /-- Enter a connection under a key. -/
  | enter (family : Family) (key : ChannelKey) (party : Party)
  /-- The connection under a key. -/
  | lookup (family : Family) (key : ChannelKey)
  /-- Add a connection to a group. -/
  | join (family : Family) (group : String) (party : Party)
  /-- Note that the close of a connection is watched. -/
  | watch (family : Family) (id : Identity)
  /-- Take everything of a connection out of the directory. -/
  | forget (family : Family) (id : Identity)
  /-- The members of a group except some. -/
  | audience (family : Family) (group : String) (except : List ChannelKey)

namespace Call

/-- What a step answers. -/
abbrev Reply : Call → Type
  | isOpen _ | isSecure _ | hostMatches _ _ _ | place _ _ _ _ | send _ _ => Bool
  | join _ _ _ | watch _ _ => Bool
  | encode _ _ => Except FormatError Bytes
  | clearOf _ _ | enter _ _ _ | lookup _ _ => Option Party
  | generate _ _ => Except KeyError Key
  | staged _ => Option StagedKey
  | takeStaged _ _ => Option Key
  | retired _ | active _ | deactivate _ => Option Key
  | sealFor _ _ _ | dress _ _ _ => Bytes
  | audience _ _ _ => List Party
  | onClose _ _ | close _ | count _ _ | stage _ _ | unstage _ | activate _ _ | forget _ _ => Unit

end Call

/-- Perform a step. -/
def Gateway.perform (gateway : Gateway) : (call : Call) → call.Reply × Gateway
  | .isOpen handle => (gateway.isOpen handle, gateway)
  | .isSecure handle => (gateway.isSecure handle, gateway)
  | .onClose handle hook => ((), gateway.onClose handle hook)
  | .send handle payload => gateway.send handle payload
  | .close handle => ((), gateway.close handle)
  | .encode codec message => (.ok (codec.encode message), gateway)
  | .count family event => ((), gateway.count family event)
  | .clearOf family identity => (gateway.connectionOf family identity .clear, gateway)
  | .hostMatches family identity handle =>
      ((gateway.remoteOf? handle).any (gateway.hostMatches family identity), gateway)
  | .place family identity role party => gateway.place family identity role party
  | .generate policy size =>
      match Key.generate policy size gateway.entropy with
      | .ok (key, entropy) => (.ok key, { gateway with entropy })
      | .error error => (.error error, gateway)
  | .staged identity => gateway.stagedKey identity
  | .retired identity => ((gateway.staged.retired.get? identity).map StagedKey.key, gateway)
  | .active identity => (gateway.active.get? identity, gateway)
  | .stage identity key =>
      ((), { gateway with staged := gateway.staged.put gateway.now identity key })
  | .unstage identity =>
      ((), { gateway with staged := (gateway.staged.remove gateway.now identity).2 })
  | .takeStaged identity expected =>
      let (taken, after) := gateway.onStaged fun staged =>
        staged.takeIf gateway.now identity expected
      (taken.map StagedKey.key, after)
  | .activate identity key => ((), { gateway with active := gateway.active.insert identity key })
  | .deactivate identity =>
      (gateway.active.get? identity, { gateway with active := gateway.active.erase identity })
  | .sealFor family identity payload => gateway.sealFor family identity payload
  | .dress family recipient payload => gateway.dress family recipient payload
  | .enter family key party => gateway.onDirectory family fun directory => directory.put key party
  | .lookup family key => ((gateway.layer family).directory.get? key, gateway)
  | .join family group party =>
      gateway.onDirectory family fun directory => directory.join group party
  | .watch family id => gateway.onDirectory family fun directory => directory.watch id
  | .forget family id =>
      ((), (gateway.onDirectory family fun directory => directory.forget id).2)
  | .audience family group except =>
      ((gateway.layer family).directory.audience group except, gateway)

end PadRelay
