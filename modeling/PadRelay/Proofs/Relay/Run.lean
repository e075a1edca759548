import PadRelay.Gateway.Relay
import PadRelay.Proofs.Gateway.Surroundings
import PadRelay.Proofs.Gateway.Upkeep

/-!
# Runs of the relay

The relay takes clear connections in, handles what comes over connections of both families, enters
users and sessions, sends and shuts down. Whatever it does on the way, it leaves a sound gateway
sound, and only taking a connection in attaches it.
-/

namespace PadRelay

namespace Relay

/-- What the relay does, or what happens around it. -/
inductive Act where
  /-- Something happens around the handlers. -/
  | occurs (occurrence : Occurrence)
  /-- A clear connection is taken in. -/
  | accept (family : Family) (handle : Handle)
  /-- A message comes over a clear channel. -/
  | receive (family : Family) (handle : Handle) (payload : Bytes)
  /-- The request of an encrypted channel comes. -/
  | request (family : Family) (handle : Handle) (payload : Bytes)
  /-- The clear connection of an identity is entered under another key. -/
  | bind (family : Family) (key : ChannelKey) (identity : Identity)
  /-- A payload is sent to the connection under a key. -/
  | sendTo (family : Family) (key : ChannelKey) (payload : Bytes)
  /-- A payload is sent to a group. -/
  | broadcast (family : Family) (group : String) (payload : Bytes) (except : List ChannelKey)
  /-- The relay shuts down. -/
  | shutdown

/-- The identity of the connection that is made. -/
def Act.opened? : Act → Option Identity
  | .occurs occurrence => occurrence.opened?
  | _ => none

def deskOf (policy : SizePolicy) (family : Family) : Desk := { family, policy }

/-- Perform an act. A handle without a connection is ignored. -/
def act (policy : SizePolicy) (gateway : Gateway) : Act → Gateway
  | .occurs occurrence => gateway.undergo occurrence
  | .accept family handle => (gateway.attend handle (deskOf policy family).accept).2
  | .receive family handle payload =>
      (gateway.attend handle fun party => (deskOf policy family).receive party payload).2
  | .request family handle payload =>
      (gateway.attend handle fun party => (deskOf policy family).handleEncrypted party payload).2
  | .bind family key identity => (((deskOf policy family).bind key identity).run gateway).2
  | .sendTo family key payload => (((deskOf policy family).sendTo key payload).run gateway).2
  | .broadcast family group payload except =>
      (((deskOf policy family).broadcast group payload except).run gateway).2
  | .shutdown => gateway.shutdown

/-- Perform acts one after the other. -/
def run (policy : SizePolicy) (start : Gateway) (acts : List Act) : Gateway :=
  acts.foldl (act policy) start

theorem run_append (policy : SizePolicy) (start : Gateway) (acts : List Act) (last : Act) :
    run policy start (acts ++ [last]) = act policy (run policy start acts) last := by
  simp [run]

end Relay

namespace Script

section Entering

variable (family : Family) (party : Party)

/-- A call that is made to enter a connection under a key or to make it a member of a group. -/
inductive EntryCall : Call → Prop
  | enter (key : ChannelKey) : EntryCall (.enter family key party)
  | join (group : String) : EntryCall (.join family group party)
  | watch : EntryCall (.watch family party.id)
  | onClose : EntryCall (.onClose party.handle (.forget family party.id))
  | isOpen : EntryCall (.isOpen party.handle)
  | forget : EntryCall (.forget family party.id)

theorem entryCalls_watch : (watch family party).Only (EntryCall family party) := by
  have left : (do
      if ← ask (.isOpen party.handle) then return
      else ask (.forget family party.id) : Script Unit).Only (EntryCall family party) := by
    refine .bind (.ask .isOpen) fun isOpen => ?_
    cases isOpen with
    | true => trivial
    | false => exact .ask .forget
  refine .bind (.ask .watch) fun fresh => ?_
  cases fresh with
  | true => exact .bind (.ask .onClose) fun _ => left
  | false => exact left

theorem entryCalls_enter (key : ChannelKey) :
    (enter family key party).Only (EntryCall family party) :=
  .bind (.ask (.enter key)) fun _ => .bind (entryCalls_watch family party) fun _ => trivial

theorem entryCalls_join (group : String) :
    (join family group party).Only (EntryCall family party) := by
  refine .bind (.ask (.join group)) fun joined => ?_
  cases joined with
  | true => exact .bind (entryCalls_watch family party) fun _ => trivial
  | false => trivial

end Entering

end Script

namespace Desk

open Script (ask)

section Sending

variable (desk : Desk)

/-- A call that is made to find connections in the directory and to hand them a payload. -/
inductive RelayCall : Call → Prop
  | lookup (key : ChannelKey) : RelayCall (.lookup desk.family key)
  | audience (group : String) (except : List ChannelKey) :
      RelayCall (.audience desk.family group except)
  | isOpen (handle : Handle) : RelayCall (.isOpen handle)
  | dress (recipient : Identity) (payload : Bytes) :
      RelayCall (.dress desk.family recipient payload)
  | send (handle : Handle) (payload : Bytes) : RelayCall (.send handle payload)

theorem relayCalls_deliverTo (party : Party) (payload : Bytes) :
    (desk.deliverTo party payload).Only desk.RelayCall := by
  apply Script.Only.bind (.ask (.isOpen _))
  intro isOpen
  cases isOpen with
  | true => exact Script.Only.bind (.ask (.dress _ _)) fun dressed => .ask (.send _ _)
  | false => trivial

theorem relayCalls_deliverEach (payload : Bytes) (parties : List Party) :
    (desk.deliverEach payload parties).Only desk.RelayCall := by
  induction parties with
  | nil => trivial
  | cons party parties induction =>
      exact Script.Only.bind (desk.relayCalls_deliverTo party payload) fun _ =>
        Script.Only.bind induction fun _ => trivial

theorem relayCalls_sendTo (key : ChannelKey) (payload : Bytes) :
    (desk.sendTo key payload).Only desk.RelayCall := by
  apply Script.Only.bind (.ask (.lookup key))
  intro party
  cases party with
  | some party => exact desk.relayCalls_deliverTo party payload
  | none => trivial

theorem relayCalls_broadcast (group : String) (payload : Bytes) (except : List ChannelKey) :
    (desk.broadcast group payload except).Only desk.RelayCall :=
  Script.Only.bind (.ask (.audience group except)) fun parties =>
    desk.relayCalls_deliverEach payload parties

theorem RelayCall.isPlain {desk : Desk} {request : Call} (call : desk.RelayCall request) :
    request.IsPlain := by
  cases call <;> trivial

theorem plain_deliverTo (party : Party) (payload : Bytes) :
    (desk.deliverTo party payload).Only Call.IsPlain :=
  (desk.relayCalls_deliverTo party payload).mono fun _ => RelayCall.isPlain

theorem plain_sendTo (key : ChannelKey) (payload : Bytes) :
    (desk.sendTo key payload).Only Call.IsPlain :=
  (desk.relayCalls_sendTo key payload).mono fun _ => RelayCall.isPlain

theorem plain_broadcast (group : String) (payload : Bytes) (except : List ChannelKey) :
    (desk.broadcast group payload except).Only Call.IsPlain :=
  (desk.relayCalls_broadcast group payload except).mono fun _ => RelayCall.isPlain

/-- Relaying what a client says moves no key beyond what handling it moves. -/
theorem drifts_receive (party : Party) (payload : Bytes) (gateway : Gateway) :
    ((desk.handleClear party payload).run gateway).2.Drifts
      ((desk.receive party payload).run gateway).2 := by
  rw [receive]
  rw [Script.run_bind]
  split
  · rw [Script.run_bind, Script.run_pure]
    exact Gateway.drifts_run (desk.plain_broadcast _ _ _) _
  · exact .refl _

end Sending

end Desk

namespace Gateway

variable {gateway : Gateway}

theorem Sound.accept (sound : gateway.Sound [] none) (desk : Desk) {party : Party}
    (known : gateway.Knows party) : ((desk.accept party).run gateway).2.Sound [] none := by
  rw [Desk.accept]
  simp only [Script.run_bind]
  have entered := sound.enter desk.family (.identity party.id) known
  have still := ((keeps_run (Script.enter desk.family (.identity party.id) party) gateway).knows
    party).2 known
  have joined := entered.join desk.family everyone still
  have known_now := ((keeps_run (Script.join desk.family everyone party) _).knows party).2 still
  exact joined.attach desk known_now

theorem Sound.bind (sound : gateway.Sound [] none) (desk : Desk) (key : ChannelKey)
    (identity : Identity) : ((desk.bind key identity).run gateway).2.Sound [] none := by
  rw [Desk.bind]
  rw [Script.run_bind, Script.run_ask]
  split
  · next party found =>
      have known := sound.knows party (.directory (.key found))
      rw [Script.run_bind, Script.run_pure]
      exact sound.enter desk.family key known
  · exact sound

theorem Sound.relay {ids : List Identity} (sound : gateway.Sound [] none)
    (lists : gateway.Lists ids) (policy : SizePolicy) (act : Relay.Act) :
    (Relay.act policy gateway act).Sound [] none := by
  cases act with
  | occurs occurrence => exact sound.undergo lists occurrence
  | accept family handle =>
      exact attend_cases (motive := fun after => after.Sound [] none) handle _ sound
        fun party known _ => sound.accept _ known
  | receive family handle payload =>
      exact attend_cases (motive := fun after => after.Sound [] none) handle _ sound
        fun party known _ =>
          (sound.handleClear _ party payload).drifts (Desk.drifts_receive _ party payload gateway)
  | request family handle payload =>
      exact attend_cases (motive := fun after => after.Sound [] none) handle _ sound
        fun party known _ => sound.handleEncrypted _ known payload
  | bind family key identity => exact sound.bind _ key identity
  | sendTo family key payload => exact sound.drifts (drifts_run (Desk.plain_sendTo _ _ _) gateway)
  | broadcast family group payload except =>
      exact sound.drifts (drifts_run (Desk.plain_broadcast _ _ _ _) gateway)
  | shutdown => exact sound.shutdown

end Gateway

end PadRelay
