import PadRelay.Gateway.Handshake
import PadRelay.Proofs.Gateway.Attached

/-!
# Answers

Whatever a handler tells a connection is sealed at most, counted, and handed to that connection
alone. Such a script moves no key; and once the connection is closed, it leaves the active keys as
they are.
-/

namespace PadRelay

/-- A plain call that closes nothing and hands nothing to any connection but the given one. -/
def Call.Addresses (handle : Handle) : Call → Prop
  | .send other _ => other = handle
  | .close _ => False
  | request => request.IsPlain

namespace Call

variable {request : Call} {handle : Handle}

theorem Addresses.isPlain (addresses : request.Addresses handle) :
    request.IsPlain := by
  cases request with
  | send => trivial
  | close => cases addresses
  | _ => exact addresses

/-- A plain call that closes nothing, and hands nothing to an open connection, leaves the
connections and the active keys as they are. -/
theorem Addresses.active_perform (addresses : request.Addresses handle)
    {gateway : Gateway} (closed : gateway.isOpen handle = false) :
    (gateway.perform request).2.isOpen handle = false ∧
      (gateway.perform request).2.active = gateway.active := by
  have counted (family : Family) (event : Event) :
      (gateway.count family event).isOpen handle = false ∧
        (gateway.count family event).active = gateway.active := by
    simpa [Gateway.count, Gateway.isOpen] using closed
  have sealed (family : Family) (identity : Identity) (payload : Bytes) :
      (gateway.sealFor family identity payload).2.isOpen handle = false ∧
        (gateway.sealFor family identity payload).2.active = gateway.active := by
    rw [Gateway.sealFor]
    split
    · exact counted family .encrypted
    · exact ⟨closed, rfl⟩
  cases request with
  | send other payload =>
      cases addresses
      exact Gateway.active_send_of_closed payload closed
  | count family event => exact counted family event
  | sealFor family identity payload => exact sealed family identity payload
  | dress family recipient payload =>
      simp only [Gateway.perform, Gateway.dress]
      split
      · exact sealed family recipient payload
      · exact ⟨closed, rfl⟩
  | isOpen | isSecure | encode | clearOf | hostMatches | lookup | audience => exact ⟨closed, rfl⟩
  | staged | retired | active => exact ⟨closed, rfl⟩
  | _ => cases addresses

end Call

/-- What is told to a closed connection alone changes no active key. -/
theorem Script.Only.active_of_closed {α : Type} {script : Script α} {handle : Handle}
    (addresses : script.Only (Call.Addresses handle)) {gateway : Gateway}
    (closed : gateway.isOpen handle = false) : (script.run gateway).2.active = gateway.active := by
  have unchanged : gateway.isOpen handle = false →
      (script.run gateway).2.isOpen handle = false ∧
        (script.run gateway).2.active = gateway.active :=
    addresses.run (fun before after => before.isOpen handle = false →
        after.isOpen handle = false ∧ after.active = before.active)
      (fun _ closed => ⟨closed, rfl⟩)
      (fun _ _ _ first second closed => ⟨(second (first closed).1).1,
        (second (first closed).1).2.trans (first closed).2⟩)
      (fun request permitted gateway closed => permitted.active_perform closed) gateway
  exact (unchanged closed).2

namespace Desk

variable (desk : Desk) (party : Party)

theorem addresses_deliver (payload : Bytes) :
    (deliver party payload).Only (Call.Addresses party.handle) :=
  Script.Only.bind (.ask rfl) fun _ => trivial

theorem addresses_sendClear (payload : Bytes) :
    (desk.sendClear party payload).Only (Call.Addresses party.handle) :=
  Script.Only.bind (.ask trivial) fun sealed => addresses_deliver party sealed

theorem addresses_reply (message : Message) :
    (desk.reply party message).Only (Call.Addresses party.handle) := by
  apply Script.Only.bind (.ask trivial)
  intro encoded
  cases encoded with
  | ok payload => exact addresses_deliver party payload
  | error error => trivial

theorem addresses_respond (message : Message) :
    (desk.respond party message).Only (Call.Addresses party.handle) := by
  apply Script.Only.bind (.ask trivial)
  intro encoded
  cases encoded with
  | ok payload => exact desk.addresses_sendClear party payload
  | error error => trivial

theorem plain_deliver (payload : Bytes) : (deliver party payload).Only Call.IsPlain :=
  (addresses_deliver party payload).mono fun _ => Call.Addresses.isPlain

theorem plain_reply (message : Message) : (desk.reply party message).Only Call.IsPlain :=
  (desk.addresses_reply party message).mono fun _ => Call.Addresses.isPlain

theorem plain_respond (message : Message) : (desk.respond party message).Only Call.IsPlain :=
  (desk.addresses_respond party message).mono fun _ => Call.Addresses.isPlain

theorem plain_reject (code : Code) : (desk.reject party code).Only Call.IsPlain :=
  Script.Only.bind (desk.plain_respond party _) fun _ => trivial

theorem plain_rejectAck (code : Code) : (desk.rejectAck party code).Only Call.IsPlain :=
  Script.Only.bind (desk.plain_respond party _) fun _ => trivial

theorem plain_rejectDelete (code : Code) : (desk.rejectDelete party code).Only Call.IsPlain :=
  Script.Only.bind (desk.plain_respond party _) fun _ => trivial

theorem plain_refuse (code : Code) : (desk.refuse party code).Only Call.IsPlain :=
  Script.Only.bind (desk.plain_reply party _) fun _ => trivial

theorem plain_openWith (key : Key) (payload : Bytes) :
    (desk.openWith key payload).Only Call.IsPlain :=
  Script.Only.bind (.ask trivial) fun _ => trivial

end Desk

end PadRelay
