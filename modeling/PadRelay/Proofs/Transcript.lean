import PadRelay.Proofs.Gateway.Roster

/-!
# What a run calls

The calls of a run, in order, tell all that it wrote, handed over and closed. In particular they
decide what every connection has been handed by the end: nothing else touches an outlet.
-/

namespace PadRelay

namespace Call

def written? : Call → Option Message
  | .encode _ message => some message
  | _ => none

/-- The payload that a call hands over, and to whom. -/
def sent? : Call → Option (Handle × Bytes)
  | .send handle payload => some (handle, payload)
  | _ => none

/-- A call that neither writes nor hands over anything. -/
def IsSilent (request : Call) : Prop := request.written? = none ∧ request.sent? = none

end Call

namespace Script

variable {α β : Type}

/-- The calls that a run makes, in order. -/
def calls : Script α → Gateway → List Call
  | done _, _ => []
  | call request next, gateway =>
      request :: (next (gateway.perform request).1).calls (gateway.perform request).2

@[simp]
theorem calls_pure (value : α) (gateway : Gateway) : (pure value : Script α).calls gateway = [] :=
  rfl

@[simp]
theorem calls_ask (request : Call) (gateway : Gateway) :
    (ask request).calls gateway = [request] := rfl

@[simp]
theorem calls_bind (script : Script α) (next : α → Script β) (gateway : Gateway) :
    (script >>= next).calls gateway =
      script.calls gateway ++ (next (script.run gateway).1).calls (script.run gateway).2 := by
  induction script generalizing gateway with
  | done value => rfl
  | call request rest induction => exact congrArg (request :: ·) (induction _ _)

theorem Only.of_mem_calls {allowed : Call → Prop} {script : Script α} (only : script.Only allowed)
    (gateway : Gateway) : ∀ request ∈ script.calls gateway, allowed request := by
  induction script generalizing gateway with
  | done value => exact fun _ member => absurd member List.not_mem_nil
  | call request rest induction =>
      intro made member
      rcases List.mem_cons.1 member with rfl | later
      · exact only.1
      · exact induction _ (only.2 _) _ made later

def written (script : Script α) (gateway : Gateway) : List Message :=
  (script.calls gateway).filterMap Call.written?

/-- The payloads that a run hands over. -/
def sent (script : Script α) (gateway : Gateway) : List (Handle × Bytes) :=
  (script.calls gateway).filterMap Call.sent?

/-- The payloads that a run hands to a connection. -/
def sentTo (handle : Handle) (script : Script α) (gateway : Gateway) : List Bytes :=
  ((script.sent gateway).filter fun sending => sending.1 = handle).map Prod.snd

@[simp]
theorem written_pure (value : α) (gateway : Gateway) :
    (pure value : Script α).written gateway = [] := rfl

@[simp]
theorem sent_pure (value : α) (gateway : Gateway) :
    (pure value : Script α).sent gateway = [] := rfl

@[simp]
theorem sent_ask (request : Call) (gateway : Gateway) :
    (ask request).sent gateway = request.sent?.toList := by
  cases found : request.sent? <;> simp [sent, found]

@[simp]
theorem written_bind (script : Script α) (next : α → Script β) (gateway : Gateway) :
    (script >>= next).written gateway =
      script.written gateway ++ (next (script.run gateway).1).written (script.run gateway).2 := by
  simp [written]

@[simp]
theorem sent_bind (script : Script α) (next : α → Script β) (gateway : Gateway) :
    (script >>= next).sent gateway =
      script.sent gateway ++ (next (script.run gateway).1).sent (script.run gateway).2 := by
  simp [sent]

@[simp]
theorem sentTo_bind (handle : Handle) (script : Script α) (next : α → Script β)
    (gateway : Gateway) :
    (script >>= next).sentTo handle gateway =
      script.sentTo handle gateway ++
        (next (script.run gateway).1).sentTo handle (script.run gateway).2 := by
  simp [sentTo]

theorem Only.written_eq_nil {script : Script α} (silent : script.Only Call.IsSilent)
    (gateway : Gateway) : script.written gateway = [] :=
  List.filterMap_eq_nil_iff.2 fun request made => (silent.of_mem_calls gateway request made).1

theorem Only.sent_eq_nil {script : Script α} (silent : script.Only Call.IsSilent)
    (gateway : Gateway) : script.sent gateway = [] :=
  List.filterMap_eq_nil_iff.2 fun request made => (silent.of_mem_calls gateway request made).2

theorem length_sentTo_le (handle : Handle) (script : Script α) (gateway : Gateway) :
    (script.sentTo handle gateway).length ≤ (script.sent gateway).length := by
  rw [sentTo, List.length_map]
  exact List.length_filter_le _ _

theorem Only.sentTo_eq_nil {script : Script α} (silent : script.Only Call.IsSilent)
    (handle : Handle) (gateway : Gateway) : script.sentTo handle gateway = [] := by
  rw [sentTo, silent.sent_eq_nil, List.filter_nil, List.map_nil]

end Script

/-- What a connection shows to those who hand it payloads. -/
structure Mouth where
  outlet : Outlet
  isOpen : Bool
deriving DecidableEq

namespace Mouth

/-- A payload is handed over. -/
def push (mouth : Mouth) (payload : Bytes) : Mouth :=
  match mouth.outlet with
  | .record sent failing =>
      if failing || !mouth.isOpen then mouth
      else { mouth with outlet := .record (sent ++ [payload]) false }
  | .queue waiting attached =>
      if !mouth.isOpen || !attached then mouth
      else if waiting.length < Outlet.capacity then
        { mouth with outlet := .queue (waiting ++ [payload]) true }
      else { mouth with isOpen := false }

/-- Payloads are handed over one after the other. -/
def pushAll (mouth : Mouth) (payloads : List Bytes) : Mouth := payloads.foldl push mouth

def shut (mouth : Mouth) : Mouth := { mouth with isOpen := false }

end Mouth

namespace Connection

variable {κ : Type} (connection : Connection κ)

/-- What a connection shows to those who hand it payloads. -/
def mouth : Mouth := ⟨connection.outlet, connection.isOpen⟩

theorem mouth_send (payload : Bytes) :
    (connection.send payload).2.1.mouth = connection.mouth.push payload := by
  have closed : connection.life.closed = !connection.isOpen := by
    simp [isOpen, Lifecycle.isOpen]
  have opened (outlet : Outlet) :
      isOpen { connection with outlet } = connection.isOpen := rfl
  cases shape : connection.outlet with
  | record sent failing =>
      simp only [send, Mouth.push, mouth, shape, closed]
      cases failing <;> cases flag : connection.isOpen <;> simp [shape, opened, flag]
  | queue waiting attached =>
      simp only [send, Mouth.push, mouth, shape, closed]
      cases attached <;> cases flag : connection.isOpen <;> simp [shape, flag]
      by_cases room : waiting.length < Outlet.capacity <;> simp [room, opened, flag, shape]

theorem mouth_close : connection.close.1.mouth = connection.mouth.shut := by
  simp [mouth, Mouth.shut]

theorem mouth_onClose (callback : κ) :
    (connection.onClose callback).1.mouth = connection.mouth := by
  cases isOpen : connection.isOpen with
  | true => rw [onClose_of_isOpen isOpen]; rfl
  | false => rw [onClose_of_closed isOpen]

end Connection

def Call.work (handle : Handle) (mouth : Mouth) : Call → Mouth
  | .send other payload => if other = handle then mouth.push payload else mouth
  | .close other => if other = handle then mouth.shut else mouth
  | _ => mouth

/-- A call that does nothing to the mouth of a connection. -/
def Call.Passes (handle : Handle) (request : Call) : Prop :=
  ∀ mouth, request.work handle mouth = mouth

namespace Gateway

variable (gateway : Gateway) (handle : Handle)

/-- What the connection under a handle shows to those who hand it payloads. -/
def mouthOf? : Option Mouth := (gateway.connections.get? handle).map Connection.mouth

theorem mouthOf?_congr {before after : Gateway} (same : after.connections = before.connections) :
    after.mouthOf? handle = before.mouthOf? handle := by
  rw [mouthOf?, same, mouthOf?]

theorem mouthOf?_settle (other : Handle) (connection : Connection Hook) (due : List Hook) :
    (gateway.settle other connection due).mouthOf? handle =
      if other = handle then some connection.mouth else gateway.mouthOf? handle := by
  simp only [mouthOf?, connections_settle, Table.get?_insert]
  split <;> split <;> simp_all

theorem mouthOf?_of_absent {other : Handle} (absent : gateway.connections.get? other = none)
    (work : Mouth → Mouth) :
    gateway.mouthOf? handle =
      (gateway.mouthOf? handle).map fun mouth => if other = handle then work mouth else mouth := by
  split
  · next same => simp [mouthOf?, ← same, absent]
  · rw [Option.map_id']

theorem mouthOf?_turned {other : Handle} {connection turned : Connection Hook}
    (found : gateway.connections.get? other = some connection) (work : Mouth → Mouth)
    (worked : turned.mouth = work connection.mouth) (due : List Hook) :
    (gateway.settle other turned due).mouthOf? handle =
      (gateway.mouthOf? handle).map fun mouth => if other = handle then work mouth else mouth := by
  rw [mouthOf?_settle, worked]
  split
  · next same => simp [mouthOf?, ← same, found]
  · rw [Option.map_id']

theorem mouthOf?_perform (request : Call) :
    (gateway.perform request).2.mouthOf? handle =
      (gateway.mouthOf? handle).map fun mouth => request.work handle mouth := by
  cases request with
  | send other payload =>
      simp only [perform, Call.work]
      cases found : gateway.connections.get? other with
      | none =>
          simp only [send, found]
          exact gateway.mouthOf?_of_absent handle found _
      | some connection =>
          rw [send_eq gateway payload found]
          exact gateway.mouthOf?_turned handle found _ (connection.mouth_send payload) _
  | close other =>
      simp only [perform, Call.work]
      cases found : gateway.connections.get? other with
      | none =>
          simp only [close, found]
          exact gateway.mouthOf?_of_absent handle found _
      | some connection =>
          rw [close_eq gateway found]
          exact gateway.mouthOf?_turned handle found _ connection.mouth_close _
  | onClose other hook =>
      simp only [perform, Call.work, Option.map_id']
      cases found : gateway.connections.get? other with
      | none => simp only [onClose, found]
      | some connection =>
          have turned := gateway.mouthOf?_turned handle found id (connection.mouth_onClose hook)
            (connection.onClose hook).2
          rw [onClose_eq gateway hook found, turned]
          simp
  | sealFor family identity payload =>
      simp only [perform, sealFor, Call.work, Option.map_id']
      split
      · exact mouthOf?_congr handle (by simp [count])
      · rfl
  | dress family recipient payload =>
      simp only [perform, dress, sealFor, Call.work, Option.map_id']
      split
      · split
        · exact mouthOf?_congr handle (by simp [count])
        · rfl
      · rfl
  | generate policy size =>
      simp only [perform, Call.work, Option.map_id']
      split <;> rfl
  | _ =>
      simp only [Call.work, Option.map_id']
      exact mouthOf?_congr handle (by simp [perform, count, place, stagedKey])

theorem mouthOf?_run {α : Type} (script : Script α) :
    (script.run gateway).2.mouthOf? handle =
      (gateway.mouthOf? handle).map fun mouth =>
        (script.calls gateway).foldl (fun mouth request => request.work handle mouth) mouth := by
  induction script generalizing gateway with
  | done value => simp [Script.run_done, Script.calls]
  | call request next induction =>
      rw [Script.run_call, induction, mouthOf?_perform, Option.map_map]
      rfl

theorem mouthOf?_run_of_passes {α : Type} {script : Script α}
    (passes : script.Only (Call.Passes handle)) :
    (script.run gateway).2.mouthOf? handle = gateway.mouthOf? handle := by
  refine passes.run (fun before after => after.mouthOf? handle = before.mouthOf? handle)
    (fun _ => rfl) (fun _ _ _ first second => second.trans first)
    (fun request passes gateway => ?_) gateway
  rw [mouthOf?_perform, funext passes, Option.map_id']

theorem isOpen_eq_mouthOf? :
    gateway.isOpen handle = (gateway.mouthOf? handle).any Mouth.isOpen := by
  rw [isOpen, mouthOf?, Option.any_map]
  rfl

/-- A connection that is not closed has been handed what the run sent it. -/
theorem mouthOf?_run_of_unclosed {α : Type} {script : Script α}
    (unclosed : .close handle ∉ script.calls gateway) :
    (script.run gateway).2.mouthOf? handle =
      (gateway.mouthOf? handle).map fun mouth => mouth.pushAll (script.sentTo handle gateway) := by
  induction script generalizing gateway with
  | done value => simp [Script.run_done, Script.sentTo, Script.sent, Script.calls, Mouth.pushAll]
  | call request next induction =>
      rw [Script.calls, List.mem_cons, not_or] at unclosed
      rw [Script.run_call, induction _ _ unclosed.2, mouthOf?_perform, Option.map_map]
      congr 1
      funext mouth
      cases request with
      | send other payload =>
          by_cases same : other = handle <;>
            simp [Call.work, same, Script.sentTo, Script.sent, Script.calls, Call.sent?,
              Mouth.pushAll]
      | close other =>
          have different : other ≠ handle := fun same => unclosed.1 (by rw [same])
          simp only [Function.comp_apply, Call.work, if_neg different]
          rfl
      | _ => rfl

/-- A connection that is neither handed anything nor closed stays as it is. -/
theorem mouthOf?_run_of_apart {α : Type} {script : Script α}
    (unsent : script.sentTo handle gateway = []) (unclosed : .close handle ∉ script.calls gateway) :
    (script.run gateway).2.mouthOf? handle = gateway.mouthOf? handle := by
  rw [mouthOf?_run_of_unclosed gateway handle unclosed, unsent]
  simp [Mouth.pushAll]

end Gateway

namespace Mouth

/-- What is kept for the other end, oldest first. -/
def contents (mouth : Mouth) : List Bytes :=
  match mouth.outlet with
  | .record sent _ => sent
  | .queue waiting _ => waiting

/-- Whether a payload that is handed over is kept. -/
def takes (mouth : Mouth) : Bool :=
  mouth.isOpen &&
    match mouth.outlet with
    | .record _ failing => !failing
    | .queue waiting attached => attached && waiting.length < Outlet.capacity

variable {mouth : Mouth} (payload : Bytes)

theorem push_of_takes (takes : mouth.takes = true) :
    (mouth.push payload).contents = mouth.contents ++ [payload] ∧
      (mouth.push payload).isOpen = true := by
  obtain ⟨outlet, isOpen⟩ := mouth
  cases outlet with
  | record sent failing =>
      obtain ⟨rfl, rfl⟩ : isOpen = true ∧ failing = false := by simpa [Mouth.takes] using takes
      exact ⟨rfl, rfl⟩
  | queue waiting attached =>
      obtain ⟨rfl, rfl, room⟩ : isOpen = true ∧ attached = true ∧
          waiting.length < Outlet.capacity := by
        simpa [Mouth.takes] using takes
      simp [push, contents, room]

theorem push_of_not_takes (refuses : mouth.takes = false) :
    (mouth.push payload).contents = mouth.contents := by
  obtain ⟨outlet, isOpen⟩ := mouth
  cases outlet with
  | record sent failing =>
      cases isOpen <;> cases failing <;> first | rfl | cases refuses
  | queue waiting attached =>
      cases isOpen <;> cases attached <;> try rfl
      have full : ¬ waiting.length < Outlet.capacity := by simpa [Mouth.takes] using refuses
      simp [push, contents, full]

theorem pushAll_of_takes (takes : mouth.takes = true) {payloads : List Bytes}
    (few : payloads.length ≤ 1) :
    (mouth.pushAll payloads).contents = mouth.contents ++ payloads ∧
      (mouth.pushAll payloads).isOpen = true := by
  match payloads with
  | [] => exact ⟨(List.append_nil _).symm, (Bool.and_eq_true _ _ ▸ takes).1⟩
  | [payload] => exact push_of_takes payload takes

/-- At most one payload is handed over: it is kept if it is taken. -/
theorem contents_pushAll (mouth : Mouth) {payloads : List Bytes} (few : payloads.length ≤ 1) :
    (mouth.pushAll payloads).contents =
      mouth.contents ++ if mouth.takes then payloads else [] := by
  cases takes : mouth.takes with
  | true => exact (pushAll_of_takes takes few).1
  | false =>
      match payloads with
      | [] => exact (List.append_nil _).symm
      | [payload] => exact (push_of_not_takes payload takes).trans (List.append_nil _).symm

theorem push_of_closed (closed : mouth.isOpen = false) : mouth.push payload = mouth := by
  obtain ⟨outlet, isOpen⟩ := mouth
  obtain rfl : isOpen = false := closed
  cases outlet <;> simp [push]

end Mouth

theorem Connection.isOk_send {κ : Type} (connection : Connection κ) (payload : Bytes) :
    (connection.send payload).1.isOk = connection.mouth.takes := by
  have closed : connection.life.closed = !connection.isOpen := by
    simp [isOpen, Lifecycle.isOpen]
  cases shape : connection.outlet with
  | record sent failing =>
      simp only [send, Mouth.takes, mouth, shape, closed]
      cases failing <;> cases connection.isOpen <;> rfl
  | queue waiting attached =>
      simp only [send, Mouth.takes, mouth, shape, closed]
      cases attached <;> cases connection.isOpen <;> try rfl
      by_cases room : waiting.length < Outlet.capacity <;> simp [room, Except.isOk, Except.toBool]

namespace Gateway

/-- What is kept for the other end of a connection, oldest first. -/
def contents (gateway : Gateway) (handle : Handle) : List Bytes :=
  (gateway.mouthOf? handle).elim [] Mouth.contents

theorem send_fst (gateway : Gateway) (handle : Handle) (payload : Bytes) :
    (gateway.send handle payload).1 = (gateway.mouthOf? handle).any Mouth.takes := by
  rw [mouthOf?]
  cases found : gateway.connections.get? handle with
  | none => simp [send, found]
  | some connection =>
      simp only [send, found, Option.map_some, Option.any_some]
      exact connection.isOk_send payload

end Gateway

theorem Mouth.isOpen_push_of_closed {mouth : Mouth} (closed : mouth.isOpen = false)
    (payload : Bytes) : (mouth.push payload).isOpen = false := by
  rw [push_of_closed payload closed, closed]

theorem Call.isOpen_work_of_closed {mouth : Mouth} (closed : mouth.isOpen = false)
    (handle : Handle) (request : Call) : (request.work handle mouth).isOpen = false := by
  cases request with
  | send other payload =>
      rw [work]
      split
      · exact Mouth.isOpen_push_of_closed closed payload
      · exact closed
  | close other =>
      rw [work]
      split
      · rfl
      · exact closed
  | _ => exact closed

namespace Gateway

variable {gateway : Gateway} {handle : Handle}

theorem isOpen_perform_of_closed (closed : gateway.isOpen handle = false) (request : Call) :
    (gateway.perform request).2.isOpen handle = false := by
  rw [isOpen_eq_mouthOf?] at closed ⊢
  rw [mouthOf?_perform]
  cases shown : gateway.mouthOf? handle with
  | none => rfl
  | some mouth =>
      rw [shown] at closed
      exact request.isOpen_work_of_closed closed handle

theorem isOpen_run_of_closed {α : Type} (closed : gateway.isOpen handle = false)
    (script : Script α) : (script.run gateway).2.isOpen handle = false := by
  induction script generalizing gateway with
  | done value => exact closed
  | call request next induction =>
      rw [Script.run_call]
      exact induction _ (isOpen_perform_of_closed closed request)

end Gateway

end PadRelay
