import Mathlib.Algebra.Order.Ring.Nat
import PadRelay.Proofs.Exchange.Timers
import PadRelay.Proofs.Gather

/-!
# Which random bytes a key consists of

A handler looks at everything that can make it refuse a request before it draws a key. So the random
stream is cut into keys without a gap: every key that is issued consists of the bytes right after
those of the key issued before it, and whatever else happens draws nothing.
-/

namespace PadRelay

def piece (stream : Nat → UInt8) (offset size : Nat) : Bytes :=
  (List.range size).map fun index => stream (offset + index)

theorem Key.generate_eq_ok {policy : SizePolicy} {size : Nat} {source rest : Entropy} {key : Key}
    (drawn : Key.generate policy size source = .ok (key, rest)) :
    key.bytes = (source.take size).1 ∧ rest = (source.take size).2 := by
  rw [Key.generate] at drawn
  cases valid : policy.validate size with
  | error error =>
      rw [valid] at drawn
      cases drawn
  | ok allowed =>
      obtain rfl := ((SizePolicy.validate_eq_ok_iff _ _ _).1 valid).1
      rw [valid] at drawn
      simp only [bind, Except.bind, Key.ofBytes] at drawn
      split at drawn
      · cases drawn
      · next made =>
          split at made
          · cases made
          · cases made
            cases drawn
            exact ⟨rfl, rfl⟩

def Call.staged? : Call → Option (Identity × Key)
  | .stage identity key => some (identity, key)
  | _ => none

namespace Script

variable {α β : Type} (script : Script α) (gateway : Gateway)

def stagings : List (Identity × Key) := (script.calls gateway).filterMap Call.staged?

theorem stagings_bind (next : α → Script β) :
    (script >>= next).stagings gateway =
      script.stagings gateway ++
        (next (script.run gateway).1).stagings (script.run gateway).2 := by
  simp [stagings]

variable {script gateway}

theorem stagings_eq_nil (unstaged : script.Only (·.staged? = none)) :
    script.stagings gateway = [] :=
  List.filterMap_eq_nil_iff.2 fun request made => unstaged.of_mem_calls gateway request made

theorem stagings_of_generation
    (same : (script.run gateway).2.staged.generation = gateway.staged.generation) :
    script.stagings gateway = [] := by
  have counted := Gateway.generation_run script gateway
  have unstaged : (script.calls gateway).countP Call.isStage = 0 := by omega
  refine List.filterMap_eq_nil_iff.2 fun request made => ?_
  have other := List.countP_eq_zero.1 unstaged request made
  cases request with
  | stage => exact absurd rfl other
  | _ => rfl

end Script

namespace Desk

open Script (ask)

variable {desk : Desk} {gateway : Gateway} {party : Party} {payload : Bytes} {target : Identity}
  {requested : Option UInt32} {size : Nat} {key : Key} {rest : Entropy}

theorem unstaged_of_addresses {α : Type} {script : Script α}
    (addresses : script.Only (Call.Addresses party.handle)) :
    script.Only (·.staged? = none) := by
  refine addresses.mono fun request permitted => ?_
  cases request with
  | stage => cases permitted
  | _ => rfl

theorem stagings_issue (resolved : desk.policy.resolve requested = .ok size)
    (drawn : Key.generate desk.policy size gateway.entropy = .ok (key, rest)) :
    (desk.issue party target requested).stagings gateway = [(target, key)] := by
  have ran : (ask (.generate desk.policy size)).run gateway =
      (.ok key, { gateway with entropy := rest }) := by
    rw [Script.run_ask]
    simp only [Gateway.perform, drawn]
  rw [issue, resolved]
  dsimp only
  rw [Script.stagings_bind, ran]
  -- What comes after the staging stages nothing, whether the key is sent or taken back.
  refine congrArg ((target, key) :: ·) (Script.stagings_eq_nil ?_)
  change (ask (.clearOf desk.family target) >>= _).Only (·.staged? = none)
  refine Script.Only.bind (.ask rfl) fun clear => ?_
  cases clear with
  | none =>
      exact Script.Only.bind (.ask rfl) fun _ =>
        Script.Only.bind (unstaged_of_addresses (Script.Only.bind (desk.addresses_reply party _)
          fun _ => trivial)) fun _ => trivial
  | some clear =>
      exact Script.Only.bind (.ask rfl) fun _ =>
        Script.Only.bind (unstaged_of_addresses (addresses_deliver party _)) fun _ => trivial

theorem stagings_setEncrypted (middle : Gateway) :
    (Script.setEncrypted desk.family target party).stagings middle = [] := by
  refine Script.stagings_eq_nil (Script.Only.bind (.ask rfl) fun secure => ?_)
  split
  · refine Script.Only.bind (Script.Only.bind (.ask rfl) fun held => ?_) fun _ => trivial
    split
    · trivial
    · exact .ask rfl
  · trivial

theorem Grants.stagings_serve (grants : desk.Grants gateway party payload target requested)
    (resolved : desk.policy.resolve requested = .ok size)
    (drawn : Key.generate desk.policy size gateway.entropy = .ok (key, rest)) :
    (desk.serve party .new target requested).stagings gateway = [(target, key)] := by
  obtain ⟨clear, here, there, found, hosts⟩ := grants.sameHost
  have matched := (Gateway.hostMatches_iff found party.handle).2 ⟨here, there, hosts⟩
  have entropy := (Gateway.Sheds.occupy gateway desk.family target .encrypted party).entropy
  rw [serve, Script.stagings_bind, Script.run_ask]
  simp only [Gateway.perform, found]
  rw [Script.stagings_bind, Script.run_ask]
  simp only [Gateway.perform, matched, if_true]
  rw [Script.stagings_bind, Gateway.setEncrypted_of_isSecure grants.secure, stagings_setEncrypted]
  exact stagings_issue resolved (entropy ▸ drawn)

/-- Answering an error, and closing the channel, stages nothing. -/
theorem stagings_handleEncrypted :
    (desk.handleEncrypted party payload).stagings gateway =
      (desk.readRequest party payload).stagings gateway := by
  have finished (outcome : EncryptedOutcome) (middle : Gateway) :
      (desk.finish party outcome).stagings middle = [] := by
    rw [Script.stagings, calls_finish]
    split <;> rfl
  have refused (code : Code) (middle : Gateway) : (desk.refuse party code).stagings middle = [] :=
    Script.stagings_eq_nil (unstaged_of_addresses
      (Script.Only.bind (desk.addresses_reply party _) fun _ => trivial))
  rw [handleEncrypted_eq, Script.stagings_bind, finished, List.append_nil, attempt,
    Script.stagings_bind]
  split
  · exact List.append_nil _
  · rw [refused, List.append_nil]

theorem Grants.stagings (grants : desk.Grants gateway party payload target requested)
    (resolved : desk.policy.resolve requested = .ok size)
    (drawn : Key.generate desk.policy size gateway.entropy = .ok (key, rest)) :
    (desk.handleEncrypted party payload).stagings gateway = [(target, key)] := by
  rw [stagings_handleEncrypted, readRequest, grants.asked]
  dsimp only
  rw [Script.stagings_bind, Script.run_ask]
  simp only [Gateway.perform, grants.secure, if_true]
  exact grants.stagings_serve resolved drawn

namespace Moves

variable {before after : Gateway} {act : Act}

theorem stagesNothing (moves : desk.Moves before act after)
    (other : (desk.act before act).1 ≠ .encrypted .keyIssued) :
    after.entropy = before.entropy ∧ after.staged.generation = before.staged.generation := by
  cases moves with
  | passes duration => exact ⟨rfl, rfl⟩
  | sheds sheds => exact ⟨sheds.entropy, sheds.generation⟩
  | issues issues first last => exact absurd issues.answered other
  | activates activates first last =>
      exact ⟨last.entropy.trans first.entropy, last.generation.trans first.generation⟩

end Moves

end Desk

namespace Gateway

/-- The calls that a handler makes for a connection, if there is one under the handle. -/
def callsFor {α : Type} (gateway : Gateway) (handle : Handle) (handler : Party → Script α) :
    List Call :=
  match gateway.idOf? handle with
  | some id => (handler ⟨handle, id⟩).calls gateway
  | none => []

theorem callsFor_of_knows {α : Type} {gateway : Gateway} {party : Party}
    (known : gateway.Knows party) (handler : Party → Script α) :
    gateway.callsFor party.handle handler = (handler party).calls gateway := by
  have found : gateway.idOf? party.handle = some party.id := known
  simp only [callsFor, found]

theorem stagings_callsFor {α : Type} {gateway : Gateway} {handle : Handle}
    {handler : Party → Script α} (same : (gateway.attend handle handler).2.staged.generation =
      gateway.staged.generation) :
    (gateway.callsFor handle handler).filterMap Call.staged? = [] := by
  cases found : gateway.idOf? handle with
  | none => simp only [callsFor, found, List.filterMap_nil]
  | some id =>
      simp only [attend, found] at same
      simp only [callsFor, found]
      exact Script.stagings_of_generation same

end Gateway

namespace Desk

variable (desk : Desk) (stream : Nat → UInt8) (start gateway : Gateway) (acts : List Act)

def calls : Act → List Call
  | .attach handle => gateway.callsFor handle desk.attach
  | .clear handle payload => gateway.callsFor handle fun party => desk.handleClear party payload
  | .encrypted handle payload =>
      gateway.callsFor handle fun party => desk.handleEncrypted party payload
  | .occurs _ | .shutdown => []

/-- The size of the key that a payload asks for, if it asks for one of an allowed size. -/
def size? (payload : Bytes) : Option Nat :=
  match desk.codec.decode payload with
  | .ok (.keyRequest request) => (desk.policy.resolve request.size).toOption
  | _ => none

def issuedSize? : Act → Option Nat
  | .encrypted handle payload =>
      if (desk.act gateway (.encrypted handle payload)).1 = .encrypted .keyIssued then
        desk.size? payload
      else none
  | _ => none

/-- The sizes of the keys that a run issues, in order. -/
def issuedSizes : List Nat :=
  gather (fun gateway act => (desk.act gateway act).2)
    (fun gateway act => (desk.issuedSize? gateway act).toList) start acts

/-- How long all the keys together are that were issued before a position of a run. -/
def offset (position : Nat) : Nat := (desk.issuedSizes start (acts.take position)).sum

/-- An act issues the bytes of the stream from a position on as the key of an identity. -/
structure IssuesPiece (position : Nat) (act : Act) (target : Identity) (key : Key) : Prop where
  /-- A request on an encrypted channel asks for a new key, and is answered with the key alone. -/
  answered : ∃ handle payload requested, act = .encrypted handle payload ∧
    desk.codec.decode payload = .ok (.keyRequest (.newKey target requested)) ∧
    desk.policy.resolve requested = .ok key.size ∧
    (desk.calls gateway act).filterMap Call.sent? =
      [(handle, desk.codec.encode (.keyResponse (.issued key.bytes)))]
  /-- The key is staged for the target, and nothing else is staged. -/
  staged : (desk.calls gateway act).filterMap Call.staged? = [(target, key)]
  /-- The key is a piece of the stream. -/
  bytes : key.bytes = piece stream position key.size

variable {desk stream gateway}

/-- Only the request of a known connection is answered with a key. -/
theorem request_of_keyIssued {act : Act}
    (issued : (desk.act gateway act).1 = .encrypted .keyIssued) :
    ∃ party payload, act = .encrypted party.handle payload ∧ gateway.Knows party ∧
      ((desk.handleEncrypted party payload).run gateway).1 = .keyIssued := by
  cases act with
  | occurs | attach | shutdown => cases issued
  | clear handle payload =>
      simp only [act] at issued
      generalize (gateway.attend handle _).1 = outcome at issued
      cases outcome <;> cases issued
  | encrypted handle payload =>
      cases found : gateway.idOf? handle with
      | none =>
          simp only [act, Gateway.attend_of_absent found] at issued
          cases issued
      | some id =>
          have known : gateway.Knows ⟨handle, id⟩ := found
          refine ⟨⟨handle, id⟩, payload, rfl, known, ?_⟩
          simp only [act, Gateway.attend_of_knows known] at issued
          exact Report.encrypted.inj issued

/-- An act that issues a key issues the next piece of the stream, and draws no more. -/
theorem issuesPiece_of_keyIssued {position : Nat}
    (source : gateway.entropy = { byte := stream, drawn := position }) {act : Act}
    (issued : (desk.act gateway act).1 = .encrypted .keyIssued) :
    ∃ target key, desk.IssuesPiece stream gateway position act target key ∧
      desk.issuedSize? gateway act = some key.size ∧
        (desk.act gateway act).2.entropy = { byte := stream, drawn := position + key.size } := by
  obtain ⟨party, payload, rfl, known, outcome⟩ := request_of_keyIssued issued
  have answer := desk.answer_handleEncrypted party gateway payload
  have effect := desk.effect_handleEncrypted party payload gateway known
  rw [outcome] at answer
  obtain ⟨target, requested, key, rest, grants, resolved, drawn, -, sent⟩ := answer.eq_issued
  obtain ⟨bytes, left⟩ := Key.generate_eq_ok drawn
  have calls : desk.calls gateway (.encrypted party.handle payload) =
      (desk.handleEncrypted party payload).calls gateway :=
    Gateway.callsFor_of_knows known fun party => desk.handleEncrypted party payload
  have after : (desk.act gateway (.encrypted party.handle payload)).2 =
      ((desk.handleEncrypted party payload).run gateway).2 := by
    simp only [act, Gateway.attend_of_knows known]
  refine ⟨target, key,
    ⟨⟨party.handle, payload, requested, rfl, grants.asked, resolved, ?_⟩, ?_, ?_⟩, ?_, ?_⟩
  · rw [calls]
    exact sent
  · rw [calls]
    exact grants.stagings resolved drawn
  · rw [bytes, source]
    rfl
  · rw [issuedSize?, if_pos issued, size?, grants.asked]
    exact congrArg Except.toOption resolved
  · rw [after]
    generalize (desk.handleEncrypted party payload).run gateway = result at effect outcome
    cases effect with
    | idle failure drifts => cases outcome; cases failure
    | deleted => cases outcome
    | issued asked allowed first attached again last =>
        rw [first.sheds.entropy] at again
        cases asked.symm.trans grants.asked
        cases allowed.symm.trans resolved
        cases again.symm.trans drawn
        rw [last.sheds.entropy, Gateway.stageNew, left, source]
        simp [Entropy.take, Entropy.taken]

theorem idle_of_not_keyIssued {act : Act}
    (other : (desk.act gateway act).1 ≠ .encrypted .keyIssued) :
    (desk.act gateway act).2.entropy = gateway.entropy ∧
      (desk.calls gateway act).filterMap Call.staged? = [] ∧
        desk.issuedSize? gateway act = none := by
  obtain ⟨entropy, generation⟩ := (desk.moves_act gateway act).stagesNothing other
  refine ⟨entropy, ?_, ?_⟩
  · cases act with
    | occurs | shutdown => rfl
    | attach handle => exact Gateway.stagings_callsFor generation
    | clear handle payload =>
        have same : (gateway.attend handle fun party =>
            desk.handleClear party payload).2.staged.generation = _ := generation
        exact Gateway.stagings_callsFor same
    | encrypted handle payload =>
        have same : (gateway.attend handle fun party =>
            desk.handleEncrypted party payload).2.staged.generation = _ := generation
        exact Gateway.stagings_callsFor same
  · cases act with
    | occurs | shutdown | attach | clear => rfl
    | encrypted handle payload => exact if_neg other

section Run

variable (desk) {position : Nat} {act : Act}

theorem offset_succ (found : acts[position]? = some act) :
    desk.offset start acts (position + 1) = desk.offset start acts position +
      (desk.issuedSize? (desk.stateAt start acts position) act).getD 0 := by
  rw [offset, List.take_add_one, found, Option.toList_some, issuedSizes, gather_append,
    List.sum_append]
  refine congrArg (_ + ·) ?_
  change (desk.issuedSize? (desk.stateAt start acts position) act).toList.sum = _
  cases desk.issuedSize? (desk.stateAt start acts position) act <;> simp

theorem offset_succ_of_none (absent : acts[position]? = none) :
    desk.offset start acts (position + 1) = desk.offset start acts position := by
  simp [offset, List.take_add_one, absent]

theorem offset_mono {earlier later : Nat} (order : earlier ≤ later) :
    desk.offset start acts earlier ≤ desk.offset start acts later := by
  induction order with
  | refl => exact Nat.le_refl _
  | @step later order induction =>
      refine Nat.le_trans induction ?_
      cases found : acts[later]? with
      | none => exact Nat.le_of_eq (desk.offset_succ_of_none start acts found).symm
      | some act =>
          rw [Nat.succ_eq_add_one, offset_succ desk start acts found]
          exact Nat.le_add_right _ _

/-- The random source has handed out just the keys that were issued. -/
theorem entropy_stateAt (stream : Nat → UInt8) (source : start.entropy = { byte := stream })
    (position : Nat) : (desk.stateAt start acts position).entropy =
      { byte := stream, drawn := desk.offset start acts position } := by
  induction position with
  | zero => exact source
  | succ position induction =>
      cases found : acts[position]? with
      | none =>
          rw [stateAt_succ_of_none desk start acts found, induction,
            offset_succ_of_none desk start acts found]
      | some act =>
          rw [stateAt_succ desk start acts found, offset_succ desk start acts found]
          by_cases issued :
              (desk.act (desk.stateAt start acts position) act).1 = .encrypted .keyIssued
          · obtain ⟨target, key, -, size, drawn⟩ := issuesPiece_of_keyIssued induction issued
            rw [size, drawn, Option.getD_some]
          · obtain ⟨entropy, -, size⟩ := idle_of_not_keyIssued issued
            rw [size, entropy, induction, Option.getD_none, Nat.add_zero]

end Run

/-- How a run cuts a stream into keys. -/
structure CutsKeys (desk : Desk) (stream : Nat → UInt8) (start : Gateway) (acts : List Act) :
    Prop where
  /-- By any position the keys issued before have been drawn, and nothing else. -/
  drawn : ∀ position, (desk.stateAt start acts position).entropy =
    { byte := stream, drawn := desk.offset start acts position }
  /-- An act that issues a key issues the piece of the stream right behind the keys before. -/
  issued : ∀ position act, acts[position]? = some act →
    (desk.act (desk.stateAt start acts position) act).1 = .encrypted .keyIssued →
      ∃ target key, desk.IssuesPiece stream (desk.stateAt start acts position)
          (desk.offset start acts position) act target key ∧
        desk.offset start acts (position + 1) = desk.offset start acts position + key.size ∧
          ∀ later, position < later →
            desk.offset start acts position + key.size ≤ desk.offset start acts later
  /-- Any other act draws and stages nothing. -/
  idle : ∀ position act, acts[position]? = some act →
    (desk.act (desk.stateAt start acts position) act).1 ≠ .encrypted .keyIssued →
      (desk.stateAt start acts (position + 1)).entropy =
          (desk.stateAt start acts position).entropy ∧
        (desk.calls (desk.stateAt start acts position) act).filterMap Call.staged? = [] ∧
          desk.offset start acts (position + 1) = desk.offset start acts position

/-- Keys are consecutive pieces of the random stream, one for each key that is issued. -/
theorem cutsKeys_run (desk : Desk) (stream : Nat → UInt8) (expiry : Nat) (acts : List Act) :
    desk.CutsKeys stream (.fresh { byte := stream } expiry) acts := by
  have drawn := desk.entropy_stateAt (.fresh { byte := stream } expiry) acts stream rfl
  refine ⟨drawn, fun position act found issued => ?_, fun position act found other => ?_⟩
  · obtain ⟨target, key, piece, size, -⟩ := issuesPiece_of_keyIssued (drawn position) issued
    have next := desk.offset_succ (.fresh { byte := stream } expiry) acts found
    rw [size, Option.getD_some] at next
    exact ⟨target, key, piece, next, fun later order => next ▸ desk.offset_mono _ acts order⟩
  · obtain ⟨entropy, unstaged, size⟩ := idle_of_not_keyIssued other
    have next := desk.offset_succ (.fresh { byte := stream } expiry) acts found
    rw [size, Option.getD_none, Nat.add_zero] at next
    exact ⟨by rw [stateAt_succ desk _ acts found, entropy], unstaged, next⟩

end Desk

end PadRelay
