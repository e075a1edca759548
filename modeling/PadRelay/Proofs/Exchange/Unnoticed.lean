import PadRelay.Proofs.Exchange.Calls
import PadRelay.Proofs.Exchange.Reading

/-!
# A staged key goes unnoticed

A client that has not switched to its staged key cannot tell that there is one. Whatever it sends
that is no acknowledgement under the staged or the retired key is passed on to the active key, and
from there on the handler looks at no other key. So it answers as if the other two were gone, and
the staged key stays in place.
-/

namespace PadRelay

namespace Gateway

/-- The gateway without the staged and the retired key of an identity. -/
def unstaged (gateway : Gateway) (identity : Identity) : Gateway :=
  { gateway with
    staged := { gateway.staged with
      entries := gateway.staged.entries.erase identity
      retired := gateway.staged.retired.erase identity } }

/-- Two gateways have the same connections and the same active keys. -/
structure Mirrors (left right : Gateway) : Prop where
  active : left.active = right.active
  connections : left.connections = right.connections

namespace Mirrors

variable {left middle right : Gateway}

theorem refl (gateway : Gateway) : gateway.Mirrors gateway := ⟨rfl, rfl⟩

theorem symm (mirrors : left.Mirrors right) : right.Mirrors left :=
  ⟨mirrors.active.symm, mirrors.connections.symm⟩

theorem trans (first : left.Mirrors middle) (second : middle.Mirrors right) : left.Mirrors right :=
  ⟨first.active.trans second.active, first.connections.trans second.connections⟩

theorem of_count (gateway : Gateway) (family : Family) (event : Event) :
    gateway.Mirrors (gateway.count family event) := by
  constructor <;> simp [Gateway.count]

theorem count (mirrors : left.Mirrors right) (family : Family) (event : Event) :
    (left.count family event).Mirrors (right.count family event) :=
  ((of_count left family event).symm.trans mirrors).trans (of_count right family event)

theorem runHook (mirrors : left.Mirrors right) (hook : Hook) :
    (left.runHook hook).Mirrors (right.runHook hook) := by
  refine ⟨?_, by simpa using mirrors.connections⟩
  cases hook with
  | dropKeys identity => exact congrArg (Table.erase · identity) mirrors.active
  | vacate | forget => simpa [Gateway.runHook] using mirrors.active

theorem runHooks (mirrors : left.Mirrors right) (hooks : List Hook) :
    (left.runHooks hooks).Mirrors (right.runHooks hooks) := by
  induction hooks generalizing left right with
  | nil => exact mirrors
  | cons hook hooks induction => exact induction (mirrors.runHook hook)

theorem settle (mirrors : left.Mirrors right) (handle : Handle) (connection : Connection Hook)
    (due : List Hook) :
    (left.settle handle connection due).Mirrors (right.settle handle connection due) := by
  have replaced : Mirrors
      { left with connections := left.connections.insert handle connection }
      { right with connections := right.connections.insert handle connection } :=
    ⟨mirrors.active, congrArg (Table.insert · handle connection) mirrors.connections⟩
  exact replaced.runHooks due

theorem send (mirrors : left.Mirrors right) (handle : Handle) (payload : Bytes) :
    (left.send handle payload).1 = (right.send handle payload).1 ∧
      (left.send handle payload).2.Mirrors (right.send handle payload).2 := by
  simp only [Gateway.send, mirrors.connections]
  cases right.connections.get? handle with
  | none => exact ⟨rfl, mirrors⟩
  | some connection => exact ⟨rfl, mirrors.settle handle _ _⟩

theorem sealFor (mirrors : left.Mirrors right) (family : Family) (identity : Identity)
    (payload : Bytes) :
    (left.sealFor family identity payload).1 = (right.sealFor family identity payload).1 ∧
      (left.sealFor family identity payload).2.Mirrors
        (right.sealFor family identity payload).2 := by
  simp only [Gateway.sealFor, mirrors.active]
  cases right.active.get? identity with
  | none => exact ⟨rfl, mirrors⟩
  | some key => exact ⟨rfl, mirrors.count family .encrypted⟩

variable {desk : Desk} {party : Party}

theorem perform {request : Call} (mirrors : left.Mirrors right)
    (call : desk.ReadCall party request) :
    (left.perform request).1 = (right.perform request).1 ∧
      (left.perform request).2.Mirrors (right.perform request).2 := by
  cases call with
  | active => exact ⟨congrArg (Table.get? · party.id) mirrors.active, mirrors⟩
  | deactivate =>
      exact ⟨congrArg (Table.get? · party.id) mirrors.active,
        congrArg (Table.erase · party.id) mirrors.active, mirrors.connections⟩
  | decrypted | deleted => exact ⟨rfl, mirrors.count desk.family _⟩
  | encode keyless => exact ⟨rfl, mirrors⟩
  | sealFor plain => exact mirrors.sealFor desk.family party.id plain
  | send sealed => exact mirrors.send party.handle sealed

/-- What is read under the active key alone is read in the same way on both sides. -/
theorem run {α : Type} {script : Script α} (mirrors : left.Mirrors right)
    (reads : script.Only (desk.ReadCall party)) :
    (script.run left).1 = (script.run right).1 ∧ script.calls left = script.calls right ∧
      (script.run left).2.Mirrors (script.run right).2 := by
  induction script generalizing left right with
  | done value => exact ⟨rfl, rfl, mirrors⟩
  | call request next induction =>
      obtain ⟨same, after⟩ := mirrors.perform reads.1
      rw [Script.run_call, Script.run_call, Script.calls, Script.calls, ← same]
      obtain ⟨result, calls, last⟩ := induction _ after (reads.2 _)
      exact ⟨result, congrArg (request :: ·) calls, last⟩

end Mirrors

/-- A connection takes what it is handed. -/
def Accepts (gateway : Gateway) (handle : Handle) : Prop :=
  ∀ payload, (gateway.send handle payload).1 = true

theorem Accepts.congr {before after : Gateway} {handle : Handle} (accepts : before.Accepts handle)
    (same : after.connections = before.connections) : after.Accepts handle := by
  intro payload
  rw [← accepts payload, send, send, same]
  split <;> rfl

/-- A recording connection that is open takes what it is handed. -/
theorem accepts_of_mouthOf? {gateway : Gateway} {handle : Handle} {sent : List Bytes}
    (mouth : gateway.mouthOf? handle = some ⟨.record sent false, true⟩) :
    gateway.Accepts handle := by
  intro payload
  rw [mouthOf?, Option.map_eq_some_iff] at mouth
  obtain ⟨connection, found, shape⟩ := mouth
  simp only [Connection.mouth, Mouth.mk.injEq] at shape
  have closed : connection.life.closed = false := by
    simpa [Connection.isOpen, Lifecycle.isOpen] using shape.2
  simp [send, found, Connection.send, shape.1, closed]
  rfl

/-- Nothing has happened to the staged keys. -/
structure Rests (before after : Gateway) : Prop where
  staged : after.staged = before.staged
  now : after.now = before.now

theorem Rests.trans {before middle after : Gateway} (first : before.Rests middle)
    (second : middle.Rests after) : before.Rests after :=
  ⟨second.staged.trans first.staged, second.now.trans first.now⟩

theorem rests_count (gateway : Gateway) (family : Family) (event : Event) :
    gateway.Rests (gateway.count family event) := by
  constructor <;> simp [count]

/-- A payload that is taken makes no hook run. -/
theorem send_of_taken {gateway : Gateway} {handle : Handle} {payload : Bytes}
    (taken : (gateway.send handle payload).1 = true) :
    ∃ connections, (gateway.send handle payload).2 = { gateway with connections } := by
  rw [send] at taken ⊢
  split
  · exact ⟨gateway.connections, rfl⟩
  · next connection found =>
      rw [found] at taken
      have quiet : (connection.send payload).2.2 = [] := Connection.due_of_send_isOk taken
      simp only [settle, quiet]
      exact ⟨_, rfl⟩

theorem rests_send {gateway : Gateway} {handle : Handle} {payload : Bytes}
    (taken : (gateway.send handle payload).1 = true) :
    gateway.Rests (gateway.send handle payload).2 := by
  obtain ⟨connections, after⟩ := send_of_taken taken
  rw [after]
  exact ⟨rfl, rfl⟩

end Gateway

namespace Desk

open Script (ask)

variable {desk : Desk} {party : Party} {gateway : Gateway}

theorem ReadCall.rests {request : Call} (call : desk.ReadCall party request)
    (unsent : request.sent? = none) :
    gateway.Rests (gateway.perform request).2 ∧
      (gateway.perform request).2.connections = gateway.connections := by
  cases call with
  | active | encode | deactivate => exact ⟨⟨rfl, rfl⟩, rfl⟩
  | decrypted | deleted => exact ⟨gateway.rests_count _ _, by simp [Gateway.perform, Gateway.count]⟩
  | sealFor plain =>
      simp only [Gateway.perform, Gateway.sealFor]
      split
      · exact ⟨gateway.rests_count _ _, by simp [Gateway.count]⟩
      · exact ⟨⟨rfl, rfl⟩, rfl⟩
  | send sealed => cases unsent

/-- A handler that sends at most once, to a connection that takes it, does nothing to the staged
keys. After its one message the connection may be full, but then nothing more is sent. -/
theorem rests_run {α : Type} {script : Script α} (reads : script.Only (desk.ReadCall party))
    (once : (script.sent gateway).length ≤ 1)
    (accepts : script.sent gateway = [] ∨ gateway.Accepts party.handle) :
    gateway.Rests (script.run gateway).2 := by
  induction script generalizing gateway with
  | done value => exact ⟨rfl, rfl⟩
  | call request next induction =>
      rw [Script.run_call]
      have calls : (Script.call request next).sent gateway = request.sent?.toList ++
          (next (gateway.perform request).1).sent (gateway.perform request).2 := by
        cases found : request.sent? <;> simp [Script.sent, Script.calls, found]
      rw [calls] at once accepts
      cases sends : request.sent? with
      | none =>
          rw [sends] at once accepts
          obtain ⟨rests, same⟩ : gateway.Rests (gateway.perform request).2 ∧ _ := reads.1.rests sends
          exact rests.trans (induction _ (reads.2 _) once
            (accepts.imp_right fun accepts => accepts.congr same))
      | some sending =>
          rw [sends] at once accepts
          cases reads.1 with
          | send sealed =>
              have last : (next (gateway.perform (.send party.handle sealed)).1).sent
                  (gateway.perform (.send party.handle sealed)).2 = [] := by
                simpa using once
              have accepts : gateway.Accepts party.handle := by simpa using accepts
              have rest := induction _ (reads.2 _) (by rw [last]; exact Nat.zero_le _) (.inl last)
              exact (Gateway.rests_send (accepts sealed)).trans rest
          | _ => cases sends

variable (desk party gateway)

theorem length_sent_answer (message : Message) (outcome : ClearOutcome) :
    ((desk.respond party message >>= fun _ => pure outcome).sent gateway).length ≤ 1 := by
  rw [Script.sent_bind, Script.sent_pure, List.append_nil]
  exact Nat.le_refl 1

theorem length_sent_clearRequest (request : KeyRequest) :
    ((desk.clearRequest party request).sent gateway).length ≤ 1 := by
  rw [clearRequest]
  split
  · split
    · exact desk.length_sent_answer party gateway _ _
    · rw [Script.sent_bind, (desk.silent_deleteKey party.id).sent_eq_nil, List.nil_append]
      split
      · exact desk.length_sent_answer party _ _ _
      · exact desk.length_sent_answer party _ _ _
  · exact desk.length_sent_answer party gateway _ _
  · exact desk.length_sent_answer party gateway _ _

theorem length_sent_readPlain (plain : Bytes) :
    ((desk.readPlain party plain).sent gateway).length ≤ 1 := by
  rw [readPlain]
  split
  · exact desk.length_sent_clearRequest party gateway _
  · exact desk.length_sent_answer party gateway _ _
  · exact desk.length_sent_answer party gateway _ _
  · split
    · exact desk.length_sent_answer party gateway _ _
    · exact Nat.zero_le _

/-- A message that is read under the active key is answered at most once. -/
theorem length_sent_readActive (payload : Bytes) :
    ((desk.readActive party payload).sent gateway).length ≤ 1 := by
  rw [readActive, Script.sent_bind, Script.sent_ask]
  split
  · exact desk.length_sent_readPlain party _ _
  · exact desk.length_sent_readPlain party _ _

/-- A message is passed on to the active key: by then nothing has been sent, and connections, active
keys and the staged key in time are what they were. -/
structure PassesOn (payload : Bytes) (script : Script ClearOutcome) (before middle : Gateway) :
    Prop where
  mirrors : before.Mirrors middle
  live : middle.staged.live middle.now party.id = before.staged.live before.now party.id
  run : script.run before = (desk.readActive party payload).run middle
  sent : script.sent before = (desk.readActive party payload).sent middle

/-- A payload acknowledges no key when it is opened with the staged key of an identity, overdue or
not, or with its retired key. -/
structure Unread (identity : Identity) (payload : Bytes) : Prop where
  staged : ∀ staging, gateway.staged.entries.get? identity = some staging →
    desk.ackTarget? (Cipher.transform staging.held.key payload) = none
  retired : ∀ held, gateway.staged.retired.get? identity = some held →
    desk.ackTarget? (Cipher.transform held.key payload) = none

variable {desk party gateway} {payload : Bytes}

theorem passesOn_readRetired (unread : ∀ held,
      gateway.staged.retired.get? party.id = some held →
        desk.ackTarget? (Cipher.transform held.key payload) = none) :
    ∃ middle, desk.PassesOn party payload (desk.readRetired party payload) gateway middle := by
  cases found : gateway.staged.retired.get? party.id with
  | none =>
      refine ⟨gateway, .refl gateway, rfl, ?_, ?_⟩
      · rw [readRetired, Script.run_bind, Script.run_ask]
        simp only [Gateway.perform, found, Option.map_none]
      · rw [readRetired, Script.sent_bind, Script.run_ask]
        simp only [Gateway.perform, found, Option.map_none]
        rfl
  | some held =>
      have rests := gateway.rests_count desk.family .decrypted
      refine ⟨gateway.count desk.family .decrypted, .of_count gateway _ _, ?_, ?_, ?_⟩
      · rw [rests.staged, rests.now]
      · rw [readRetired, Script.run_bind, Script.run_ask]
        simp only [Gateway.perform, found, Option.map_some]
        rw [Script.run_bind, run_openWith, unread held found]
      · rw [readRetired, Script.sent_bind, Script.run_ask]
        simp only [Gateway.perform, found, Option.map_some]
        rw [Script.sent_bind, run_openWith, unread held found]
        rfl

theorem PassesOn.of_mirrors {early later : Script ClearOutcome} {before middle last : Gateway}
    (passes : desk.PassesOn party payload later middle last) (mirrors : before.Mirrors middle)
    (live : middle.staged.live middle.now party.id = before.staged.live before.now party.id)
    (run : early.run before = later.run middle) (sent : early.sent before = later.sent middle) :
    desk.PassesOn party payload early before last :=
  ⟨mirrors.trans passes.mirrors, passes.live.trans live, run.trans passes.run,
    sent.trans passes.sent⟩

/-- The staged key is looked at. An overdue one has been retired after that, but is not acknowledged
either. -/
theorem exists_seen (unread : desk.Unread gateway party.id payload) :
    ∃ seen, gateway.perform (.staged party.id) =
        (gateway.staged.live gateway.now party.id, seen) ∧
      gateway.Mirrors seen ∧
      seen.staged.live seen.now party.id = gateway.staged.live gateway.now party.id ∧
      ∀ held, seen.staged.retired.get? party.id = some held →
        desk.ackTarget? (Cipher.transform held.key payload) = none := by
  refine ⟨{ gateway with staged := gateway.staged.expireDue gateway.now party.id }, ?_, ⟨rfl, rfl⟩,
    gateway.staged.live_expireDue gateway.now party.id party.id, fun held retired => ?_⟩
  · simp [Gateway.perform, Gateway.stagedKey, Gateway.onStaged, ← StagedKeys.get_fst,
      ← StagedKeys.get_snd]
  · rcases StagedKeys.retired_or_staged_of_expireDue retired with before | ⟨staging, found, rfl⟩
    · exact unread.retired held before
    · exact unread.staged staging found

/-- A message that acknowledges neither the staged nor the retired key is passed on. -/
theorem passesOn_readStaged (unread : desk.Unread gateway party.id payload) :
    ∃ middle, desk.PassesOn party payload (desk.readStaged party payload) gateway middle := by
  obtain ⟨seen, looked, same, still, late⟩ := exists_seen unread
  cases live : gateway.staged.live gateway.now party.id with
  | none =>
      rw [live] at looked
      obtain ⟨middle, passes⟩ := passesOn_readRetired late
      refine ⟨middle, passes.of_mirrors same still ?_ ?_⟩
      · rw [readStaged, Script.run_bind, Script.run_ask, looked]
      · rw [readStaged, Script.sent_bind, Script.run_ask, looked]
        rfl
  | some held =>
      rw [live] at looked
      have missed : desk.ackTarget? (Cipher.transform held.key payload) = none := by
        rw [StagedKeys.live, Option.map_eq_some_iff] at live
        obtain ⟨staging, found, rfl⟩ := live
        exact unread.staged staging (Option.eq_some_of_filter_eq_some found)
      have rests : seen.Rests ((seen.count desk.family .decrypted).count desk.family .ambiguous) :=
        (seen.rests_count _ _).trans (Gateway.rests_count _ _ _)
      have mirrors : seen.Mirrors
          ((seen.count desk.family .decrypted).count desk.family .ambiguous) :=
        (Gateway.Mirrors.of_count seen _ _).trans (.of_count _ _ _)
      obtain ⟨middle, passes⟩ := passesOn_readRetired (rests.staged ▸ late)
      refine ⟨middle, passes.of_mirrors (same.trans mirrors) ?_ ?_ ?_⟩
      · rw [rests.staged, rests.now, still]
      · rw [readStaged, Script.run_bind, Script.run_ask, looked]
        dsimp only
        rw [Script.run_bind, run_openWith, missed]
        rfl
      · rw [readStaged, Script.sent_bind, Script.run_ask, looked]
        dsimp only
        rw [Script.sent_bind, run_openWith, missed]
        rfl

variable (desk party gateway payload) in
/-- A refusal is counted and nothing else. -/
theorem mirrors_handleClear :
    ((desk.readStaged party payload).run gateway).2.Mirrors
        ((desk.handleClear party payload).run gateway).2 ∧
      ((desk.readStaged party payload).run gateway).2.Rests
        ((desk.handleClear party payload).run gateway).2 ∧
      ((desk.handleClear party payload).run gateway).1 =
        ((desk.readStaged party payload).run gateway).1 ∧
      (desk.handleClear party payload).sent gateway =
        (desk.readStaged party payload).sent gateway := by
  rw [handleClear, Script.run_bind, Script.sent_bind]
  split
  · exact ⟨.of_count _ _ _, Gateway.rests_count _ _ _, rfl, List.append_nil _⟩
  · exact ⟨.refl _, ⟨rfl, rfl⟩, rfl, List.append_nil _⟩

/-- What handling a message comes to when the message is passed on to the active key. -/
theorem PassesOn.handleClear {middle : Gateway}
    (passes : desk.PassesOn party payload (desk.readStaged party payload) gateway middle) :
    ((desk.handleClear party payload).run gateway).1 =
        ((desk.readActive party payload).run middle).1 ∧
      (desk.handleClear party payload).sent gateway =
        (desk.readActive party payload).sent middle ∧
      ((desk.readActive party payload).run middle).2.Mirrors
        ((desk.handleClear party payload).run gateway).2 ∧
      ((desk.readActive party payload).run middle).2.Rests
        ((desk.handleClear party payload).run gateway).2 := by
  obtain ⟨mirrors, rests, outcome, sent⟩ :=
    mirrors_handleClear desk party gateway payload
  rw [passes.run] at mirrors rests outcome
  exact ⟨outcome, sent.trans passes.sent, mirrors, rests⟩

variable (desk party gateway payload)

/-- Handling a message does what it would do if the staged and the retired key of its channel were
gone. -/
structure Overlooks : Prop where
  /-- The outcome is the same. -/
  outcome : ((desk.handleClear party payload).run gateway).1 =
    ((desk.handleClear party payload).run (gateway.unstaged party.id)).1
  /-- The same is sent. -/
  sent : (desk.handleClear party payload).sent gateway =
    (desk.handleClear party payload).sent (gateway.unstaged party.id)
  /-- The connections are the same afterwards. -/
  connections : ((desk.handleClear party payload).run gateway).2.connections =
    ((desk.handleClear party payload).run (gateway.unstaged party.id)).2.connections
  /-- The active keys are the same afterwards. -/
  active : ((desk.handleClear party payload).run gateway).2.active =
    ((desk.handleClear party payload).run (gateway.unstaged party.id)).2.active
  /-- If the channel takes what it is sent, its staged key in time stays in place. -/
  staged : gateway.Accepts party.handle →
    ((desk.handleClear party payload).run gateway).2.staged.live
        ((desk.handleClear party payload).run gateway).2.now party.id =
      gateway.staged.live gateway.now party.id

/-- Until it is acknowledged, a staged key goes unnoticed: whatever arrives that is no
acknowledgement under the staged or the retired key of its channel, the handler does what it would
do without these keys, on every gateway. -/
theorem overlooks_of_unread (unread : desk.Unread gateway party.id payload) :
    desk.Overlooks party gateway payload := by
  have empty : desk.Unread (gateway.unstaged party.id) party.id payload := by
    constructor
    · intro staging found
      cases (Table.get?_erase_self _ _).symm.trans found
    · intro held found
      cases (Table.get?_erase_self _ _).symm.trans found
  have reads := desk.readCalls_readActive party payload
  obtain ⟨middle, passes⟩ := passesOn_readStaged unread
  obtain ⟨other, also⟩ := passesOn_readStaged empty
  have erased : gateway.Mirrors (gateway.unstaged party.id) := ⟨rfl, rfl⟩
  have mirrors : middle.Mirrors other := (passes.mirrors.symm.trans erased).trans also.mirrors
  obtain ⟨result, calls, after⟩ := mirrors.run reads
  obtain ⟨outcome, sent, last, rests⟩ := passes.handleClear
  obtain ⟨other_outcome, other_sent, other_last, -⟩ := also.handleClear
  have same := (last.symm.trans after).trans other_last
  refine ⟨?_, ?_, same.connections, same.active, fun accepts => ?_⟩
  · rw [outcome, result, other_outcome]
  · rw [sent, other_sent, Script.sent, calls, Script.sent]
  · have once := desk.length_sent_readActive party middle payload
    have still := accepts.congr passes.mirrors.connections.symm
    have kept := rests_run reads once (.inr still)
    rw [rests.staged, rests.now, kept.staged, kept.now, passes.live]

end Desk

/-- In the sample the client has been issued a key and sends a greeting before it acknowledges. -/
theorem Desk.sample_greeting_overlooks :
    let gateway := Desk.run {} Sample.start (Sample.acts.take 4)
    gateway.staged.live gateway.now 1 = some ⟨Sample.key, 0⟩ ∧
      Desk.Unread {} gateway 1 [104, 105] ∧ gateway.Accepts 0 ∧
      Desk.Overlooks {} ⟨0, 1⟩ gateway [104, 105] := by
  intro gateway
  have entry : (gateway.staged.entries.get? 1).map (fun staging => staging.held.key) =
      some Sample.key := by decide +kernel
  have retired : gateway.staged.retired.get? 1 = none := by decide +kernel
  have unread : Desk.Unread {} gateway 1 [104, 105] := by
    constructor
    · intro staging found
      rw [found, Option.map_some, Option.some.injEq] at entry
      rw [entry]
      decide +kernel
    · intro held found
      cases retired.symm.trans found
  have mouth : gateway.mouthOf? 0 =
      some ⟨.record [Codec.json.encode (.welcome 1)] false, true⟩ := by decide +kernel
  exact ⟨by decide +kernel, unread, Gateway.accepts_of_mouthOf? mouth,
    Desk.overlooks_of_unread {} ⟨0, 1⟩ gateway [104, 105] unread⟩

end PadRelay
