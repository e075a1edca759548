import PadRelay.Proofs.Exchange.Balance
import PadRelay.Proofs.Exchange.Reach
import PadRelay.Proofs.Exchange.Reading
import PadRelay.Proofs.Gateway.Booking
import PadRelay.Proofs.Gather

/-!
# The accounts of the exchange

A desk that has the keys to itself counts a verdict for each of its reports and none besides. A key
is deleted or still active only if it was activated before, and it was activated, has expired or is
still staged only if it was issued before.
-/

namespace PadRelay

/-- The key that a message on a clear channel has moved. -/
def ClearOutcome.moved : ClearOutcome → List Event
  | .activated => [.activated]
  | .deleted => [.deleted]
  | .rejected _ | .application _ => []

/-- The key that the request of an encrypted channel has moved. -/
def EncryptedOutcome.moved : EncryptedOutcome → List Event
  | .keyIssued => [.issued]
  | .keyDeleted => [.deleted]
  | .rejected _ | .dropped _ => []

namespace Report

/-- Whether something was refused or dropped. -/
def isRefusal : Report → Bool
  | .silent => false
  | .clear outcome => outcome.isRejected
  | .encrypted outcome => outcome.isFailure

def verdicts (report : Report) : List Event :=
  (match report with
    | .silent => []
    | .clear outcome => outcome.moved
    | .encrypted outcome => outcome.moved) ++
  if report.isRefusal then [.rejected] else []

/-- Every verdict is told of by reports of one kind, deletions by those of two kinds. -/
theorem count_verdicts (reports : List Report) :
    (reports.flatMap verdicts).count .issued = reports.count (.encrypted .keyIssued) ∧
      (reports.flatMap verdicts).count .activated = reports.count (.clear .activated) ∧
      (reports.flatMap verdicts).count .deleted =
        reports.count (.clear .deleted) + reports.count (.encrypted .keyDeleted) ∧
      (reports.flatMap verdicts).count .rejected = reports.countP isRefusal := by
  induction reports with
  | nil => simp
  | cons report reports induction =>
      obtain ⟨issued, activated, deleted, rejected⟩ := induction
      simp only [List.flatMap_cons, List.count_append, List.count_cons, List.countP_cons, issued,
        activated, deleted, rejected]
      cases report with
      | silent => simp [verdicts, isRefusal]
      | clear outcome =>
          cases outcome <;>
            simp [verdicts, isRefusal, ClearOutcome.moved, ClearOutcome.isRejected] <;> omega
      | encrypted outcome =>
          cases outcome <;>
            simp [verdicts, isRefusal, EncryptedOutcome.moved, EncryptedOutcome.isFailure] <;> omega

end Report

namespace Desk

open Script (ask)

variable (desk : Desk) (party : Party) (payload : Bytes) {booked : List Event}

theorem quiet_sendClear : (desk.sendClear party payload).Only (Call.IsQuiet desk.family) := by
  refine Script.Only.bind (.ask fun _ counts => .inl counts.2) fun sealed => ?_
  exact Script.Only.bind (.ask fun _ => False.elim) fun _ => trivial

theorem quiet_respond (message : Message) :
    (desk.respond party message).Only (Call.IsQuiet desk.family) := by
  refine Script.Only.bind (.ask fun _ => False.elim) fun encoded => ?_
  cases encoded with
  | ok plain => exact desk.quiet_sendClear party plain
  | error error => trivial

theorem quiet_deliver (family : Family) :
    (deliver party payload).Only (Call.IsQuiet family) :=
  Script.Only.bind (.ask fun _ => False.elim) fun _ => trivial

theorem quiet_reply (message : Message) :
    (desk.reply party message).Only (Call.IsQuiet desk.family) := by
  refine Script.Only.bind (.ask fun _ => False.elim) fun encoded => ?_
  cases encoded with
  | ok plain => exact quiet_deliver party plain desk.family
  | error error => trivial

theorem quiet_openWith (key : Key) :
    (desk.openWith key payload).Only (Call.IsQuiet desk.family) :=
  Script.Only.bind (.ask fun _ counts => .inr counts.2.symm) fun _ => trivial

theorem quiet_occupy (identity : Identity) (role : Role) :
    (Script.occupy desk.family identity role party).Only (Call.IsQuiet desk.family) := by
  refine Script.Only.bind (.ask fun _ => False.elim) fun held => ?_
  split
  · trivial
  · exact .ask fun _ => False.elim

theorem quiet_attach : (desk.attach party).Only (Call.IsQuiet desk.family) :=
  Script.Only.bind (desk.quiet_occupy party party.id .clear) fun _ =>
    Script.Only.bind (.ask fun _ => False.elim) fun _ => desk.quiet_reply party _

theorem quiet_setEncrypted (target : Identity) :
    (Script.setEncrypted desk.family target party).Only (Call.IsQuiet desk.family) := by
  refine Script.Only.bind (.ask fun _ => False.elim) fun secure => ?_
  split
  · exact Script.Only.bind (desk.quiet_occupy party target .encrypted) fun _ => trivial
  · trivial

theorem books_deleteKey (identity : Identity) :
    (desk.deleteKey identity).Books desk.family booked fun code =>
      booked ++ if code.isOk then [.deleted] else [] := by
  refine .bind (.ask fun _ => False.elim) fun key => ?_
  cases key with
  | some key => exact .bind (.count rfl) fun _ => .pure rfl
  | none => exact .pure (List.append_nil booked)

section Clear

theorem books_answer (message : Message) (outcome : ClearOutcome) (moved : outcome.moved = booked) :
    (desk.respond party message >>= fun _ => pure outcome).Books desk.family booked
      ClearOutcome.moved :=
  .bind (.quiet (desk.quiet_respond party message)) fun _ => .pure moved

theorem books_activate (target : Identity) (expected : StagedKey) :
    (desk.activate party target expected).Books desk.family [] ClearOutcome.moved := by
  rw [activate]
  split
  · exact desk.books_answer party _ _ rfl
  · refine .bind (.ask fun _ => False.elim) fun taken => ?_
    cases taken with
    | none => exact desk.books_answer party _ _ rfl
    | some key =>
        exact .bind (.ask fun _ => False.elim) fun _ =>
          .bind (.count rfl) fun _ => desk.books_answer party _ .activated rfl

theorem books_clearRequest (request : KeyRequest) :
    (desk.clearRequest party request).Books desk.family [] ClearOutcome.moved := by
  rw [clearRequest]
  split
  · split
    · exact desk.books_answer party _ _ rfl
    · refine .bind (desk.books_deleteKey party.id) fun code => ?_
      cases code.isOk with
      | true => exact desk.books_answer party _ .deleted rfl
      | false => exact desk.books_answer party _ _ rfl
  · exact desk.books_answer party _ _ rfl
  · exact desk.books_answer party _ _ rfl

theorem books_readPlain :
    (desk.readPlain party payload).Books desk.family [] ClearOutcome.moved := by
  rw [readPlain]
  split
  · exact desk.books_clearRequest party _
  · exact desk.books_answer party _ _ rfl
  · exact desk.books_answer party _ _ rfl
  · split
    · exact desk.books_answer party _ _ rfl
    · exact .pure rfl

theorem books_readActive :
    (desk.readActive party payload).Books desk.family [] ClearOutcome.moved := by
  refine .bind (.ask fun _ => False.elim) fun key => ?_
  cases key with
  | some key =>
      exact .bind (.quiet (desk.quiet_openWith payload key)) fun plain =>
        desk.books_readPlain party plain
  | none => exact desk.books_readPlain party payload

theorem books_readRetired :
    (desk.readRetired party payload).Books desk.family [] ClearOutcome.moved := by
  refine .bind (.ask fun _ => False.elim) fun key => ?_
  cases key with
  | some key =>
      refine .bind (.quiet (desk.quiet_openWith payload key)) fun plain => ?_
      split
      · exact desk.books_answer party _ _ rfl
      · exact desk.books_readActive party payload
  | none => exact desk.books_readActive party payload

/-- A miss is counted right after its opening, so both are booked in one step. -/
theorem books_readStaged :
    (desk.readStaged party payload).Books desk.family [] ClearOutcome.moved := by
  refine .bind (.ask fun _ => False.elim) fun staged => ?_
  cases staged with
  | none => exact desk.books_readRetired party payload
  | some staged =>
      intro start gateway before
      dsimp only
      rw [Script.run_bind, run_openWith]
      split
      · exact desk.books_activate party _ staged start _
          (before.calm (.run gateway (desk.quiet_openWith payload staged.key)))
      · rw [Script.run_bind, Script.run_ask]
        exact desk.books_readRetired party payload start _
          (before.calm (.miss gateway desk.family))

theorem books_handleClear :
    (desk.handleClear party payload).Books desk.family [] fun outcome =>
      (Report.clear outcome).verdicts := by
  refine .bind (desk.books_readStaged party payload) fun outcome => ?_
  cases refused : outcome.isRejected with
  | true =>
      refine .bind (.count rfl) fun _ => .pure ?_
      simp [Report.verdicts, Report.isRefusal, refused]
  | false =>
      refine .pure ?_
      simp [Report.verdicts, Report.isRefusal, refused]

end Clear

section Encrypted

/-- The key that a request has moved, where an error is still to be answered. -/
def carried : Except RequestError EncryptedOutcome → List Event
  | .ok outcome => outcome.moved
  | .error _ => []

theorem books_refuse (code : Code) :
    (desk.refuse party code).Books desk.family [] EncryptedOutcome.moved :=
  .bind (.quiet (desk.quiet_reply party _)) fun _ => .pure rfl

theorem books_refused (code : Code) :
    (desk.refuse party code >>= fun outcome => pure (.ok outcome)).Books desk.family []
      carried :=
  .bind (desk.books_refuse party code) fun _ => .pure rfl

theorem books_issue (target : Identity) (size : Option UInt32) :
    (desk.issue party target size).Books desk.family [] carried := by
  rw [issue]
  split
  · exact desk.books_refused party _
  · refine .bind (.ask fun _ => False.elim) fun drawn => ?_
    cases drawn with
    | error error => exact .pure rfl
    | ok key =>
        refine .bind (.ask fun _ => False.elim) fun encoded => ?_
        cases encoded with
        | error error => exact .pure rfl
        | ok plain =>
            refine .bind (.ask fun _ => False.elim) fun _ => ?_
            refine .bind (.ask fun _ => False.elim) fun clear => ?_
            cases clear with
            | none =>
                exact .bind (.ask fun _ => False.elim) fun _ =>
                  desk.books_refused party _
            | some clear =>
                exact .bind (.count rfl) fun _ =>
                  .bind (.quiet (quiet_deliver party plain desk.family)) fun _ => .pure rfl

theorem books_revoke (target : Identity) :
    (desk.revoke party target).Books desk.family [] EncryptedOutcome.moved := by
  refine .bind (desk.books_deleteKey target) fun code => ?_
  cases code.isOk with
  | true =>
      refine .bind (.ask fun _ => False.elim) fun clear => ?_
      cases clear with
      | some clear =>
          exact .bind (.quiet (desk.quiet_respond clear _)) fun _ => .pure rfl
      | none => exact .pure rfl
  | false => exact .bind (.quiet (desk.quiet_reply party _)) fun _ => .pure rfl

theorem books_serve (function : KeyFunction) (target : Identity) (size : Option UInt32) :
    (desk.serve party function target size).Books desk.family [] carried := by
  refine .bind (.ask fun _ => False.elim) fun clear => ?_
  cases clear with
  | none => exact desk.books_refused party _
  | some clear =>
      refine .bind (.ask fun _ => False.elim) fun matched => ?_
      split
      · refine .bind (.quiet (desk.quiet_setEncrypted party target)) fun entered => ?_
        cases entered with
        | error error => exact .pure rfl
        | ok entered =>
            cases function with
            | new => exact desk.books_issue party target size
            | delete => exact .bind (desk.books_revoke party target) fun _ => .pure rfl
      · exact .pure rfl

theorem books_readRequest :
    (desk.readRequest party payload).Books desk.family [] carried := by
  rw [readRequest]
  split
  · refine .bind (.ask fun _ => False.elim) fun secure => ?_
    split
    · split
      · exact desk.books_refused party _
      · exact desk.books_refused party _
      · exact desk.books_serve party _ _ _
    · exact .pure rfl
  · exact .pure rfl

theorem books_handleEncrypted :
    (desk.handleEncrypted party payload).Books desk.family [] fun outcome =>
      (Report.encrypted outcome).verdicts := by
  have attempted : (desk.attempt party payload).Books desk.family [] EncryptedOutcome.moved := by
    refine .bind (desk.books_readRequest party payload) fun answered => ?_
    cases answered with
    | ok outcome => exact .pure rfl
    | error error => exact desk.books_refuse party _
  rw [handleEncrypted_eq]
  refine .bind attempted fun outcome => ?_
  rw [finish]
  cases failed : outcome.isFailure with
  | true =>
      refine .bind (.count rfl) fun _ => .bind (.ask fun _ => False.elim) fun _ => .pure ?_
      simp [Report.verdicts, Report.isRefusal, failed]
  | false =>
      refine .bind (.ask fun _ => False.elim) fun _ => .pure ?_
      simp [Report.verdicts, Report.isRefusal, failed]

end Encrypted

end Desk

namespace Gateway

variable (gateway : Gateway)

theorem Sheds.size_active_le {before after : Gateway} (sheds : before.Sheds after) :
    after.active.size ≤ before.active.size :=
  Table.size_le sheds.active

theorem size_active_promote_le (identity : Identity) (staging : Staging) :
    (gateway.promote identity staging).active.size ≤ gateway.active.size + 1 := by
  have others := (Sheds.deactivate gateway identity).size_active_le
  exact Nat.succ_le_succ others

theorem size_active_deactivate {identity : Identity} {key : Key}
    (active : gateway.active.get? identity = some key) :
    (gateway.deactivate identity).active.size + 1 = gateway.active.size :=
  Table.size_erase_of_get? _ active

end Gateway

/-- At least as many active keys have gone as were deleted, and at most as many have come as were
activated. -/
def Gateway.Holds (verdicts : List Event) (before after : Gateway) : Prop :=
  after.active.size + verdicts.count .deleted ≤ before.active.size + verdicts.count .activated

theorem Gateway.Holds.trans {verdicts later : List Event} {before middle after : Gateway}
    (first : before.Holds verdicts middle) (second : middle.Holds later after) :
    before.Holds (verdicts ++ later) after := by
  simp only [Holds, List.count_append] at first second ⊢
  omega

theorem ClearEffect.holds {party : Party} {before after : Gateway} {outcome : ClearOutcome}
    (effect : ClearEffect party before (outcome, after)) :
    before.Holds (Report.clear outcome).verdicts after := by
  cases effect with
  | idle quiet drifts =>
      have fewer := drifts.sheds.size_active_le
      cases outcome with
      | activated => exact absurd rfl quiet.1
      | deleted => exact absurd rfl quiet.2
      | rejected | application => exact fewer
  | activated first found inTime last =>
      refine Nat.le_trans last.sheds.size_active_le ?_
      refine Nat.le_trans (Gateway.size_active_promote_le _ _ _) ?_
      exact Nat.succ_le_succ first.sheds.size_active_le
  | deleted first active last =>
      refine Nat.le_trans (Nat.succ_le_succ last.sheds.size_active_le) ?_
      exact Nat.le_trans (Nat.le_of_eq (Gateway.size_active_deactivate _ active))
        first.sheds.size_active_le

theorem EncryptedEffect.holds {desk : Desk} {payload : Bytes} {before after : Gateway}
    {outcome : EncryptedOutcome}
    (effect : EncryptedEffect desk payload before (outcome, after)) :
    before.Holds (Report.encrypted outcome).verdicts after := by
  cases effect with
  | idle failure drifts =>
      have fewer := drifts.sheds.size_active_le
      cases outcome with
      | keyIssued | keyDeleted => cases failure
      | rejected | dropped => exact fewer
  | issued asked allowed first attached drawn last =>
      exact Nat.le_trans last.sheds.size_active_le first.sheds.size_active_le
  | deleted asked first active last =>
      refine Nat.le_trans (Nat.succ_le_succ last.sheds.size_active_le) ?_
      exact Nat.le_trans (Nat.le_of_eq (Gateway.size_active_deactivate _ active))
        first.sheds.size_active_le

theorem Gateway.waiting_sole (gateway : Gateway) (family : Family) :
    gateway.waiting (fun _ => family) family = gateway.staged.entries.size := by
  simp [waiting, StagedKeys.waiting, Table.filter, Table.size]

theorem Gateway.size_active_undergo_le (gateway : Gateway) (occurrence : Occurrence) :
    (gateway.undergo occurrence).active.size ≤ gateway.active.size := by
  cases occurrence with
  | closes handle => exact (Sheds.close gateway handle).size_active_le
  | _ => exact Nat.le_refl _

namespace Desk

variable (desk : Desk)

/-- Between two states a desk that has the keys to itself has booked the given verdicts, and the
keys that it holds go with them. -/
structure Accounted (verdicts : List Event) (before after : Gateway) : Prop where
  booked : before.Booked desk.family verdicts after
  holds : before.Holds verdicts after
  balances : before.Homed (fun _ => desk.family) →
    ∃ lapsed, before.Balances (fun _ => desk.family) lapsed after

theorem Accounted.trans {desk : Desk} {verdicts later : List Event}
    {before middle after : Gateway} (first : desk.Accounted verdicts before middle)
    (second : desk.Accounted later middle after) :
    desk.Accounted (verdicts ++ later) before after where
  booked := first.booked.trans second.booked
  holds := first.holds.trans second.holds
  balances homed := by
    obtain ⟨lapsed, earlier⟩ := first.balances homed
    obtain ⟨rest, now⟩ := second.balances (earlier.homed homed)
    exact ⟨lapsed ++ rest, earlier.trans now⟩

/-- An act books what it reports. -/
theorem accounted_act (gateway : Gateway) (act : Act) :
    desk.Accounted (desk.act gateway act).1.verdicts gateway (desk.act gateway act).2 := by
  have silent {after : Gateway} {lapsed : List Identity}
      (tally : after.tally desk.family = gateway.tally desk.family)
      (fewer : after.active.size ≤ gateway.active.size)
      (balances : gateway.Balances (fun _ => desk.family) lapsed after) :
      desk.Accounted [] gateway after :=
    ⟨.of_tally tally, fewer, fun _ => ⟨lapsed, balances⟩⟩
  have ignored : desk.Accounted [] gateway gateway :=
    silent rfl (Nat.le_refl _) (.refl gateway)
  cases act with
  | occurs occurrence =>
      exact silent (gateway.tally_undergo occurrence desk.family)
        (gateway.size_active_undergo_le occurrence) (.undergo gateway occurrence)
  | attach handle =>
      refine Gateway.attend_cases (motive := desk.Accounted [] gateway) handle desk.attach
        ignored fun party _ _ => ?_
      exact ⟨.run gateway (desk.quiet_attach party), (desk.sheds_attach gateway party).size_active_le,
        fun _ => ⟨[], .run gateway (desk.steady_attach party rfl)⟩⟩
  | clear handle payload =>
      cases found : gateway.idOf? handle with
      | none =>
          simp only [act, Gateway.attend_of_absent found, Option.elim_none]
          exact ignored
      | some id =>
          have known : gateway.Knows ⟨handle, id⟩ := found
          simp only [act, Gateway.attend_of_knows known, Option.elim_some]
          exact ⟨desk.books_handleClear ⟨handle, id⟩ payload gateway gateway (.refl gateway),
            (desk.effect_handleClear ⟨handle, id⟩ gateway payload).holds,
            fun _ => ⟨_, desk.balances_handleClear ⟨handle, id⟩ gateway payload rfl⟩⟩
  | encrypted handle payload =>
      cases found : gateway.idOf? handle with
      | none =>
          simp only [act, Gateway.attend_of_absent found, Option.elim_none]
          exact ignored
      | some id =>
          have known : gateway.Knows ⟨handle, id⟩ := found
          simp only [act, Gateway.attend_of_knows known, Option.elim_some]
          exact ⟨desk.books_handleEncrypted ⟨handle, id⟩ payload gateway gateway (.refl gateway),
            (desk.effect_handleEncrypted ⟨handle, id⟩ payload gateway known).holds,
            fun homed => ⟨_, desk.balances_handleEncrypted ⟨handle, id⟩ gateway payload homed⟩⟩
  | shutdown =>
      exact silent (gateway.tally_dropState desk.family desk.family)
        (Gateway.Sheds.dropState gateway desk.family).size_active_le
        (.dropState gateway desk.family)

def reports : Gateway → List Act → List Report :=
  gather (fun gateway act => (desk.act gateway act).2) fun gateway act => [(desk.act gateway act).1]

theorem reports_append (start : Gateway) (acts : List Act) (last : Act) :
    desk.reports start (acts ++ [last]) =
      desk.reports start acts ++ [(desk.act (desk.run start acts) last).1] :=
  gather_append _ _ start acts last

/-- The metrics of a desk that has the keys to itself agree with what it has reported and with the
keys that it holds. -/
structure Accounts (reports : List Report) (gateway : Gateway) : Prop where
  /-- A key that became active, has expired or is staged was issued. -/
  staged : (gateway.metrics desk.family).activated + (gateway.metrics desk.family).expired +
    gateway.staged.entries.size ≤ (gateway.metrics desk.family).issued
  /-- A key that was deleted or is active was activated. -/
  active : (gateway.metrics desk.family).deleted + gateway.active.size ≤
    (gateway.metrics desk.family).activated
  /-- A payload that was no acknowledgement was opened. -/
  missed : (gateway.metrics desk.family).ambiguous ≤ (gateway.metrics desk.family).decrypted
  /-- Keys are issued by the requests that report it. -/
  issues : (gateway.metrics desk.family).issued = reports.count (.encrypted .keyIssued)
  /-- Keys are activated by the messages that report it. -/
  activations : (gateway.metrics desk.family).activated = reports.count (.clear .activated)
  /-- Keys are deleted by the messages and the requests that report it. -/
  deletions : (gateway.metrics desk.family).deleted =
    reports.count (.clear .deleted) + reports.count (.encrypted .keyDeleted)
  /-- Every refusal is counted. -/
  refusals : (gateway.metrics desk.family).rejected = reports.countP Report.isRefusal

theorem accounted_run (start : Gateway) (acts : List Act) :
    desk.Accounted ((desk.reports start acts).flatMap Report.verdicts) start
      (desk.run start acts) := by
  induction acts using List.reverseRecOn with
  | nil => exact ⟨.refl start, Nat.le_refl _, fun _ => ⟨[], .refl start⟩⟩
  | append_singleton acts last induction =>
      rw [run_append, reports_append, List.flatMap_append, List.flatMap_singleton]
      exact induction.trans (desk.accounted_act _ last)

/-- In every run of a desk that has the keys to itself its metrics agree with what it has reported
and with the keys that it holds, whatever happens around it. -/
theorem accounts_run (entropy : Entropy) (expiry : Nat) (acts : List Act) :
    desk.Accounts (desk.reports (.fresh entropy expiry) acts)
      (desk.run (.fresh entropy expiry) acts) := by
  have accounted := desk.accounted_run (.fresh entropy expiry) acts
  obtain ⟨lapsed, balances⟩ := accounted.balances (Gateway.homed_fresh entropy expiry)
  obtain ⟨issued, activated, deleted, rejected⟩ :=
    Report.count_verdicts (desk.reports (.fresh entropy expiry) acts)
  have nothing : (Gateway.fresh entropy expiry).tally desk.family = {} := by
    cases desk.family <;> rfl
  have empty : (Gateway.fresh entropy expiry).waiting (fun _ => desk.family) desk.family = 0 := rfl
  have counted (event : Event) (verdict : event.isVerdict = true) :
      ((desk.run (.fresh entropy expiry) acts).tally desk.family).of event =
        ((desk.reports (.fresh entropy expiry) acts).flatMap Report.verdicts).count event := by
    rw [accounted.booked.counted event verdict, nothing]
    cases event <;> exact Nat.zero_add _
  refine ⟨?_, ?_, ?_, ?_, ?_, ?_, ?_⟩
  · have balance := balances.balance desk.family
    have expired : (desk.run (.fresh entropy expiry) acts).staged.expired = lapsed.length :=
      balances.expired.trans (Nat.zero_add _)
    simp only [nothing, empty, Gateway.waiting_sole, decide_true, List.countP_true] at balance
    simp only [Gateway.metrics, Gateway.tally, expired] at balance ⊢
    omega
  · have holds := accounted.holds
    have keyless : (Gateway.fresh entropy expiry).active.size = 0 := rfl
    rw [Gateway.Holds, ← counted .deleted rfl, ← counted .activated rfl, keyless] at holds
    simp only [Gateway.metrics, Gateway.tally, Tally.of] at holds ⊢
    omega
  · have missed := accounted.booked.missed
    rw [nothing] at missed
    simpa [Gateway.metrics, Gateway.tally] using missed
  · exact (counted .issued rfl).trans issued
  · exact (counted .activated rfl).trans activated
  · exact (counted .deleted rfl).trans deleted
  · exact (counted .rejected rfl).trans rejected

/-- The client of the sample has a key issued and activates it. -/
example : Desk.reports {} Sample.start Sample.acts =
    [.silent, .silent, .silent, .encrypted .keyIssued, .clear .activated] := by
  decide +kernel

end Desk

end PadRelay
