import PadRelay.Proofs.Exchange.Reach
import PadRelay.Proofs.Gateway.Sweep

/-!
# Keys that are lost

A staged key is lost when its lifetime has passed, when the next key is issued for its identity,
when the processor shuts down, and when the connection of its identity closes. All of this is read
off the acts of the run. A key that was lost never becomes active, so the key that is active was
staged last, acknowledged in time, and nothing came in between.
-/

namespace PadRelay

theorem Gateway.now_perform (gateway : Gateway) (request : Call) :
    (gateway.perform request).2.now = gateway.now := by
  by_cases plain : request.IsPlain
  · exact (drifts_perform plain gateway).sheds.now
  · cases request with
    | onClose handle hook => exact (Sheds.onClose gateway handle hook).now
    | generate policy size =>
        simp only [perform]
        split <;> rfl
    | place | enter | join | watch | forget | stage | unstage | takeStaged | activate
    | deactivate => simp [perform, place, onDirectory]
    | _ => exact absurd trivial plain

theorem Gateway.now_run {α : Type} (script : Script α) (gateway : Gateway) :
    (script.run gateway).2.now = gateway.now := by
  induction script generalizing gateway with
  | done value => rfl
  | call request next induction =>
      rw [Script.run_call]
      exact (induction _ _).trans (gateway.now_perform request)

def Act.duration : Act → Nat
  | .occurs (.passes duration) => duration
  | _ => 0

/-- The time that passes in acts. -/
def elapsed : List Act → Nat
  | [] => 0
  | act :: acts => act.duration + elapsed acts

theorem elapsed_append (front back : List Act) :
    elapsed (front ++ back) = elapsed front + elapsed back := by
  induction front with
  | nil => simp [elapsed]
  | cons act front induction => simp [elapsed, induction, Nat.add_assoc]

namespace Desk

variable (desk : Desk)

theorem now_act (gateway : Gateway) (act : Act) :
    (desk.act gateway act).2.now = gateway.now + act.duration := by
  have attending {α : Type} (handle : Handle) (handler : Party → Script α) :
      (gateway.attend handle handler).2.now = gateway.now :=
    Gateway.attend_cases (motive := fun after => after.now = gateway.now) handle handler rfl
      fun party _ _ => Gateway.now_run (handler party) gateway
  cases act with
  | occurs occurrence =>
      cases occurrence with
      | closes handle => exact (Gateway.Sheds.close gateway handle).now
      | opens | outlet | passes | rings => rfl
  | attach handle => exact attending handle desk.attach
  | clear handle payload => exact attending handle fun party => desk.handleClear party payload
  | encrypted handle payload =>
      exact attending handle fun party => desk.handleEncrypted party payload
  | shutdown => exact Gateway.now_modifyLayer ..

theorem now_run (start : Gateway) (acts : List Act) :
    (desk.run start acts).now = start.now + elapsed acts := by
  induction acts generalizing start with
  | nil => rfl
  | cons act acts induction =>
      have after := induction (desk.act start act).2
      rw [desk.now_act, Nat.add_assoc] at after
      exact after

theorem now_stateAt {start : Gateway} {acts : List Act} {early late : Nat} (order : early ≤ late) :
    (desk.stateAt start acts late).now =
      (desk.stateAt start acts early).now + elapsed ((acts.take late).drop early) := by
  have split := List.take_append_drop early (acts.take late)
  rw [List.take_take, Nat.min_eq_left order] at split
  have whole := congrArg elapsed split
  rw [elapsed_append] at whole
  rw [stateAt, stateAt, now_run, now_run, ← whole, Nat.add_assoc]

/-- Something between a position of a run, at which a key was issued for an identity, and a later
one loses the key. -/
inductive Loses (start : Gateway) (acts : List Act) (identity : Identity) (origin gone : Nat) : Prop
  /-- The lifetime of the key has passed. -/
  | expired (passed : start.staged.expiry ≤ elapsed ((acts.take gone).drop origin))
  /-- Another request for the identity was answered with a key. -/
  | replaced {between : Nat} {handle : Handle} {payload : Bytes} {requested : Option UInt32}
      (after : origin < between) (before : between < gone)
      (found : acts[between]? = some (.encrypted handle payload))
      (asked : desk.codec.decode payload = .ok (.keyRequest (.newKey identity requested)))
      (answered : (desk.act (desk.stateAt start acts between) (.encrypted handle payload)).1 =
        .encrypted .keyIssued)
  /-- The processor shut down. -/
  | cleared {between : Nat} (after : origin < between) (before : between < gone)
      (found : acts[between]? = some .shutdown)
  /-- The connection of the identity was closed. -/
  | closed {between : Nat} {handle : Handle} (after : origin < between) (before : between < gone)
      (found : acts[between]? = some (.occurs (.closes handle)))
      (own : (desk.stateAt start acts between).idOf? handle = some identity)
  /-- The connection of the identity has closed, for whatever reason. -/
  | departed (closed : (desk.stateAt start acts gone).HasClosed identity)

section Runs

variable {desk} {entropy : Entropy} {expiry : Nat} {start : Gateway} {acts : List Act}
  {identity : Identity} {staging : Staging} {origin gone : Nat}

theorem expiry_stateAt (position : Nat) :
    (desk.stateAt start acts position).staged.expiry = start.staged.expiry := by
  induction position with
  | zero => rfl
  | succ position induction =>
      rcases desk.stateAt_cases start acts position with ⟨-, same⟩ | ⟨act, -, moves⟩
      · rw [same, induction]
      · rw [moves.expiry, induction]

theorem not_awaits_of_keyless {gateway : Gateway} (keyless : gateway.Keyless identity) :
    ¬ gateway.Awaits identity staging := by
  rintro ⟨entry, -⟩
  rw [keyless.2.1] at entry
  cases entry

theorem not_awaits_of_expired (issued : desk.IssuedAt start acts origin identity staging)
    (order : origin < gone)
    (passed : start.staged.expiry ≤ elapsed ((acts.take gone).drop origin)) :
    ¬ (desk.stateAt start acts gone).Awaits identity staging := by
  rintro ⟨-, inTime⟩
  obtain ⟨act, -, issues⟩ := issued
  rw [desk.now_stateAt (Nat.le_of_lt order), issues.deadline, expiry_stateAt] at inTime
  omega

/-- After the next key for the identity was issued, the one before it is waited for no more. -/
theorem not_awaits_of_replaced (issued : desk.IssuedAt start acts origin identity staging)
    {between : Nat} {handle : Handle} {payload : Bytes} {requested : Option UInt32}
    (after : origin < between) (found : acts[between]? = some (.encrypted handle payload))
    (asked : desk.codec.decode payload = .ok (.keyRequest (.newKey identity requested)))
    (answered : (desk.act (desk.stateAt start acts between) (.encrypted handle payload)).1 =
      .encrypted .keyIssued) :
    ¬ (desk.stateAt start acts (between + 1)).Awaits identity staging := by
  rintro ⟨entry, -⟩
  obtain ⟨target, next, issues⟩ := exists_issues answered
  obtain ⟨_, _, _, _, _, equal, asked_again, -⟩ := issues.asked
  cases equal
  cases asked.symm.trans asked_again
  rw [desk.stateAt_succ start acts found] at entry
  have fresh := issues.generation_of_entry entry
  have behind := issued.generation_lt after
  omega

theorem reached_stateAt (desk : Desk) (entropy : Entropy) (expiry : Nat) (acts : List Act)
    (position : Nat) : (desk.stateAt (.fresh entropy expiry) acts position).Reached
      ((acts.take position).filterMap Act.opened?) expiry :=
  desk.reached_run entropy expiry (acts.take position)

theorem keyless_stateAt (distinct : (acts.filterMap Act.opened?).Nodup) {position : Nat}
    (closed : (desk.stateAt (.fresh entropy expiry) acts position).HasClosed identity) :
    (desk.stateAt (.fresh entropy expiry) acts position).Keyless identity := by
  obtain ⟨handle, known, closed⟩ := closed
  have known : (desk.stateAt (.fresh entropy expiry) acts position).Knows ⟨handle, identity⟩ :=
    known
  have still_distinct := distinct.sublist ((List.take_sublist position acts).filterMap Act.opened?)
  exact (desk.reached_stateAt entropy expiry acts position).keyless_of_closed still_distinct known
    closed

/-- A key that was lost is waited for no more. -/
theorem Loses.not_awaits (distinct : (acts.filterMap Act.opened?).Nodup)
    (loses : desk.Loses (.fresh entropy expiry) acts identity origin gone)
    (issued : desk.IssuedAt (.fresh entropy expiry) acts origin identity staging)
    (order : origin < gone) :
    ¬ (desk.stateAt (.fresh entropy expiry) acts gone).Awaits identity staging := by
  cases loses with
  | expired passed => exact not_awaits_of_expired issued order passed
  | replaced after before found asked answered =>
      exact not_awaits_of_le issued (Nat.lt_succ_of_lt after)
        (not_awaits_of_replaced issued after found asked answered) before
  | cleared after before found =>
      refine not_awaits_of_le issued (Nat.lt_succ_of_lt after) (not_awaits_of_keyless ?_) before
      rw [desk.stateAt_succ _ acts found]
      simp [Gateway.Keyless, Desk.act, Gateway.dropState, StagedKeys.clear]
  | @closed between handle after before found own =>
      refine not_awaits_of_le issued (Nat.lt_succ_of_lt after) (not_awaits_of_keyless ?_) before
      have kept := Gateway.Keeps.close (desk.stateAt (.fresh entropy expiry) acts between) handle
      apply keyless_stateAt distinct
      rw [desk.stateAt_succ _ acts found]
      exact ⟨handle, (kept.idOf? handle).trans own, Gateway.isOpen_close _ handle⟩
  | departed closed => exact not_awaits_of_keyless (keyless_stateAt distinct closed)

end Runs

/-- Where active keys come from, in every run over connections with distinct identities. An active
key was issued for its identity by an earlier request, and it became the active one through an
acknowledgement on the channel of that identity; in between no lifetime has passed, no other key was
issued for the identity, nothing was shut down, and the connection of the identity did not close. No
key becomes active twice, and none does once it was lost. -/
theorem provenance_of_active_keys (desk : Desk) (entropy : Entropy) (expiry : Nat)
    {acts : List Act} (distinct : (acts.filterMap Act.opened?).Nodup) :
    let start := Gateway.fresh entropy expiry
    (∀ identity key, (desk.run start acts).active.get? identity = some key →
      ∃ staging origin switch, origin < switch ∧
        desk.IssuedAt start acts origin identity staging ∧
        desk.ActivatedAt start acts switch identity staging ∧ staging.held.key = key ∧
        ¬ desk.Loses start acts identity origin switch) ∧
    (∀ identity staging first second, desk.ActivatedAt start acts first identity staging →
      desk.ActivatedAt start acts second identity staging → first = second) ∧
    ∀ identity staging origin gone later, desk.IssuedAt start acts origin identity staging →
      origin < gone → desk.Loses start acts identity origin gone → gone ≤ later →
        ¬ desk.ActivatedAt start acts later identity staging := by
  intro start
  have empty := Gateway.keyless_fresh entropy expiry
  have once {identity : Identity} {staging : Staging} {first second : Nat}
      (one : desk.ActivatedAt start acts first identity staging)
      (two : desk.ActivatedAt start acts second identity staging) : second ≤ first := by
    obtain ⟨act, found, activates⟩ := one
    obtain ⟨origin, order, issued⟩ := issuedAt_of_entry empty activates.awaited.1
    refine Nat.le_of_not_lt fun later => ?_
    obtain ⟨_, -, again⟩ := two
    refine not_awaits_of_le issued (Nat.lt_succ_of_lt order) ?_ later again.awaited
    rintro ⟨entry, -⟩
    rw [desk.stateAt_succ start acts found, activates.entry] at entry
    cases entry
  refine ⟨?_, ?_, ?_⟩
  · intro identity key found
    rw [← desk.stateAt_length start acts] at found
    obtain ⟨staging, switch, -, activated, same⟩ := activatedAt_of_active empty found
    obtain ⟨act, -, activates⟩ := id activated
    obtain ⟨origin, order, issued⟩ := issuedAt_of_entry empty activates.awaited.1
    exact ⟨staging, origin, switch, order, issued, activated, same,
      fun loses => loses.not_awaits distinct issued order activates.awaited⟩
  · intro identity staging first second one two
    exact Nat.le_antisymm (once two one) (once one two)
  · rintro identity staging origin gone later issued after loses order ⟨act, -, activates⟩
    exact not_awaits_of_le issued after (loses.not_awaits distinct issued after) order
      activates.awaited

/-- The key of the sample run was issued and acknowledged, and not lost in between. -/
theorem provenance_of_sample_key :
    (Sample.acts.filterMap Act.opened?).Nodup ∧
      (Desk.run {} Sample.start Sample.acts).active.get? 1 = some Sample.key ∧
      ∃ staging origin switch, origin < switch ∧
        Desk.IssuedAt {} Sample.start Sample.acts origin 1 staging ∧
        Desk.ActivatedAt {} Sample.start Sample.acts switch 1 staging ∧
        staging.held.key = Sample.key ∧
        ¬ Desk.Loses {} Sample.start Sample.acts 1 origin switch := by
  have distinct : (Sample.acts.filterMap Act.opened?).Nodup := by decide
  have found : (Desk.run {} Sample.start Sample.acts).active.get? 1 = some Sample.key := by
    decide +kernel
  exact ⟨distinct, found,
    (provenance_of_active_keys {} (.arithmetic 1 1) 30 distinct).1 1 Sample.key found⟩

end Desk

end PadRelay
