import Mathlib.Logic.Relation
import PadRelay.Gateway.Pairing
import PadRelay.Proofs.Connection
import PadRelay.Proofs.Gateway.Hooks
import PadRelay.Proofs.Script

/-!
# Drifting

Most of what a handler does moves no key: it looks things up, counts, sends, closes, and lets a
connection into the encrypted slot of a pair. A gateway that only such steps were taken on has
drifted. Drifting issues nothing and activates nothing; it can only take keys away, and it takes
away those that are in time only by closing the clear channel that they belong to.
-/

namespace PadRelay

/-- A call that makes and moves no key, registers no hook and enters nothing anywhere. -/
def Call.IsPlain : Call → Prop
  | .isOpen _ | .isSecure _ | .send _ _ | .close _ | .encode _ _ | .count _ _ => True
  | .clearOf _ _ | .hostMatches _ _ _ | .lookup _ _ | .audience _ _ _ => True
  | .staged _ | .retired _ | .active _ | .sealFor _ _ _ | .dress _ _ _ => True
  | .onClose _ _ | .place _ _ _ _ | .enter _ _ _ | .join _ _ _ | .watch _ _ | .forget _ _ => False
  | .generate _ _ | .stage _ _ | .unstage _ | .takeStaged _ _ => False
  | .activate _ _ | .deactivate _ => False

namespace Gateway

/-- One of the steps that move no key. -/
inductive Stirs (before : Gateway) : Gateway → Prop
  | count (family : Family) (event : Event) : Stirs before (before.count family event)
  | look (identity : Identity) :
      Stirs before { before with staged := before.staged.expireDue before.now identity }
  | send (handle : Handle) (payload : Bytes) : Stirs before (before.send handle payload).2
  | close (handle : Handle) : Stirs before (before.close handle)
  | occupy (family : Family) (identity : Identity) {party : Party} (known : before.Knows party) :
      Stirs before ((Script.occupy family identity .encrypted party).run before).2

/-- Any number of steps that move no key. -/
def Drifts : Gateway → Gateway → Prop := Relation.ReflTransGen Stirs

namespace Drifts

@[refl]
theorem refl (gateway : Gateway) : gateway.Drifts gateway := Relation.ReflTransGen.refl

theorem trans {before middle after : Gateway} (first : before.Drifts middle)
    (second : middle.Drifts after) : before.Drifts after :=
  Relation.ReflTransGen.trans first second

theorem single {before after : Gateway} (stirs : before.Stirs after) : before.Drifts after :=
  Relation.ReflTransGen.single stirs

theorem respects (related : Gateway → Gateway → Prop) (refl : ∀ gateway, related gateway gateway)
    (trans : ∀ first second third, related first second → related second third →
      related first third)
    (step : ∀ before after, before.Stirs after → related before after) {before after : Gateway}
    (drifts : before.Drifts after) : related before after := by
  induction drifts with
  | refl => exact refl before
  | tail _ stirs induction => exact trans _ _ _ induction (step _ _ stirs)

theorem preserves (holds : Gateway → Prop)
    (step : ∀ before after, before.Stirs after → holds before → holds after)
    {before after : Gateway} (drifts : before.Drifts after) (held : holds before) : holds after :=
  drifts.respects (fun before after => holds before → holds after) (fun _ held => held)
    (fun _ _ _ first second held => second (first held)) step held

end Drifts

theorem drifts_sealFor (gateway : Gateway) (family : Family) (identity : Identity)
    (payload : Bytes) : gateway.Drifts (gateway.sealFor family identity payload).2 := by
  rw [sealFor]
  split
  · exact .single (.count family .encrypted)
  · rfl

theorem drifts_perform {request : Call} (plain : request.IsPlain) (gateway : Gateway) :
    gateway.Drifts (gateway.perform request).2 := by
  cases request with
  | isOpen | isSecure | encode | clearOf | hostMatches | lookup | audience => rfl
  | retired | active => rfl
  | count family event => exact .single (.count family event)
  | send handle payload => exact .single (.send handle payload)
  | close handle => exact .single (.close handle)
  | staged identity =>
      simp only [perform, stagedKey, onStaged_snd, StagedKeys.get_snd]
      exact .single (.look identity)
  | sealFor family identity payload => exact drifts_sealFor gateway family identity payload
  | dress family recipient payload =>
      simp only [perform, dress]
      split
      · exact drifts_sealFor gateway family recipient payload
      · rfl
  | onClose | place | enter | join | watch | forget => cases plain
  | generate | stage | unstage | takeStaged | activate | deactivate => cases plain

theorem drifts_run {α : Type} {script : Script α} (plain : script.Only Call.IsPlain)
    (gateway : Gateway) : gateway.Drifts (script.run gateway).2 :=
  plain.run Drifts Drifts.refl (fun _ _ _ => Drifts.trans)
    (fun _ permitted gateway => drifts_perform permitted gateway) gateway

/-- Entering a slot is a change of the pairs and, unless the slot holds the connection already, a
registration. -/
theorem occupy_cases (gateway : Gateway) (family : Family) (identity : Identity) (role : Role)
    (party : Party) :
    ((Script.occupy family identity role party).run gateway).2 =
        (gateway.place family identity role party).2 ∧
        (gateway.layer family).pairs.holds identity role party.id = true ∨
      ((Script.occupy family identity role party).run gateway).2 =
        (gateway.place family identity role party).2.onClose party.handle
          (.vacate family identity role party.id) ∧
        (gateway.layer family).pairs.holds identity role party.id = false := by
  cases held : (gateway.layer family).pairs.holds identity role party.id <;>
    simp [Script.occupy, Script.ask, Script.run_call, Script.run_done, perform, place, held]

/-- Entering a slot gives no identity a key. -/
theorem Keyless.occupy {gateway : Gateway} {identity : Identity}
    (keyless : gateway.Keyless identity) (family : Family) (subject : Identity) (role : Role)
    (party : Party) :
    ((Script.occupy family subject role party).run gateway).2.Keyless identity := by
  have placed : (gateway.place family subject role party).2.Keyless identity := by
    simpa [Keyless, place] using keyless
  rcases occupy_cases gateway family subject role party with ⟨same, -⟩ | ⟨same, -⟩
  · rwa [same]
  · rw [same]
    exact placed.onClose _ _

theorem setEncrypted_of_isSecure {gateway : Gateway} {family : Family} {identity : Identity}
    {party : Party} (secure : gateway.isSecure party.handle = true) :
    (Script.setEncrypted family identity party).run gateway =
      (.ok (), ((Script.occupy family identity .encrypted party).run gateway).2) := by
  rw [Script.setEncrypted, Script.run_bind, Script.run_ask]
  simp only [perform, secure, if_true]
  rw [Script.run_bind, Script.run_pure]

/-- A connection without transport security is refused, and nothing changes. -/
theorem setEncrypted_of_not_isSecure {gateway : Gateway} {family : Family} {identity : Identity}
    {party : Party} (insecure : gateway.isSecure party.handle = false) :
    (Script.setEncrypted family identity party).run gateway =
      (.error (.notEncrypted party.id), gateway) := by
  rw [Script.setEncrypted, Script.run_bind, Script.run_ask]
  simp only [perform, insecure]
  rfl

theorem setEncrypted_cases (gateway : Gateway) (family : Family) (identity : Identity)
    (party : Party) :
    (∃ error, (Script.setEncrypted family identity party).run gateway = (.error error, gateway)) ∨
      (Script.setEncrypted family identity party).run gateway =
        (.ok (), ((Script.occupy family identity .encrypted party).run gateway).2) := by
  cases secure : gateway.isSecure party.handle with
  | true => exact .inr (setEncrypted_of_isSecure secure)
  | false => exact .inl ⟨_, setEncrypted_of_not_isSecure secure⟩

/-- Keys have at most been taken away, and time and randomness stand still. -/
structure Sheds (before after : Gateway) : Prop where
  now : after.now = before.now
  entropy : after.entropy = before.entropy
  expiry : after.staged.expiry = before.staged.expiry
  generation : after.staged.generation = before.staged.generation
  entry : ∀ identity, after.staged.entries.get? identity = none ∨
    after.staged.entries.get? identity = before.staged.entries.get? identity
  active : ∀ identity, after.active.get? identity = none ∨
    after.active.get? identity = before.active.get? identity

namespace Sheds

/-- Nothing is taken away where keys, time and randomness are the same. -/
theorem of_eq {before after : Gateway} (active : after.active = before.active)
    (staged : after.staged = before.staged) (now : after.now = before.now)
    (entropy : after.entropy = before.entropy) : before.Sheds after where
  now := now
  entropy := entropy
  expiry := by rw [staged]
  generation := by rw [staged]
  entry _ := .inr (by rw [staged])
  active _ := .inr (by rw [active])

theorem refl (gateway : Gateway) : gateway.Sheds gateway := of_eq rfl rfl rfl rfl

theorem trans {before middle after : Gateway} (first : before.Sheds middle)
    (second : middle.Sheds after) : before.Sheds after where
  now := second.now.trans first.now
  entropy := second.entropy.trans first.entropy
  expiry := second.expiry.trans first.expiry
  generation := second.generation.trans first.generation
  entry identity := by
    rcases second.entry identity with gone | kept
    · exact .inl gone
    · rw [kept]
      exact first.entry identity
  active identity := by
    rcases second.active identity with gone | kept
    · exact .inl gone
    · rw [kept]
      exact first.active identity

theorem runHook (gateway : Gateway) (hook : Hook) : gateway.Sheds (gateway.runHook hook) := by
  cases hook with
  | vacate family identity role connection => apply of_eq <;> simp [Gateway.runHook]
  | forget family connection => apply of_eq <;> simp [Gateway.runHook]
  | dropKeys identity =>
      simp only [Gateway.runHook, dropKeys, StagedKeys.remove_snd]
      refine ⟨rfl, rfl, rfl, rfl, ?_, ?_⟩
      · intro other
        by_cases same : other = identity <;> simp [Table.get?_erase, same]
      · intro other
        by_cases same : other = identity <;> simp [Table.get?_erase, same]

theorem runHooks (gateway : Gateway) (hooks : List Hook) :
    gateway.Sheds (gateway.runHooks hooks) := by
  induction hooks generalizing gateway with
  | nil => exact refl gateway
  | cons hook hooks induction => exact (runHook gateway hook).trans (induction _)

theorem settle (gateway : Gateway) (handle : Handle) (connection : Connection Hook)
    (due : List Hook) : gateway.Sheds (gateway.settle handle connection due) :=
  have changed : gateway.Sheds
      { gateway with connections := gateway.connections.insert handle connection } :=
    of_eq rfl rfl rfl rfl
  changed.trans (runHooks _ due)

theorem close (gateway : Gateway) (handle : Handle) : gateway.Sheds (gateway.close handle) := by
  cases found : gateway.connections.get? handle with
  | none => simpa only [Gateway.close, found] using refl gateway
  | some connection =>
      rw [close_eq gateway found]
      exact settle gateway handle _ _

theorem onClose (gateway : Gateway) (handle : Handle) (hook : Hook) :
    gateway.Sheds (gateway.onClose handle hook) := by
  cases found : gateway.connections.get? handle with
  | none => simpa only [Gateway.onClose, found] using refl gateway
  | some connection =>
      rw [onClose_eq gateway hook found]
      exact settle gateway handle _ _

theorem send (gateway : Gateway) (handle : Handle) (payload : Bytes) :
    gateway.Sheds (gateway.send handle payload).2 := by
  cases found : gateway.connections.get? handle with
  | none => simpa only [Gateway.send, found] using refl gateway
  | some connection =>
      rw [send_eq gateway payload found]
      exact settle gateway handle _ _

theorem look (gateway : Gateway) (identity : Identity) :
    gateway.Sheds { gateway with
      staged := gateway.staged.expireDue gateway.now identity } where
  now := rfl
  entropy := rfl
  expiry := StagedKeys.expiry_expireDue _ _ _
  generation := StagedKeys.generation_expireDue _ _ _
  entry other := by
    rw [StagedKeys.get?_entries_expireDue]
    split
    · next same =>
        subst same
        cases gateway.staged.entries.get? other with
        | none => exact .inl rfl
        | some staging =>
            rw [Option.filter_some]
            split
            · exact .inr rfl
            · exact .inl rfl
    · exact .inr rfl
  active _ := .inr rfl

theorem occupy (gateway : Gateway) (family : Family) (identity : Identity) (role : Role)
    (party : Party) :
    gateway.Sheds ((Script.occupy family identity role party).run gateway).2 := by
  have placed : gateway.Sheds (gateway.place family identity role party).2 := by
    apply of_eq <;> simp [place]
  rcases occupy_cases gateway family identity role party with ⟨equal, -⟩ | ⟨equal, -⟩
  · rw [equal]
    exact placed
  · rw [equal]
    exact placed.trans (onClose _ _ _)

end Sheds

/-- Drifting only takes keys away. -/
theorem Drifts.sheds {before after : Gateway} (drifts : before.Drifts after) :
    before.Sheds after := by
  apply drifts.respects Sheds Sheds.refl (fun _ _ _ => Sheds.trans)
  intro before after stirs
  cases stirs with
  | count family event => apply Sheds.of_eq <;> simp [Gateway.count]
  | look identity => exact Sheds.look before identity
  | send handle payload => exact Sheds.send before handle payload
  | close handle => exact Sheds.close before handle
  | occupy family identity known => exact Sheds.occupy before family identity .encrypted _

end Gateway

end PadRelay
