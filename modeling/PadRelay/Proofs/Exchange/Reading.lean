import PadRelay.Proofs.Cipher
import PadRelay.Proofs.Exchange.Run
import PadRelay.Proofs.Key.Overdue
import PadRelay.Proofs.Wire.RoundTrip

/-!
# How a message on a clear channel is read

What becomes of a message on a clear channel depends on the keys of its identity alone: the staged
one in time, the retired one and the active one, tried in this order. Under the first two only an
acknowledgement counts.
-/

namespace PadRelay

/-- The keys that a message on a clear channel is read under. -/
structure KeyRing where
  staged : Option Key
  retired : Option Key
  active : Option Key
deriving DecidableEq

/-- A payload without the seal of the active key. -/
def KeyRing.unseal (ring : KeyRing) (payload : Bytes) : Bytes :=
  match ring.active with
  | some key => Cipher.transform key payload
  | none => payload

namespace Gateway

/-- The keys that a message on the clear channel of an identity is read under. -/
def keyRing (gateway : Gateway) (identity : Identity) : KeyRing where
  staged := (gateway.staged.live gateway.now identity).map StagedKey.key
  retired := (gateway.staged.shown gateway.now identity).2.map StagedKey.key
  active := gateway.active.get? identity

theorem keyRing_congr {before after : Gateway} {identity : Identity}
    (staged : after.staged = before.staged) (now : after.now = before.now)
    (active : after.active = before.active) : after.keyRing identity = before.keyRing identity := by
  rw [keyRing, staged, now, active, keyRing]

@[simp]
theorem keyRing_count (gateway : Gateway) (family : Family) (event : Event) (identity : Identity) :
    (gateway.count family event).keyRing identity = gateway.keyRing identity := by
  apply keyRing_congr <;> simp [count]

theorem keyRing_look (gateway : Gateway) (identity other : Identity) :
    { gateway with
      staged := gateway.staged.expireDue gateway.now identity }.keyRing other =
        gateway.keyRing other := by
  simp only [keyRing, StagedKeys.live_eq_shown, StagedKeys.shown_expireDue]

end Gateway

namespace Desk

/-- Whom a payload acknowledges a key for, opened with a key that may be there. -/
def ackUnder? (desk : Desk) (key : Option Key) (payload : Bytes) : Option Identity :=
  key.bind fun key => desk.ackTarget? (Cipher.transform key payload)

/-- What becomes of an unsealed payload that is no acknowledgement, given whether its identity has
an active key. -/
def plainVerdict (desk : Desk) (identity : Identity) (keyed : Bool) (plain : Bytes) :
    ClearOutcome :=
  match desk.codec.decode plain with
  | .ok (.keyRequest ⟨some .delete, target, _⟩) =>
      if target ≠ some identity then .rejected .identityMismatch
      else if keyed then .deleted else .rejected .noActiveKey
  | .ok (.keyRequest ⟨none, _, _⟩) => .rejected .missingFunction
  | .ok (.keyAck _) => .rejected .noPendingKey
  | .ok _ => .rejected .wrongChannel
  | .error error => if error.isViolation then .rejected .malformedRequest else .application plain

/-- What becomes of a message on the clear channel of an identity with the given keys. -/
def verdict (desk : Desk) (identity : Identity) (ring : KeyRing) (payload : Bytes) :
    ClearOutcome :=
  match desk.ackUnder? ring.staged payload with
  | some target => if target ≠ identity then .rejected .identityMismatch else .activated
  | none =>
      match desk.ackUnder? ring.retired payload with
      | some _ => .rejected .noPendingKey
      | none => desk.plainVerdict identity ring.active.isSome (ring.unseal payload)

theorem plainVerdict_ne_activated (desk : Desk) (identity : Identity) (keyed : Bool)
    (plain : Bytes) : desk.plainVerdict identity keyed plain ≠ .activated := by
  rw [plainVerdict]
  repeat' split
  all_goals exact ClearOutcome.noConfusion

/-- A message activates a key exactly if it acknowledges the staged key for its own channel. -/
theorem verdict_eq_activated_iff {desk : Desk} {identity : Identity} {ring : KeyRing}
    {payload : Bytes} : desk.verdict identity ring payload = .activated ↔
      desk.ackUnder? ring.staged payload = some identity := by
  rw [verdict]
  cases desk.ackUnder? ring.staged payload with
  | none =>
      cases desk.ackUnder? ring.retired payload with
      | some target => simp
      | none => simpa using desk.plainVerdict_ne_activated identity _ _
  | some target => by_cases own : target = identity <;> simp [own]

theorem ackUnder?_acknowledgement (desk : Desk) (key : Key) (identity : Identity) :
    desk.ackUnder? (some key)
      (Cipher.transform key (desk.codec.encode (.keyAck identity))) = some identity := by
  have read := Codec.decode_encode (desk.codec.carries_keyAck identity)
  simp only [ackUnder?, Option.bind_some, Cipher.transform_transform, ackTarget?, read]

open Script (ask)

variable (desk : Desk) (party : Party) (gateway : Gateway)

theorem code_deleteKey (identity : Identity) :
    ((desk.deleteKey identity).run gateway).1 =
      if (gateway.active.get? identity).isSome then .ok else .noActiveKey := by
  rw [deleteKey, Script.run_bind, Script.run_ask]
  simp only [Gateway.perform]
  cases gateway.active.get? identity <;> rfl

theorem outcome_clearRequest (request : KeyRequest) :
    ((desk.clearRequest party request).run gateway).1 =
      match request with
      | ⟨some .delete, target, _⟩ =>
          if target ≠ some party.id then .rejected .identityMismatch
          else if (gateway.active.get? party.id).isSome then .deleted else .rejected .noActiveKey
      | ⟨some .new, _, _⟩ => .rejected .wrongChannel
      | ⟨none, _, _⟩ => .rejected .missingFunction := by
  obtain ⟨function, target, size⟩ := request
  cases function with
  | none => rfl
  | some function =>
      cases function with
      | new => rfl
      | delete =>
          by_cases own : target = some party.id
          · subst own
            have code := desk.code_deleteKey gateway party.id
            simp only [clearRequest, ne_eq, not_true_eq_false, if_false, Script.run_bind]
            generalize (desk.deleteKey party.id).run gateway = result at code ⊢
            rw [code]
            cases (gateway.active.get? party.id).isSome <;> rfl
          · simp only [clearRequest, ne_eq, own, not_false_eq_true, if_true]
            rfl

theorem outcome_readPlain (plain : Bytes) :
    ((desk.readPlain party plain).run gateway).1 =
      desk.plainVerdict party.id (gateway.active.get? party.id).isSome plain := by
  rw [readPlain, plainVerdict]
  cases desk.codec.decode plain with
  | error error =>
      dsimp only
      split <;> rfl
  | ok message =>
      cases message with
      | keyRequest request =>
          dsimp only
          rw [outcome_clearRequest]
          obtain ⟨function, target, size⟩ := request
          cases function with
          | none => rfl
          | some function => cases function <;> rfl
      | _ => rfl

theorem run_openWith (key : Key) (payload : Bytes) :
    (desk.openWith key payload).run gateway =
      (Cipher.transform key payload, gateway.count desk.family .decrypted) := rfl

theorem outcome_readActive (payload : Bytes) :
    ((desk.readActive party payload).run gateway).1 =
      desk.plainVerdict party.id (gateway.active.get? party.id).isSome
        ((gateway.keyRing party.id).unseal payload) := by
  rw [readActive, Script.run_bind, Script.run_ask]
  simp only [Gateway.perform, KeyRing.unseal, Gateway.keyRing]
  cases active : gateway.active.get? party.id with
  | none =>
      dsimp only
      rw [outcome_readPlain, active]
  | some key =>
      dsimp only
      rw [Script.run_bind, run_openWith]
      rw [outcome_readPlain, Gateway.count, Gateway.active_modifyLayer, active]

theorem outcome_readRetired (tidy : gateway.staged.IsTidy gateway.now party.id) (payload : Bytes) :
    ((desk.readRetired party payload).run gateway).1 =
      match desk.ackUnder? (gateway.keyRing party.id).retired payload with
      | some _ => .rejected .noPendingKey
      | none =>
          desk.plainVerdict party.id (gateway.active.get? party.id).isSome
            ((gateway.keyRing party.id).unseal payload) := by
  have shown : (gateway.keyRing party.id).retired =
      (gateway.staged.retired.get? party.id).map StagedKey.key := by
    rw [Gateway.keyRing, StagedKeys.shown_of_isTidy tidy]
  rw [readRetired, Script.run_bind, Script.run_ask]
  simp only [Gateway.perform, shown, ackUnder?]
  cases gateway.staged.retired.get? party.id with
  | none => exact desk.outcome_readActive party gateway payload
  | some held =>
      simp only [Option.map_some, Option.bind_some]
      rw [Script.run_bind, run_openWith]
      cases desk.ackTarget? (Cipher.transform held.key payload) with
      | some target => rfl
      | none =>
          dsimp only
          rw [outcome_readActive, Gateway.keyRing_count, Gateway.count, Gateway.active_modifyLayer]

/-- An acknowledgement under the key that is still staged activates it, if it names the channel. -/
theorem outcome_activate {held : StagedKey}
    (live : gateway.staged.live gateway.now party.id = some held) (target : Identity) :
    ((desk.activate party target held).run gateway).1 =
      if target ≠ party.id then .rejected .identityMismatch else .activated := by
  rw [activate]
  split
  · rfl
  · rw [Script.run_bind, Script.run_ask]
    have taken : (gateway.staged.takeIf gateway.now party.id held).1 = some held := by
      rw [StagedKeys.live_eq_shown, Option.map_eq_some_iff] at live
      obtain ⟨staging, shown, rfl⟩ := live
      simp [StagedKeys.takeIf_eq, shown]
    simp only [Gateway.perform, Gateway.onStaged_fst, taken]
    rfl

theorem outcome_readStaged (payload : Bytes) :
    ((desk.readStaged party payload).run gateway).1 =
      desk.verdict party.id (gateway.keyRing party.id) payload := by
  have tidy := gateway.staged.isTidy_expireDue gateway.now party.id
  have same := gateway.keyRing_look party.id party.id
  have active : { gateway with
      staged := gateway.staged.expireDue gateway.now party.id }.active.get? party.id =
        (gateway.keyRing party.id).active := rfl
  have still : (gateway.staged.expireDue gateway.now party.id).live gateway.now party.id =
      gateway.staged.live gateway.now party.id := by
    rw [StagedKeys.live_eq_shown, StagedKeys.shown_expireDue, ← StagedKeys.live_eq_shown]
  have staged : (gateway.keyRing party.id).staged =
      (gateway.staged.live gateway.now party.id).map StagedKey.key := rfl
  rw [readStaged, Script.run_bind, Script.run_ask, verdict, staged]
  simp only [Gateway.perform, Gateway.stagedKey, Gateway.onStaged_fst, Gateway.onStaged_snd,
    StagedKeys.get_fst, StagedKeys.get_snd]
  cases live : gateway.staged.live gateway.now party.id with
  | none =>
      dsimp only [Option.map_none]
      rw [outcome_readRetired _ _ _ tidy, same, active]
      rfl
  | some held =>
      simp only [Option.map_some]
      rw [Script.run_bind, run_openWith]
      cases acknowledged : desk.ackTarget? (Cipher.transform held.key payload) with
      | some target =>
          simp only [ackUnder?, Option.bind_some, acknowledged]
          apply outcome_activate
          simpa [Gateway.count] using still.trans live
      | none =>
          simp only [ackUnder?, Option.bind_some, acknowledged]
          rw [Script.run_bind, Script.run_ask]
          simp only [Gateway.perform]
          rw [outcome_readRetired, Gateway.keyRing_count, Gateway.keyRing_count, same]
          · simp only [Gateway.count, Gateway.active_modifyLayer]
            rfl
          · simpa [Gateway.count] using tidy

/-- The keys of its identity decide what becomes of a message on a clear channel. -/
theorem outcome_handleClear (payload : Bytes) :
    ((desk.handleClear party payload).run gateway).1 =
      desk.verdict party.id (gateway.keyRing party.id) payload := by
  rw [← outcome_readStaged, handleClear, Script.run_bind]
  dsimp only
  split <;> rfl

theorem report_clear {gateway : Gateway} {handle : Handle} {identity : Identity}
    (known : gateway.Knows ⟨handle, identity⟩) (payload : Bytes) :
    (desk.act gateway (.clear handle payload)).1 =
      .clear (desk.verdict identity (gateway.keyRing identity) payload) := by
  simp only [act, Gateway.attend_of_knows known, Option.elim_some, outcome_handleClear]

end Desk

end PadRelay
