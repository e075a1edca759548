import Mathlib.Data.List.Count
import PadRelay.Proofs.Gateway.Counting

/-!
# The books of a family

Of the seven events four are verdicts: each is the end of a request or of a message. The other
three are the work on the way there. A script books its verdicts if a run of it counts exactly those
that its result calls for, whatever it does besides. Every miss is counted together with the opening
that missed, so there are never more of them.
-/

namespace PadRelay

/-- How often an event has been counted. -/
def Tally.of (tally : Tally) : Event → Nat
  | .encrypted => tally.encrypted
  | .decrypted => tally.decrypted
  | .ambiguous => tally.ambiguous
  | .issued => tally.issued
  | .activated => tally.activated
  | .deleted => tally.deleted
  | .rejected => tally.rejected

theorem Tally.of_count (tally : Tally) (counted event : Event) :
    (tally.count counted).of event = tally.of event + [counted].count event := by
  cases counted <;> cases event <;> rfl

/-- Tallies in which every event has been counted equally often are the same. -/
theorem Tally.ext_of {left right : Tally} (same : ∀ event, left.of event = right.of event) :
    left = right := by
  cases left
  cases right
  simp only [Tally.mk.injEq]
  exact ⟨same .encrypted, same .decrypted, same .ambiguous, same .issued, same .activated,
    same .deleted, same .rejected⟩

/-- Whether an event ends a request or a message. -/
def Event.isVerdict : Event → Bool
  | .issued | .activated | .deleted | .rejected => true
  | .encrypted | .decrypted | .ambiguous => false

/-- A call that counts no verdict and no miss of a family. -/
def Call.IsQuiet (family : Family) (request : Call) : Prop :=
  ∀ event, request.Counts family event → event = .encrypted ∨ event = .decrypted

namespace Gateway

/-- Between two states a family has counted the given verdicts, and no more misses than openings. -/
structure Booked (family : Family) (verdicts : List Event) (before after : Gateway) : Prop where
  counted : ∀ event : Event, event.isVerdict = true →
    (after.tally family).of event = (before.tally family).of event + verdicts.count event
  missed : (after.tally family).ambiguous + (before.tally family).decrypted ≤
    (before.tally family).ambiguous + (after.tally family).decrypted

namespace Booked

variable {family : Family} {verdicts : List Event} {before middle after : Gateway}

theorem trans {later : List Event} (first : before.Booked family verdicts middle)
    (second : middle.Booked family later after) :
    before.Booked family (verdicts ++ later) after where
  counted event verdict := by
    rw [second.counted event verdict, first.counted event verdict, List.count_append,
      Nat.add_assoc]
  missed := by
    have one := first.missed
    have two := second.missed
    omega

theorem calm (first : before.Booked family verdicts middle)
    (second : middle.Booked family [] after) : before.Booked family verdicts after :=
  List.append_nil verdicts ▸ first.trans second

theorem of_tally (same : after.tally family = before.tally family) :
    before.Booked family [] after where
  counted event _ := by rw [same, List.count_nil, Nat.add_zero]
  missed := Nat.le_of_eq (by rw [same])

theorem refl (gateway : Gateway) : gateway.Booked family [] gateway := of_tally rfl

theorem count (gateway : Gateway) (family : Family) {event : Event}
    (verdict : event.isVerdict = true) :
    gateway.Booked family [event] (gateway.count family event) where
  counted other _ := by rw [tally_count, if_pos rfl, Tally.of_count]
  missed := by
    rw [tally_count, if_pos rfl]
    cases event with
    | encrypted | decrypted | ambiguous => cases verdict
    | issued | activated | deleted | rejected => exact Nat.le_refl _

theorem of_work {event : Event} (work : event = .encrypted ∨ event = .decrypted)
    (counted : after.tally family = (before.tally family).count event) :
    before.Booked family [] after where
  counted other verdict := by
    rw [counted, Tally.of_count]
    rcases work with rfl | rfl <;> cases other <;> first | rfl | cases verdict
  missed := by
    rw [counted]
    rcases work with rfl | rfl
    · exact Nat.le_refl _
    · exact Nat.add_le_add_left (Nat.le_succ _) _

theorem miss (gateway : Gateway) (family : Family) :
    gateway.Booked family [] ((gateway.count family .decrypted).count family .ambiguous) where
  counted event verdict := by
    rw [tally_count, tally_count, if_pos rfl, if_pos rfl, Tally.of_count, Tally.of_count]
    cases event <;> first | rfl | cases verdict
  missed := by
    rw [tally_count, tally_count, if_pos rfl, if_pos rfl]
    simp only [Tally.count]
    omega

theorem perform (gateway : Gateway) {request : Call} (quiet : request.IsQuiet family) :
    gateway.Booked family [] (gateway.perform request).2 := by
  rcases gateway.tally_perform family request with same | ⟨event, counts, counted⟩
  · exact of_tally same
  · exact of_work (quiet event counts) counted

theorem run (gateway : Gateway) {α : Type} {script : Script α}
    (quiet : script.Only (Call.IsQuiet family)) :
    gateway.Booked family [] (script.run gateway).2 :=
  quiet.run (Booked family []) refl (fun _ _ _ first second => first.calm second)
    (fun _ permitted gateway => perform gateway permitted) gateway

end Booked

end Gateway

/-- If some verdicts have been booked before, then those that the result calls for have been booked
after a run. -/
def Script.Books {α : Type} (family : Family) (booked : List Event) (script : Script α)
    (verdicts : α → List Event) : Prop :=
  ∀ start gateway, Gateway.Booked family booked start gateway →
    Gateway.Booked family (verdicts (script.run gateway).1) start (script.run gateway).2

namespace Script.Books

variable {α β : Type} {family : Family} {booked : List Event} {script : Script α}
  {next : α → Script β} {early : α → List Event} {verdicts : β → List Event}

theorem bind (first : script.Books family booked early)
    (second : ∀ value, (next value).Books family (early value) verdicts) :
    (script >>= next).Books family booked verdicts := by
  intro start gateway before
  rw [Script.run_bind]
  exact second _ start _ (first start gateway before)

theorem pure {value : β} (right : verdicts value = booked) :
    (Pure.pure value : Script β).Books family booked verdicts := by
  intro start gateway before
  rw [Script.run_pure, right]
  exact before

theorem ask {request : Call} (quiet : request.IsQuiet family) :
    (Script.ask request).Books family booked fun _ => booked :=
  fun _ gateway before => before.calm (.perform gateway quiet)

theorem quiet (calls : script.Only (Call.IsQuiet family)) :
    script.Books family booked fun _ => booked :=
  fun _ gateway before => before.calm (.run gateway calls)

theorem count {event : Event} (verdict : event.isVerdict = true) :
    (Script.ask (.count family event)).Books family booked fun _ => booked ++ [event] :=
  fun _ gateway before => before.trans (.count gateway family verdict)

end Script.Books

end PadRelay
