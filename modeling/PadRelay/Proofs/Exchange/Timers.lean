import PadRelay.Proofs.Exchange.Issuing
import PadRelay.Proofs.Exchange.Reach
import PadRelay.Proofs.Gateway.Alike

/-!
# When timers run

Two runs that differ only in when timers go off report the same and hand over the same, as long as
no key is issued over an overdue one. Issuing over an overdue key that its timer has left retires
it, so that its late acknowledgement is still recognised; had the timer run, the key would be gone.
-/

namespace PadRelay

/-- Whether a call stages a key. -/
def Call.isStage : Call → Bool
  | .stage _ _ => true
  | _ => false

namespace Gateway

theorem generation_perform (gateway : Gateway) (request : Call) :
    (gateway.perform request).2.staged.generation =
      gateway.staged.generation + if request.isStage then 1 else 0 := by
  by_cases plain : request.IsPlain
  · have kept := (drifts_perform plain gateway).sheds.generation
    cases request with
    | stage => cases plain
    | _ => exact kept
  · cases request with
    | stage => rfl
    | onClose handle hook => exact (Sheds.onClose gateway handle hook).generation
    | generate policy size =>
        simp only [perform]
        split <;> rfl
    | takeStaged identity expected =>
        simp only [perform, onStaged_snd, StagedKeys.takeIf_eq, StagedKeys.remove_snd]
        split
        · split <;> rfl
        · rfl
    | unstage identity =>
        simp only [perform, StagedKeys.remove_snd]
        rfl
    | activate | deactivate => rfl
    | place | enter | join | watch | forget => simp [perform, place, Call.isStage]
    | _ => exact absurd trivial plain

/-- A run moves the generation by as many steps as it stages keys. -/
theorem generation_run {α : Type} (script : Script α) (gateway : Gateway) :
    (script.run gateway).2.staged.generation =
      gateway.staged.generation + (script.calls gateway).countP Call.isStage := by
  induction script generalizing gateway with
  | done value => rfl
  | call request next induction =>
      rw [Script.run_call, induction, generation_perform, Script.calls, List.countP_cons]
      omega

end Gateway

namespace Desk

variable {desk : Desk} {gateway : Gateway} {party : Party} {payload : Bytes}

theorem grants_of_stages (known : gateway.Knows party) {target : Identity} {key : Key}
    (made : .stage target key ∈ (desk.handleEncrypted party payload).calls gateway) :
    ∃ requested, desk.Grants gateway party payload target requested := by
  have answer := desk.answer_handleEncrypted party gateway payload
  have effect := desk.effect_handleEncrypted party payload gateway known
  have counted := Gateway.generation_run (desk.handleEncrypted party payload) gateway
  have some_staged : 0 < ((desk.handleEncrypted party payload).calls gateway).countP Call.isStage :=
    List.countP_pos_iff.2 ⟨_, made, rfl⟩
  generalize (desk.handleEncrypted party payload).run gateway = result at answer effect counted
  obtain ⟨outcome, after⟩ := result
  dsimp only at answer counted
  cases effect with
  | idle failure drifts =>
      have same := drifts.sheds.generation
      omega
  | deleted asked first active last =>
      have same := last.sheds.generation.trans first.sheds.generation
      omega
  | issued =>
      obtain ⟨other, requested, -, -, grants, -⟩ := answer.eq_issued
      rcases desk.mem_calls_handleEncrypted party gateway payload made with early | closing
      · cases early with
        | stage asked _ =>
            cases grants.eq_of_asked asked
            exact ⟨requested, grants⟩
      · cases closing

end Desk

namespace Gateway.Alike

variable {left right : Gateway} (alike : left.Alike (fun _ => False) right)
include alike

theorem grants_iff (desk : Desk) (party : Party) (payload : Bytes) (target : Identity)
    (requested : Option UInt32) :
    desk.Grants left party payload target requested ↔
      desk.Grants right party payload target requested := by
  obtain ⟨base, agrees⟩ := alike
  exact ⟨fun grants => ⟨grants.asked, grants.secure, grants.sameHost, grants.allowed⟩,
    fun grants => ⟨grants.asked, grants.secure, grants.sameHost, grants.allowed⟩⟩

theorem attach (desk : Desk) (party : Party) :
    ((desk.attach party).run left).2.Alike (fun _ => False) ((desk.attach party).run right).2 := by
  have tame : (desk.attach party).Only (Call.IsTame fun _ => False) := by
    refine Script.Only.bind (Script.Only.bind (.ask trivial) fun held => ?_) fun _ =>
      Script.Only.bind (.ask trivial) fun _ => Script.Only.bind (.ask trivial) fun encoded => ?_
    · split
      · trivial
      · exact .ask trivial
    · cases encoded with
      | ok payload => exact Script.Only.bind (.ask trivial) fun _ => trivial
      | error error => trivial
  exact (alike.run (tame.of_mem_calls left)).2

/-- A message on a clear channel is handled alike: the first look at the staged key leaves its
identity without an overdue one. -/
theorem handleClear (desk : Desk) (party : Party) (payload : Bytes) :
    ((desk.handleClear party payload).run left).1 =
        ((desk.handleClear party payload).run right).1 ∧
      ((desk.handleClear party payload).run left).2.Alike (fun _ => False)
        ((desk.handleClear party payload).run right).2 := by
  have looks : ∃ next, desk.handleClear party payload = .call (.staged party.id) next := ⟨_, rfl⟩
  have calls := desk.clearCalls_handleClear party payload
  obtain ⟨next, shape⟩ := looks
  rw [shape] at calls ⊢
  obtain ⟨same, seen⟩ := alike.look party.id
  have tame (request : Call) (call : desk.ClearCall party request) :
      request.IsTame fun other => False ∨ other = party.id := by
    cases call with
    | retired => exact .inr rfl
    | _ => trivial
  rw [Script.run_call, Script.run_call, ← same]
  obtain ⟨equal, after⟩ := seen.run fun request made =>
    tame request ((calls.2 _).of_mem_calls _ request made)
  exact ⟨equal, after.weaken fun _ => False.elim⟩

/-- The request of an encrypted channel is handled alike, if the key that it may ask for would not
be issued over an overdue one. -/
theorem handleEncrypted (desk : Desk) {party : Party} (known : left.Knows party) (payload : Bytes)
    (on_left : ∀ target requested, desk.Grants left party payload target requested →
      left.staged.IsTidy left.now target)
    (on_right : ∀ target requested, desk.Grants right party payload target requested →
      right.staged.IsTidy right.now target) :
    ((desk.handleEncrypted party payload).run left).1 =
        ((desk.handleEncrypted party payload).run right).1 ∧
      ((desk.handleEncrypted party payload).run left).2.Alike (fun _ => False)
        ((desk.handleEncrypted party payload).run right).2 := by
  have sharp : left.Alike
      (fun target => ∃ requested, desk.Grants left party payload target requested) right :=
    alike.sharpen (fun target ⟨requested, grants⟩ => on_left target requested grants)
      fun target ⟨requested, grants⟩ =>
        on_right target requested ((alike.grants_iff desk party payload target requested).1 grants)
  have tame (request : Call) (made : request ∈ (desk.handleEncrypted party payload).calls left) :
      request.IsTame fun target =>
        ∃ requested, desk.Grants left party payload target requested := by
    rcases desk.mem_calls_handleEncrypted party left payload made with early | closing
    · cases early with
      | stage asked key => exact Desk.grants_of_stages known made
      | _ => trivial
    · rw [closing]
      trivial
  obtain ⟨same, after⟩ := sharp.run tame
  exact ⟨same, after.weaken fun _ => False.elim⟩

theorem undergo {occurrence : Occurrence} (silent : ∀ identity generation,
      occurrence ≠ .rings identity generation) :
    (left.undergo occurrence).Alike (fun _ => False) (right.undergo occurrence) := by
  cases occurrence with
  | opens id secure remote outlet =>
      obtain ⟨base, agrees⟩ := alike
      exact .intro (base.undergo (.opens id secure remote outlet)) agrees
  | outlet handle outlet =>
      obtain ⟨base, agrees⟩ := alike
      exact .intro (base.undergo (.outlet handle outlet)) agrees
  | closes handle => exact alike.close handle
  | passes duration =>
      obtain ⟨base, agrees⟩ := alike
      exact .intro (base.advance duration) (agrees.later (Nat.le_add_right _ _))
  | rings identity generation => exact absurd rfl (silent identity generation)

theorem ring (identity : Identity) (generation : Nat) :
    (left.undergo (.rings identity generation)).Alike (fun _ => False) right := by
  obtain ⟨base, agrees⟩ := alike
  exact .intro base (agrees.ring identity generation)

theorem dropState (family : Family) :
    (left.dropState family).Alike (fun _ => False) (right.dropState family) := by
  obtain ⟨base, agrees⟩ := alike
  have cleared : Alike (fun _ => False) _ _ := .intro { base with active := ∅ } agrees.clear
  exact cleared.modifyLayer family _

/-- A handler that leaves gateways alike does so when it is run for a connection. -/
theorem attend {α : Type} (handle : Handle) {handler : Party → Script α}
    (lockstep : ∀ party, left.Knows party → party.handle = handle →
      ((handler party).run left).1 = ((handler party).run right).1 ∧
        ((handler party).run left).2.Alike (fun _ => False) ((handler party).run right).2) :
    (left.attend handle handler).1 = (right.attend handle handler).1 ∧
      (left.attend handle handler).2.Alike (fun _ => False) (right.attend handle handler).2 := by
  cases found : left.idOf? handle with
  | none =>
      rw [attend_of_absent found, attend_of_absent ((alike.idOf? handle).symm.trans found)]
      exact ⟨rfl, alike⟩
  | some id =>
      have known : left.Knows ⟨handle, id⟩ := found
      have also : right.Knows ⟨handle, id⟩ := (alike.idOf? handle).symm.trans found
      obtain ⟨same, after⟩ := lockstep ⟨handle, id⟩ known rfl
      rw [attend_of_knows known, attend_of_knows also]
      exact ⟨congrArg some same, after⟩

end Gateway.Alike

/-- Whether an act is a timer that goes off. -/
def Act.isRing : Act → Bool
  | .occurs (.rings _ _) => true
  | _ => false

namespace Desk

variable (desk : Desk)

/-- The acts of a run that are no timers, each as it can be told from outside: what it reports, and
every connection after it. -/
def trail (start : Gateway) : List Act → List (Report × Table Handle (Connection Hook))
  | [] => []
  | act :: acts =>
      let (report, after) := desk.act start act
      if act.isRing then trail after acts else (report, after.connections) :: trail after acts

/-- Whether an act issues no key over an overdue one. -/
def Timely (gateway : Gateway) : Act → Prop
  | .encrypted handle payload =>
      ∀ party target requested, party.handle = handle → gateway.Knows party →
        desk.Grants gateway party payload target requested →
          gateway.staged.IsTidy gateway.now target
  | _ => True

/-- Whether no act of a run issues a key over an overdue one. -/
def AllTimely (start : Gateway) : List Act → Prop
  | [] => True
  | act :: acts => desk.Timely start act ∧ AllTimely (desk.act start act).2 acts

variable {desk}

/-- An act that is no timer reports the same on gateways that are alike, and leaves them alike. -/
theorem alike_act {left right : Gateway} (alike : left.Alike (fun _ => False) right) {act : Act}
    (silent : act.isRing = false) (on_left : desk.Timely left act)
    (on_right : desk.Timely right act) :
    (desk.act left act).1 = (desk.act right act).1 ∧
      (desk.act left act).2.Alike (fun _ => False) (desk.act right act).2 := by
  cases act with
  | occurs occurrence =>
      refine ⟨rfl, alike.undergo ?_⟩
      rintro identity generation rfl
      cases silent
  | attach handle =>
      refine ⟨rfl, (alike.attend handle fun party _ _ => ⟨?_, alike.attach desk party⟩).2⟩
      exact Subsingleton.elim _ _
  | clear handle payload =>
      obtain ⟨same, after⟩ := alike.attend handle fun party _ _ =>
        alike.handleClear desk party payload
      exact ⟨congrArg (fun outcome => outcome.elim Report.silent Report.clear) same, after⟩
  | encrypted handle payload =>
      obtain ⟨same, after⟩ := alike.attend handle fun party known (here : party.handle = handle) =>
        alike.handleEncrypted desk known payload
          (fun target requested => on_left party target requested here known)
          fun target requested => on_right party target requested here
            ((alike.idOf? party.handle).symm.trans known)
      exact ⟨congrArg (fun outcome => outcome.elim Report.silent Report.encrypted) same, after⟩
  | shutdown => exact ⟨rfl, alike.dropState desk.family⟩

theorem trail_cons_of_ring {start : Gateway} {act : Act} (rings : act.isRing = true)
    (acts : List Act) : desk.trail start (act :: acts) = desk.trail (desk.act start act).2 acts :=
  if_pos rings

/-- Timers in front of a run are not noticed, neither by themselves nor by what follows. -/
theorem alike_rings (desk : Desk) {left right : Gateway} (alike : left.Alike (fun _ => False) right)
    {rings : List Act} (ring : ∀ act ∈ rings, act.isRing = true) (acts : List Act) :
    (desk.run left rings).Alike (fun _ => False) right ∧
      desk.trail left (rings ++ acts) = desk.trail (desk.run left rings) acts ∧
        (desk.AllTimely left (rings ++ acts) → desk.AllTimely (desk.run left rings) acts) := by
  induction rings generalizing left with
  | nil => exact ⟨alike, rfl, id⟩
  | cons act rings induction =>
      have first := ring act List.mem_cons_self
      have rung : (desk.act left act).2.Alike (fun _ => False) right := by
        cases act with
        | occurs occurrence =>
            cases occurrence with
            | rings identity generation => exact alike.ring identity generation
            | _ => cases first
        | _ => cases first
      obtain ⟨after, same, timely⟩ :=
        induction rung fun later member => ring later (List.mem_cons_of_mem _ member)
      exact ⟨after, (trail_cons_of_ring first _).trans same, fun all => timely all.2⟩

/-- A run of nothing but timers leaves no trail. -/
theorem trail_of_rings {start : Gateway} {acts : List Act}
    (rings : acts.filter (fun act => !act.isRing) = []) : desk.trail start acts = [] := by
  induction acts generalizing start with
  | nil => rfl
  | cons act acts induction =>
      rw [List.filter_eq_nil_iff] at rings
      have first : act.isRing = true := by simpa using rings act List.mem_cons_self
      rw [trail_cons_of_ring first]
      exact induction (List.filter_eq_nil_iff.2 fun later member =>
        rings later (List.mem_cons_of_mem _ member))

theorem trail_eq_of_alike {left right : Gateway} (alike : left.Alike (fun _ => False) right)
    {acts others : List Act}
    (same : acts.filter (fun act => !act.isRing) = others.filter fun act => !act.isRing)
    (on_left : desk.AllTimely left acts) (on_right : desk.AllTimely right others) :
    desk.trail left acts = desk.trail right others := by
  generalize shared : others.filter (fun act => !act.isRing) = protocol at same
  -- The induction is on what the two runs have in common; timers in front of it are passed over.
  induction protocol generalizing left right acts others with
  | nil => rw [trail_of_rings same, trail_of_rings shared]
  | cons act protocol induction =>
      obtain ⟨rings, acts, rfl, early, silent, same⟩ := List.filter_eq_cons_iff.1 same
      obtain ⟨other_rings, others, rfl, other_early, -, shared⟩ := List.filter_eq_cons_iff.1 shared
      obtain ⟨alike, trail, timely⟩ :=
        alike_rings desk alike (by simpa using early) (act :: acts)
      obtain ⟨also, other_trail, other_timely⟩ :=
        alike_rings desk alike.symm (by simpa using other_early) (act :: others)
      rw [trail, other_trail]
      obtain ⟨now, later⟩ := timely on_left
      obtain ⟨other_now, other_later⟩ := other_timely on_right
      have silent : act.isRing = false := by simpa using silent
      obtain ⟨report, after⟩ := alike_act also.symm silent now other_now
      have rest := induction after later other_later shared same
      simp only [Desk.trail, silent, report, after.connections, rest]

/-- Two runs that differ in timers alone report the same and leave every connection the same after
each act, if neither issues a key over an overdue one. -/
theorem trail_eq_of_timely (desk : Desk) {start : Gateway} (positive : 0 < start.staged.expiry)
    {acts others : List Act}
    (same : acts.filter (fun act => !act.isRing) = others.filter fun act => !act.isRing)
    (timely : desk.AllTimely start acts) (also : desk.AllTimely start others) :
    desk.trail start acts = desk.trail start others :=
  trail_eq_of_alike (.refl start positive) same timely also

/-- The key of the sample run expires before its acknowledgement comes, and the given timers go off
in between. -/
def lateAck (timers : List Act) : List Act :=
  Sample.acts.take 4 ++ [.occurs (.passes 30)] ++ timers ++ [.clear 0 Sample.ack]

theorem trail_lateAck :
    (lateAck [.occurs (.rings 1 0)]).filter (fun act => !act.isRing) =
        (lateAck []).filter (fun act => !act.isRing) ∧
      Desk.trail {} Sample.start (lateAck [.occurs (.rings 1 0)]) =
        Desk.trail {} Sample.start (lateAck []) := by
  have positive : 0 < Sample.start.staged.expiry := by decide
  have tidy (target : Identity) :
      (Desk.run {} Sample.start (Sample.acts.take 3)).staged.IsTidy
        (Desk.run {} Sample.start (Sample.acts.take 3)).now target := by
    rintro staging ⟨⟩
  have timely (timers : List Act)
      (rest : ∀ start, Desk.AllTimely {} start (timers ++ [.clear 0 Sample.ack])) :
      Desk.AllTimely {} Sample.start (lateAck timers) :=
    And.intro trivial (And.intro trivial (And.intro trivial (And.intro
      (fun _ target _ _ _ _ => tidy target) (And.intro trivial (rest _)))))
  have same : (lateAck [.occurs (.rings 1 0)]).filter (fun act => !act.isRing) =
      (lateAck []).filter (fun act => !act.isRing) := rfl
  refine ⟨same, trail_eq_of_timely {} positive same (timely _ fun start => ?_)
    (timely _ fun start => ?_)⟩
  · exact And.intro trivial (And.intro trivial trivial)
  · exact And.intro trivial trivial

/-- The sample client asks for another key after its first one has expired, and then acknowledges
the first; the given timers go off in between. -/
def supersededAck (timers : List Act) : List Act :=
  [.occurs (.opens 1 false Sample.remote (.record [] false)),
    .occurs (.opens 2 true Sample.remote (.record [] false)),
    .occurs (.opens 3 true Sample.remote (.record [] false)),
    .attach 0,
    .encrypted 1 (Codec.json.encode (.keyRequest (.newKey 1 (some 1)))),
    .occurs (.passes 30)] ++ timers ++
  [.encrypted 2 (Codec.json.encode (.keyRequest (.newKey 1 (some 1)))),
    .clear 0 Sample.ack]

/-- Issuing over an overdue key shows whether its timer has run: the acknowledgement of the old key
is refused if it has not, and taken for an application payload if it has. -/
theorem trail_supersededAck_ne :
    (supersededAck [.occurs (.rings 1 0)]).filter (fun act => !act.isRing) =
        (supersededAck []).filter (fun act => !act.isRing) ∧
      (Desk.trail {} Sample.start (supersededAck [.occurs (.rings 1 0)])).map Prod.fst ≠
        (Desk.trail {} Sample.start (supersededAck [])).map Prod.fst := by
  refine ⟨rfl, ?_⟩
  decide +kernel

end Desk

end PadRelay
