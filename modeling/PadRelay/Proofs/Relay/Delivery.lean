import PadRelay.Proofs.Exchange.Holding
import PadRelay.Proofs.Exchange.Queue
import PadRelay.Proofs.Gateway.Sweep
import PadRelay.Proofs.Relay.Run
import PadRelay.Proofs.Transcript

/-!
# Delivery

A payload goes to the connections of a list one after the other, each copy sealed with the key that
is active for its recipient. Handing a copy over can close that recipient and so drop its keys, but
it touches neither the outlet nor the keys of another: each gets what it would get alone.
-/

namespace PadRelay

namespace Gateway

/-- Handing over a payload spares all keys but those of a connection that it closes. -/
theorem holding_send {gateway : Gateway} (own : gateway.OwnHooks) {party : Party}
    (known : gateway.Knows party) (payload : Bytes) (identity : Identity) :
    (gateway.send party.handle payload).2.holding identity = gateway.holding identity ∨
      party.id = identity ∧ gateway.isOpen party.handle = true ∧
        (gateway.send party.handle payload).2.isOpen party.handle = false := by
  obtain ⟨connection, found, -⟩ := known.exists_connection
  rw [send_eq gateway payload found, isOpen_settle, if_pos rfl]
  refine (holding_turns own found (connection.turns_send payload) identity).imp_right ?_
  rintro ⟨waits, closed⟩
  exact ⟨Option.some.inj (known.symm.trans waits.idOf?_eq), waits.isOpen, closed⟩

/-- Nothing has changed but counters, pairs and keys that were overdue. -/
structure Glances (before after : Gateway) : Prop where
  connections : after.connections = before.connections
  directory : ∀ family, (after.layer family).directory = (before.layer family).directory
  dressing : ∀ family, (after.layer family).dressing = (before.layer family).dressing
  holding : ∀ identity, after.holding identity = before.holding identity

namespace Glances

theorem refl (gateway : Gateway) : gateway.Glances gateway :=
  ⟨rfl, fun _ => rfl, fun _ => rfl, fun _ => rfl⟩

theorem trans {before middle after : Gateway} (first : before.Glances middle)
    (second : middle.Glances after) : before.Glances after where
  connections := second.connections.trans first.connections
  directory family := (second.directory family).trans (first.directory family)
  dressing family := (second.dressing family).trans (first.dressing family)
  holding identity := (second.holding identity).trans (first.holding identity)

theorem count (gateway : Gateway) (family : Family) (event : Event) :
    gateway.Glances (gateway.count family event) where
  connections := by simp [Gateway.count]
  directory other := by
    rw [Gateway.count, layer_modifyLayer]
    split <;> rfl
  dressing other := by
    rw [Gateway.count, layer_modifyLayer]
    split <;> rfl
  holding identity := by simp [Gateway.holding, Gateway.count]

theorem look (gateway : Gateway) (identity : Identity) :
    gateway.Glances { gateway with
      staged := gateway.staged.expireDue gateway.now identity } where
  connections := rfl
  directory family := by cases family <;> rfl
  dressing family := by cases family <;> rfl
  holding other := by
    simp only [Gateway.holding, StagedKeys.live_eq_shown, StagedKeys.shown_expireDue]

theorem stock {before after : Gateway} (glances : before.Glances after) (identity : Identity) :
    after.stock identity = before.stock identity := by
  rw [Gateway.stock, glances.holding, Gateway.stock]

end Glances

/-- A payload is sealed with the recipient's own active key on its way through the directory. -/
theorem dress_of_sealed {gateway : Gateway} {family : Family}
    (sealed : (gateway.layer family).dressing = .sealed) (recipient : Identity) (payload : Bytes) :
    (gateway.dress family recipient payload).1 = (gateway.stock recipient).wrap payload ∧
      gateway.Glances (gateway.dress family recipient payload).2 := by
  have active : (gateway.stock recipient).active = gateway.active.get? recipient := rfl
  simp only [dress, sealed, sealFor, Stock.wrap, active]
  cases gateway.active.get? recipient with
  | some key => exact ⟨rfl, .count gateway family .encrypted⟩
  | none => exact ⟨rfl, .refl gateway⟩

theorem glances_dress (gateway : Gateway) (family : Family) (recipient : Identity)
    (payload : Bytes) : gateway.Glances (gateway.dress family recipient payload).2 := by
  cases dressing : (gateway.layer family).dressing with
  | sealed => exact (dress_of_sealed dressing recipient payload).2
  | custom change =>
      simp only [dress, dressing]
      exact .refl gateway

/-- A payload has been handed to some connections. -/
structure Delivered (before : Gateway) (recipient : Party → Prop) (plain : Bytes)
    (after : Gateway) : Prop where
  /-- Every recipient has been handed one copy, sealed with its own active key. -/
  reached : ∀ party, recipient party → after.mouthOf? party.handle =
    (before.mouthOf? party.handle).map fun mouth =>
      mouth.push ((before.stock party.id).wrap plain)
  /-- Nobody else has been handed anything. -/
  passed : ∀ handle, (∀ party, recipient party → party.handle ≠ handle) →
    after.mouthOf? handle = before.mouthOf? handle
  /-- All keys are spared but those of a recipient that has been closed. -/
  spared : ∀ identity, after.holding identity = before.holding identity ∨
    ∃ party, recipient party ∧ party.id = identity ∧ before.isOpen party.handle = true ∧
      after.isOpen party.handle = false

namespace Delivered

variable {before middle after : Gateway} {recipient : Party → Prop} {plain : Bytes}

theorem nobody (glances : before.Glances after) :
    before.Delivered (fun _ => False) plain after where
  reached _ impossible := impossible.elim
  passed handle _ := mouthOf?_congr handle glances.connections
  spared identity := .inl (glances.holding identity)

theorem of_glances (glances : before.Glances middle)
    (delivered : middle.Delivered recipient plain after) :
    before.Delivered recipient plain after where
  reached party chosen := by
    rw [delivered.reached party chosen, mouthOf?_congr _ glances.connections, glances.stock]
  passed handle others :=
    (delivered.passed handle others).trans (mouthOf?_congr handle glances.connections)
  spared identity := by
    rw [← glances.holding identity]
    refine (delivered.spared identity).imp_right fun ⟨party, chosen, own, wasOpen, closed⟩ => ?_
    exact ⟨party, chosen, own, isOpen_congr glances.connections party.handle ▸ wasOpen, closed⟩

theorem congr {others : Party → Prop} (same : ∀ party, others party ↔ recipient party)
    (delivered : before.Delivered recipient plain after) :
    before.Delivered others plain after := by
  rwa [show others = recipient from funext fun party => propext (same party)]

/-- Delivery to one connection, and then to others that have other handles and identities, is
delivery to them all. -/
theorem cons {party : Party} (first : before.Delivered (· = party) plain middle)
    (rest : middle.Delivered recipient plain after)
    (apart : ∀ other, recipient other → other.handle ≠ party.handle ∧ other.id ≠ party.id) :
    before.Delivered (fun other => other = party ∨ recipient other) plain after where
  reached other chosen := by
    rcases chosen with rfl | later
    · rw [rest.passed other.handle fun another chosen => (apart another chosen).1]
      exact first.reached other rfl
    · -- The first recipient has another identity, so the keys of this one are still the same.
      have kept : middle.holding other.id = before.holding other.id := by
        rcases first.spared other.id with kept | ⟨another, rfl, own, -, -⟩
        · exact kept
        · exact absurd own.symm (apart other later).2
      have same : middle.stock other.id = before.stock other.id := by
        rw [Gateway.stock, kept, Gateway.stock]
      rw [rest.reached other later, same, first.passed other.handle]
      rintro another rfl
      exact Ne.symm (apart other later).1
  passed handle others := by
    rw [rest.passed handle fun other chosen => others other (.inr chosen)]
    exact first.passed handle fun other chosen => others other (.inl chosen)
  spared identity := by
    rcases rest.spared identity with kept | ⟨other, later, own, wasOpen, closed⟩
    · rw [kept]
      refine (first.spared identity).imp_right ?_
      rintro ⟨other, rfl, own, wasOpen, closed⟩
      refine ⟨other, .inl rfl, own, wasOpen, ?_⟩
      rw [isOpen_eq_mouthOf?, rest.passed other.handle fun another chosen =>
        (apart another chosen).1, ← isOpen_eq_mouthOf?]
      exact closed
    · refine .inr ⟨other, .inr later, own, ?_, closed⟩
      rw [isOpen_eq_mouthOf?, first.passed other.handle, ← isOpen_eq_mouthOf?] at wasOpen
      · exact wasOpen
      · rintro another rfl
        exact Ne.symm (apart other later).1

end Delivered

theorem Sound.knows_audience {gateway : Gateway} (sound : gateway.Sound [] none) {family : Family}
    {group : String} {except : List ChannelKey} {member : Party}
    (standing : member ∈ (gateway.layer family).directory.audience group except) :
    gateway.Knows member := by
  obtain ⟨id, found⟩ := (Directory.mem_members_iff _ _ _).1 (List.mem_of_mem_filter standing)
  exact sound.knows member (.directory (.member found))

end Gateway

namespace Desk

open Script (ask)

variable {desk : Desk} {gateway : Gateway}

/-- What the directory of a desk makes of a payload for a recipient. -/
def copy (desk : Desk) (gateway : Gateway) (plain : Bytes) (recipient : Identity) : Bytes :=
  (gateway.dress desk.family recipient plain).1

/-- Sending to one connection pushes its copy, if it is open, and touches no other outlet. -/
theorem mouthOf?_deliverTo (party : Party) (plain : Bytes) (handle : Handle) :
    ((desk.deliverTo party plain).run gateway).2.mouthOf? handle =
      (gateway.mouthOf? handle).map fun mouth =>
        if party.handle = handle then mouth.push (desk.copy gateway plain party.id) else mouth := by
  rw [deliverTo, Script.run_bind, Script.run_ask]
  split
  · have glances := gateway.glances_dress desk.family party.id plain
    rw [Script.run_bind, Script.run_ask, Script.run_ask, Gateway.mouthOf?_perform]
    simp only [Gateway.perform, Gateway.mouthOf?_congr handle glances.connections]
    rfl
  · next shut =>
      -- A mouth that is closed would not take anything anyway.
      change ¬ gateway.isOpen party.handle = true at shut
      rw [Script.run_pure]
      change gateway.mouthOf? handle = _
      split
      · next same =>
          subst same
          rw [Gateway.isOpen_eq_mouthOf?] at shut
          cases found : gateway.mouthOf? party.handle with
          | none => rfl
          | some mouth =>
              rw [found, Option.any_some, Bool.not_eq_true] at shut
              rw [Option.map_some, Mouth.push_of_closed _ shut]
      · rw [Option.map_id']

/-- Sending to one connection spares all keys but those of a connection that it closes. -/
theorem holding_deliverTo (own : gateway.OwnHooks) {party : Party} (known : gateway.Knows party)
    (plain : Bytes) (identity : Identity) :
    ((desk.deliverTo party plain).run gateway).2.holding identity = gateway.holding identity ∨
      party.id = identity ∧ gateway.isOpen party.handle = true ∧
        ((desk.deliverTo party plain).run gateway).2.isOpen party.handle = false := by
  rw [deliverTo, Script.run_bind, Script.run_ask]
  split
  · have glances := gateway.glances_dress desk.family party.id plain
    rw [Script.run_bind, Script.run_ask, Script.run_ask]
    simp only [Gateway.perform]
    generalize gateway.dress desk.family party.id plain = dressed at glances ⊢
    have own_after : dressed.2.OwnHooks := by rwa [Gateway.OwnHooks, glances.connections]
    have known_after := (Gateway.knows_congr glances.connections party).2 known
    rw [← glances.holding identity, ← Gateway.isOpen_congr glances.connections]
    exact Gateway.holding_send own_after known_after dressed.1 identity
  · exact .inl rfl

/-- Sending to one connection delivers one copy to it, if it is open. -/
theorem delivered_deliverTo (sealed : (gateway.layer desk.family).dressing = .sealed)
    (own : gateway.OwnHooks) {party : Party} (known : gateway.Knows party) (plain : Bytes) :
    gateway.Delivered (· = party) plain ((desk.deliverTo party plain).run gateway).2 where
  reached other same := by
    rw [same, mouthOf?_deliverTo, copy, (Gateway.dress_of_sealed sealed party.id plain).1]
    simp
  passed handle others := by
    rw [mouthOf?_deliverTo]
    simp [others party rfl]
  spared identity :=
    (holding_deliverTo own known plain identity).imp_right fun gone => ⟨party, rfl, gone⟩

/-- Sending to several connections delivers one copy to each. -/
theorem delivered_deliverEach (sealed : (gateway.layer desk.family).dressing = .sealed)
    (sound : gateway.Sound [] none) {parties : List Party}
    (known : ∀ party ∈ parties, gateway.Knows party) (distinct : (parties.map Party.id).Nodup)
    (plain : Bytes) :
    gateway.Delivered (· ∈ parties) plain ((desk.deliverEach plain parties).run gateway).2 := by
  induction parties generalizing gateway with
  | nil => exact (Gateway.Delivered.nobody (.refl gateway)).congr (by simp)
  | cons party parties induction =>
      rw [List.map_cons, List.nodup_cons, List.mem_map] at distinct
      obtain ⟨alone, others⟩ := distinct
      have known_party := known party List.mem_cons_self
      have first := delivered_deliverTo sealed sound.own known_party plain
      have drifts := Gateway.drifts_run (desk.plain_deliverTo party plain) gateway
      have revises : gateway.Revises desk.family id ((desk.deliverTo party plain).run gateway).2 :=
        .drifts sound drifts
      rw [deliverEach, Script.run_bind, Script.run_bind, Script.run_pure]
      have rest := induction (revises.dressing.trans sealed) (sound.drifts drifts)
        (fun other member => revises.knows other (known other (List.mem_cons_of_mem _ member)))
        others
      refine (first.cons rest fun other member => ?_).congr fun other => List.mem_cons
      have different : other.id ≠ party.id := fun same => alone ⟨other, member, same⟩
      refine ⟨fun same => different ?_, different⟩
      have known_other := known other (List.mem_cons_of_mem _ member)
      exact congrArg Party.id (known_other.eq_of_handle_eq known_party same)

variable (desk) in
theorem delivered_broadcast (sound : gateway.Sound [] none)
    (sealed : (gateway.layer desk.family).dressing = .sealed)
    (indexed : (gateway.layer desk.family).directory.Indexed) (group : String)
    (except : List ChannelKey) (plain : Bytes) :
    gateway.Delivered (· ∈ (gateway.layer desk.family).directory.audience group except) plain
      ((desk.broadcast group plain except).run gateway).2 := by
  rw [broadcast, Script.run_bind, Script.run_ask]
  exact delivered_deliverEach sealed sound (fun _ => sound.knows_audience)
    (indexed.nodup_audience _) plain

end Desk

end PadRelay
