import PadRelay.Proofs.Relay.Audience
import PadRelay.Proofs.Relay.Registry

/-!
# What the relay and the registries reach

The relay enters connections as clients come and go, and whoever holds a registry enters, removes
and groups them as it likes. In any mixture of the two, and whatever the directories do to payloads,
every directory reads the same both ways, and holds nobody without a hook.
-/

namespace PadRelay

open Directory (Edit)

namespace Gateway

/-- The empty gateway, whose directories dress payloads as given. -/
def furnish (entropy : Entropy) (expiry : Nat) (dressing : Family → Dressing) : Gateway :=
  { fresh entropy expiry with
    socket := { dressing := dressing .socket }
    webSocket := { dressing := dressing .webSocket } }

theorem sound_furnish (entropy : Entropy) (expiry : Nat) (dressing : Family → Dressing) :
    (furnish entropy expiry dressing).Sound [] none := by
  refine (sound_fresh entropy expiry).of_fewer rfl (fun _ keyless => keyless) ?_ ?_
  · intro family identity role party found
    cases family <;> cases found
  · intro family
    cases family <;> rfl

theorem lists_furnish (entropy : Entropy) (expiry : Nat) (dressing : Family → Dressing) :
    (furnish entropy expiry dressing).Lists [] :=
  ⟨fun _ => rfl, rfl⟩

/-- Directories that read the same both ways still do, and payloads are dressed as before. -/
structure Orders (before after : Gateway) : Prop where
  indexed : ∀ family, (before.layer family).directory.Indexed →
    (after.layer family).directory.Indexed
  dressing : ∀ family, (after.layer family).dressing = (before.layer family).dressing

variable {gateway : Gateway}

namespace Orders

theorem trans {before middle after : Gateway} (first : before.Orders middle)
    (second : middle.Orders after) : before.Orders after where
  indexed family indexed := second.indexed family (first.indexed family indexed)
  dressing family := (second.dressing family).trans (first.dressing family)

theorem of_revises {before after : Gateway}
    (change : Family → Directory ChannelKey → Directory ChannelKey)
    (revises : ∀ family, before.Revises family (change family) after)
    (indexed : ∀ family directory, directory.Indexed → (change family directory).Indexed) :
    before.Orders after where
  indexed family held := (revises family).sweeps.indexed (indexed family _ held)
  dressing family := (revises family).dressing

/-- No directory is changed, but connections may have closed. -/
theorem of_sweeps {before after : Gateway}
    (revises : ∀ family, before.Revises family id after) : before.Orders after :=
  of_revises (fun _ => id) revises fun _ _ indexed => indexed

theorem of_edit {before after : Gateway} {family : Family} (edit : Edit ChannelKey)
    (revises : before.Revises family edit.apply after)
    (spares : ∀ other, other ≠ family → before.Revises other id after) : before.Orders after := by
  refine of_revises (fun other => if other = family then edit.apply else id) ?_ ?_
  · intro other
    split
    · next same => exact same ▸ revises
    · next different => exact spares other different
  · intro other directory indexed
    split
    · exact Edit.indexed_apply indexed edit
    · exact indexed

theorem enter {party : Party} (known : gateway.Knows party) (family : Family) (key : ChannelKey) :
    gateway.Orders ((Script.enter family key party).run gateway).2 :=
  of_edit (.put key party) (.enter known key) fun _ different => .enter_of_ne different known key

theorem join {party : Party} (known : gateway.Knows party) (family : Family) (group : String) :
    gateway.Orders ((Script.join family group party).run gateway).2 :=
  of_edit (.join group party) (.join known group) fun _ different =>
    .join_of_ne different known group

theorem onDirectory {α : Type} (family : Family)
    {work : Directory ChannelKey → α × Directory ChannelKey} (edit : Edit ChannelKey)
    (worked : ∀ directory, (work directory).2 = edit.apply directory) :
    gateway.Orders (gateway.onDirectory family work).2 :=
  of_edit edit (.edit edit worked) fun _ different => .onDirectory_of_ne different work

theorem accept (sound : gateway.Sound [] none) (desk : Desk) {party : Party}
    (known : gateway.Knows party) : gateway.Orders ((desk.accept party).run gateway).2 := by
  rw [Desk.accept]
  simp only [Script.run_bind]
  have still := ((keeps_run (Script.enter desk.family (.identity party.id) party) gateway).knows
    party).2 known
  have known_now := ((keeps_run (Script.join desk.family everyone party) _).knows party).2 still
  have entered := sound.enter desk.family (.identity party.id) known
  have joined := entered.join desk.family everyone still
  exact ((enter known desk.family _).trans (join still desk.family everyone)).trans
    (of_sweeps fun family => .attach joined desk known_now)

theorem bind (sound : gateway.Sound [] none) (desk : Desk) (key : ChannelKey)
    (identity : Identity) : gateway.Orders ((desk.bind key identity).run gateway).2 := by
  rw [Desk.bind, Script.run_bind, Script.run_ask]
  split
  · next party found =>
      rw [Script.run_bind, Script.run_pure]
      exact enter (sound.knows party (.directory (.key found))) desk.family key
  · exact of_sweeps fun family => .refl gateway

end Orders

end Gateway

namespace Registry

variable {gateway : Gateway} {ids : List Identity}

theorem lists_act (lists : gateway.Lists ids) (family : Family) (act : Act) :
    (Registry.act family gateway act).Lists (ids ++ act.opened?.toList) := by
  cases act with
  | occurs occurrence => exact lists.undergo occurrence
  | put | join =>
      simpa [Act.opened?, Registry.act] using lists.keeps (gateway.keeps_attend _ _)
  | remove | leave | unregister =>
      simp only [Act.opened?, Option.toList_none, List.append_nil]
      exact lists.keeps (.of_eq (by simp [Registry.act]))
  | closeAll =>
      simpa [Act.opened?, Registry.act] using lists.keeps (.closeEach gateway _)

/-- Whatever is asked of a registry leaves a sound gateway sound. -/
theorem sound_act (sound : gateway.Sound [] none) (lists : gateway.Lists ids) {family : Family}
    (indexed : (gateway.layer family).directory.Indexed) (act : Act) :
    (Registry.act family gateway act).Sound [] none := by
  cases act with
  | occurs occurrence => exact sound.undergo lists occurrence
  | put key handle =>
      exact Gateway.attend_cases (motive := fun after => after.Sound [] none) handle _ sound
        fun party known _ => sound.enter family key known
  | join group handle =>
      exact Gateway.attend_cases (motive := fun after => after.Sound [] none) handle _ sound
        fun party known _ => sound.join family group known
  | remove key => exact sound.edit indexed (.remove key) (fun _ => rfl) rfl
  | leave group id => exact sound.edit indexed (.leave group id) (fun _ => rfl) rfl
  | unregister id => exact sound.edit indexed (.unregister id) (fun _ => rfl) rfl
  | closeAll => exact sound.closeEach _

theorem orders_act (sound : gateway.Sound [] none) (lists : gateway.Lists ids) (family : Family)
    (act : Act) : gateway.Orders (Registry.act family gateway act) := by
  have same : gateway.Orders gateway := .of_sweeps fun family => .refl gateway
  cases act with
  | occurs occurrence => exact .of_sweeps fun family => .undergo sound lists occurrence
  | put key handle =>
      exact Gateway.attend_cases (motive := gateway.Orders) handle _ same
        fun party known _ => .enter known family key
  | join group handle =>
      exact Gateway.attend_cases (motive := gateway.Orders) handle _ same
        fun party known _ => .join known family group
  | remove key => exact .onDirectory family (.remove key) fun _ => rfl
  | leave group id => exact .onDirectory family (.leave group id) fun _ => rfl
  | unregister id => exact .onDirectory family (.unregister id) fun _ => rfl
  | closeAll => exact .of_sweeps fun family => .closeEach sound _

end Registry

namespace Relay

theorem orders_act {gateway : Gateway} {ids : List Identity} (sound : gateway.Sound [] none)
    (lists : gateway.Lists ids) (policy : SizePolicy) (act : Act) :
    gateway.Orders (Relay.act policy gateway act) := by
  have same : gateway.Orders gateway := .of_sweeps fun family => .refl gateway
  cases act with
  | occurs occurrence => exact .of_sweeps fun family => .undergo sound lists occurrence
  | accept family handle =>
      exact Gateway.attend_cases (motive := gateway.Orders) handle _ same
        fun party known _ => .accept sound _ known
  | receive family handle payload =>
      exact Gateway.attend_cases (motive := gateway.Orders) handle _ same
        fun party _ _ => .of_sweeps fun family => .receive sound _ party payload
  | request family handle payload =>
      exact Gateway.attend_cases (motive := gateway.Orders) handle _ same
        fun party known _ => .of_sweeps fun family => .handleEncrypted sound _ known payload
  | bind family key identity => exact .bind sound _ key identity
  | sendTo family key payload =>
      exact .of_sweeps fun _ =>
        .drifts sound (Gateway.drifts_run (Desk.plain_sendTo _ key payload) gateway)
  | broadcast family group payload except =>
      exact .of_sweeps fun _ =>
        .drifts sound (Gateway.drifts_run (Desk.plain_broadcast _ group payload except) gateway)
  | shutdown => exact .of_sweeps fun family => .shutdown sound

/-- What the relay does, or what is asked of the registry of a family. -/
inductive Deed where
  | relay (act : Act)
  | registry (family : Family) (act : Registry.Act)

/-- The identity of the connection that is made. -/
def Deed.opened? : Deed → Option Identity
  | .relay act => act.opened?
  | .registry _ act => act.opened?

def deed (policy : SizePolicy) (gateway : Gateway) : Deed → Gateway
  | .relay act => Relay.act policy gateway act
  | .registry family act => Registry.act family gateway act

/-- Perform deeds one after the other. -/
def reach (policy : SizePolicy) (start : Gateway) (deeds : List Deed) : Gateway :=
  deeds.foldl (deed policy) start

theorem reach_append (policy : SizePolicy) (start : Gateway) (deeds : List Deed) (last : Deed) :
    reach policy start (deeds ++ [last]) = deed policy (reach policy start deeds) last := by
  simp [reach]

/-- What holds between the deeds of every run. -/
structure Steady (gateway : Gateway) (ids : List Identity) : Prop where
  lists : gateway.Lists ids
  sound : gateway.Sound [] none
  indexed : ∀ family, (gateway.layer family).directory.Indexed

section Steady

variable {gateway after : Gateway} {ids : List Identity}

/-- Scripts that move no key leave everything steady. -/
theorem Steady.plain (steady : Steady gateway ids) {α : Type} {script : Script α}
    (plain : script.Only Call.IsPlain) :
    Steady (script.run gateway).2 ids ∧
      ∀ family, gateway.Revises family id (script.run gateway).2 := by
  have drifts := Gateway.drifts_run plain gateway
  have revises (family : Family) : gateway.Revises family id (script.run gateway).2 :=
    .drifts steady.sound drifts
  exact ⟨⟨steady.lists.keeps (Gateway.keeps_run script gateway), steady.sound.drifts drifts,
    fun family => (revises family).sweeps.indexed (steady.indexed family)⟩, revises⟩

variable {family : Family} {party : Party}

/-- Where no edit is made, a key leads where it led, as far as that connection is open. -/
theorem Steady.get?_iff (steady : Steady gateway ids) (after_steady : Steady after ids)
    (distinct : ids.Nodup) (revises : gateway.Revises family id after) (key : ChannelKey) :
    (after.layer family).directory.get? key = some party ↔
      (gateway.layer family).directory.get? key = some party ∧
        after.isOpen party.handle = true := by
  obtain ⟨lists, sound, -⟩ := after_steady
  constructor
  · intro found
    have known := sound.knows party (.directory (.key found))
    exact ((revises.get?_iff sound lists distinct known key).1 found).symm
  · rintro ⟨found, isOpen⟩
    have known := revises.knows party (steady.sound.knows party (.directory (.key found)))
    exact (revises.get?_iff sound lists distinct known key).2 ⟨isOpen, found⟩

/-- Where no edit is made, a group has the members it had, as far as they are open. -/
theorem Steady.mem_members_iff (steady : Steady gateway ids) (after_steady : Steady after ids)
    (distinct : ids.Nodup) (revises : gateway.Revises family id after) (group : String) :
    party ∈ (after.layer family).directory.members group ↔
      party ∈ (gateway.layer family).directory.members group ∧
        after.isOpen party.handle = true := by
  obtain ⟨lists, sound, indexed⟩ := after_steady
  rw [(indexed family).mem_members, (steady.indexed family).mem_members]
  constructor
  · intro found
    have known := sound.knows party (.directory (.member found))
    exact ((revises.member?_iff sound lists distinct known group).1 found).symm
  · rintro ⟨found, isOpen⟩
    have known := revises.knows party (steady.sound.knows party (.directory (.member found)))
    exact (revises.member?_iff sound lists distinct known group).2 ⟨isOpen, found⟩

end Steady

theorem Steady.deed {gateway : Gateway} {ids : List Identity} (steady : Steady gateway ids)
    (policy : SizePolicy) (deed : Deed) :
    Steady (Relay.deed policy gateway deed) (ids ++ deed.opened?.toList) ∧
      gateway.Orders (Relay.deed policy gateway deed) := by
  obtain ⟨lists, sound, indexed⟩ := steady
  cases deed with
  | relay act =>
      have orders := orders_act sound lists policy act
      exact ⟨⟨lists_act lists policy act, sound.relay lists policy act,
        fun family => orders.indexed family (indexed family)⟩, orders⟩
  | registry family act =>
      have orders := Registry.orders_act sound lists family act
      exact ⟨⟨Registry.lists_act lists family act,
        Registry.sound_act sound lists (indexed family) act,
        fun other => orders.indexed other (indexed other)⟩, orders⟩

/-- Every run is steady, and dresses payloads as it did at the start. -/
theorem steady_reach (policy : SizePolicy) (entropy : Entropy) (expiry : Nat)
    (dressing : Family → Dressing) (deeds : List Deed) :
    Steady (reach policy (.furnish entropy expiry dressing) deeds)
        (deeds.filterMap Deed.opened?) ∧
      ∀ family, ((reach policy (.furnish entropy expiry dressing) deeds).layer family).dressing =
        dressing family := by
  induction deeds using List.reverseRecOn with
  | nil =>
      refine ⟨⟨Gateway.lists_furnish entropy expiry dressing,
        Gateway.sound_furnish entropy expiry dressing, fun family => ?_⟩, fun family => ?_⟩
      · cases family <;> exact .empty
      · cases family <;> rfl
  | append_singleton deeds last induction =>
      obtain ⟨steady, dressed⟩ := induction
      obtain ⟨next, orders⟩ := steady.deed policy last
      have ids : (deeds ++ [last]).filterMap Deed.opened? =
          deeds.filterMap Deed.opened? ++ last.opened?.toList := List.filterMap_append
      rw [reach_append, ids]
      exact ⟨next, fun family => (orders.dressing family).trans (dressed family)⟩

end Relay

end PadRelay
