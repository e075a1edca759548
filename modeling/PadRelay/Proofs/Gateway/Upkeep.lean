import PadRelay.Proofs.Exchange.Effect
import PadRelay.Proofs.Gateway.Ownership
import PadRelay.Proofs.Gateway.Roster

/-!
# Soundness is kept

Whatever enters a table registers its hook before anything else happens, and a hook that is due has
run before anything else happens. So every operation leaves a sound gateway sound, whatever closes
on the way.
-/

namespace PadRelay.Gateway

variable {gateway : Gateway} {due : List Hook} {entering : Option Handle}

/-- More hooks may be about to run than are needed. -/
theorem Sound.weaken (sound : gateway.Sound due entering) (hook : Hook) :
    gateway.Sound (hook :: due) entering where
  promises other needs := (sound.promises other needs).imp_left (List.mem_cons_of_mem hook)
  knows := sound.knows
  linked := sound.linked
  welcomed := sound.welcomed
  own := sound.own

theorem Sound.count (sound : gateway.Sound due entering) (family : Family) (event : Event) :
    (gateway.count family event).Sound due entering := by
  apply sound.of_fewer (by simp [Gateway.count])
  · intro identity keyless
    simpa [Keyless, Gateway.count] using keyless
  · intro other identity role party found
    simp only [Gateway.count, slot_modifyLayer] at found
    split at found <;> exact found
  · intro other
    simp only [Gateway.count, layer_modifyLayer]
    split <;> rfl

/-- What stands in a slot after a connection entered one is that connection, or stood there. -/
theorem slot_of_place {family other : Family} {identity subject : Identity} {role side : Role}
    {party found : Party}
    (slotted : (gateway.place family identity role party).2.slot other subject side = some found) :
    (other = family ∧ subject = identity ∧ side = role ∧ found = party) ∨
      gateway.slot other subject side = some found := by
  simp only [Gateway.place, slot_modifyLayer] at slotted
  split at slotted
  · next same =>
      rw [Pairs.slot_place] at slotted
      split at slotted
      · next both => exact .inl ⟨same, both.1, both.2, (Option.some.inj slotted).symm⟩
      · exact .inr slotted
  · exact .inr slotted

/-- A connection enters a slot for which a hook is promised. -/
theorem Sound.place (sound : gateway.Sound due entering) (family : Family) (identity : Identity)
    {role : Role} {party : Party} (known : gateway.Knows party)
    (promised : gateway.Promises due (.vacate family identity role party.id))
    (own : role = .clear → party.id = identity ∧ entering = some party.handle) :
    (gateway.place family identity role party).2.Sound due entering := by
  have directories (other : Family) :
      ((gateway.place family identity role party).2.layer other).directory =
        (gateway.layer other).directory := by
    simp only [Gateway.place, layer_modifyLayer]
    split <;> rfl
  have connections :
      (gateway.place family identity role party).2.connections = gateway.connections := by
    simp [Gateway.place]
  refine .of_tables connections ?_ ?_ (fun other => directories other ▸ sound.linked other) ?_
    sound.own
  · intro hook needs
    cases hook with
    | dropKeys subject =>
        refine sound.promises _ fun keyless => needs ?_
        simpa [Keyless, Gateway.place] using keyless
    | vacate other subject side connection =>
        obtain ⟨found, slotted, same⟩ := needs
        rcases slot_of_place slotted with ⟨rfl, rfl, rfl, rfl⟩ | before
        · rwa [← same]
        · exact sound.promises _ ⟨found, before, same⟩
    | forget other connection =>
        refine sound.promises (.forget other connection) ?_
        simpa only [Needs, directories] using needs
  · intro subject names
    cases names with
    | slot slotted =>
        rcases slot_of_place slotted with ⟨-, -, -, rfl⟩ | before
        · exact known
        · exact sound.knows subject (.slot before)
    | directory names => exact sound.knows subject (.directory (directories _ ▸ names))
  · intro other subject found slotted
    rcases slot_of_place slotted with ⟨-, rfl, side, rfl⟩ | before
    · exact ⟨(own side.symm).1, fun _ => .inr (own side.symm).2⟩
    · exact sound.welcomed other subject found before

/-- A connection enters a slot, and the hook that takes it out is registered. -/
theorem Sound.occupy (sound : gateway.Sound [] entering) (family : Family) (identity : Identity)
    (role : Role) {party : Party} (known : gateway.Knows party)
    (own : role = .clear → party.id = identity ∧ entering = some party.handle) :
    ((Script.occupy family identity role party).run gateway).2.Sound [] entering := by
  rcases occupy_cases gateway family identity role party with ⟨same, held⟩ | ⟨same, -⟩
  · rw [same]
    rw [Pairs.holds_eq, Option.any_eq_true] at held
    obtain ⟨holder, slotted, equal⟩ := held
    exact sound.place family identity known
      (sound.promises _ ⟨holder, slotted, of_decide_eq_true equal⟩) own
  · rw [same]
    have owing := sound.weaken (.vacate family identity role party.id)
    have placed := owing.place family identity known (.inl List.mem_cons_self) own
    have still : (gateway.place family identity role party).2.Knows party :=
      (knows_congr (by simp [Gateway.place]) party).2 known
    exact placed.onClose still rfl

/-- Steps that move no key keep a gateway sound. -/
theorem Sound.drifts {after : Gateway} (sound : gateway.Sound [] entering)
    (drifts : gateway.Drifts after) : after.Sound [] entering := by
  refine drifts.preserves (fun state => state.Sound [] entering) ?_ sound
  intro before after stirs sound
  cases stirs with
  | count family event => exact sound.count family event
  | look identity =>
      exact sound.of_fewer rfl (fun other keyless => keyless.look identity)
        (fun _ _ _ _ found => found) fun _ => rfl
  | send handle payload => exact sound.send handle payload
  | close handle => exact sound.close handle
  | occupy family identity known =>
      exact sound.occupy family identity .encrypted known Role.noConfusion

/-- Keys change only where the hook that drops them is promised. -/
theorem Sound.of_keys {after : Gateway} (sound : gateway.Sound due entering)
    (same : after.connections = gateway.connections)
    (layers : ∀ family, after.layer family = gateway.layer family)
    (keys : ∀ identity, gateway.Keyless identity → ¬ after.Keyless identity →
      gateway.Promises due (.dropKeys identity)) : after.Sound due entering := by
  have same_slot (family : Family) (identity : Identity) (role : Role) :
      after.slot family identity role = gateway.slot family identity role := by
    rw [slot, layers, slot]
  refine .of_tables same ?_ ?_ (fun family => layers family ▸ sound.linked family)
    (fun family identity party found =>
      sound.welcomed family identity party (same_slot _ _ _ ▸ found)) sound.own
  · intro hook needs
    cases hook with
    | dropKeys identity =>
        by_cases keyless : gateway.Keyless identity
        · exact keys identity keyless needs
        · exact sound.promises _ keyless
    | vacate family identity role connection =>
        refine sound.promises (.vacate family identity role connection) ?_
        simpa only [Needs, same_slot] using needs
    | forget family connection =>
        refine sound.promises (.forget family connection) ?_
        simpa only [Needs, layers] using needs
  · intro party names
    cases names with
    | slot found => exact sound.knows party (.slot (same_slot _ _ _ ▸ found))
    | directory names => exact sound.knows party (.directory (layers _ ▸ names))

theorem Sound.promote (sound : gateway.Sound due entering) {identity : Identity}
    {staging : Staging} (found : gateway.staged.entries.get? identity = some staging) :
    (gateway.promote identity staging).Sound due entering := by
  refine sound.of_keys rfl (fun family => by cases family <;> rfl) ?_
  intro other keyless needs
  have different : other ≠ identity := by
    rintro rfl
    rw [keyless.2.1] at found
    cases found
  refine absurd ?_ needs
  obtain ⟨active, entry, retired⟩ := keyless
  exact ⟨(Table.get?_insert_of_ne _ _ different).trans active,
    (Table.get?_erase_of_ne _ different).trans entry,
    (Table.get?_erase_of_ne _ different).trans retired⟩

theorem Sound.stageNew (sound : gateway.Sound due entering) {identity : Identity}
    (promised : gateway.Promises due (.dropKeys identity)) (key : Key) (entropy : Entropy) :
    (gateway.stageNew identity key entropy).Sound due entering := by
  refine sound.of_keys rfl (fun family => by cases family <;> rfl) ?_
  intro other keyless needs
  by_cases same : other = identity
  · rwa [same]
  · refine absurd ?_ needs
    obtain ⟨active, entry, retired⟩ := keyless
    refine ⟨active, ?_, (StagedKeys.retired_put_of_ne _ _ _ _ _ same).trans retired⟩
    simp [Gateway.stageNew, StagedKeys.get?_entries_put, same, entry]

theorem Sound.deactivate (sound : gateway.Sound due entering) (identity : Identity) :
    (gateway.deactivate identity).Sound due entering := by
  refine sound.of_keys rfl (fun family => by cases family <;> rfl) ?_
  intro other keyless needs
  refine absurd ?_ needs
  obtain ⟨active, entry, retired⟩ := keyless
  refine ⟨?_, entry, retired⟩
  simp only [Gateway.deactivate, Table.get?_erase]
  split
  · rfl
  · exact active

/-- An open clear channel stands in its own pair and is to drop its keys. -/
theorem Sound.waits_of_connectionOf (sound : gateway.Sound [] none) {family : Family}
    {identity : Identity} {clear : Party}
    (found : gateway.connectionOf family identity .clear = some clear) :
    clear.id = identity ∧ gateway.Waits clear.handle (.dropKeys identity) := by
  rw [connectionOf, Pairs.connectionOf_eq, Option.filter_eq_some_iff] at found
  obtain ⟨slotted, isOpen⟩ := found
  obtain ⟨own, attached⟩ := sound.welcomed family identity clear slotted
  exact ⟨own, (attached isOpen).resolve_right fun entering => by cases entering⟩

/-- The clear channel that a request finds open has promised to drop the keys of its identity. -/
theorem Sound.promises_of_connectionOf (sound : gateway.Sound [] none) {family : Family}
    {identity : Identity} (found : (gateway.connectionOf family identity .clear).isSome = true) :
    gateway.Promises [] (.dropKeys identity) := by
  obtain ⟨clear, shown⟩ := Option.isSome_iff_exists.1 found
  exact .inr ⟨clear.handle, (sound.waits_of_connectionOf shown).2⟩

theorem Sound.handleClear (sound : gateway.Sound [] none) (desk : Desk) (party : Party)
    (payload : Bytes) : ((desk.handleClear party payload).run gateway).2.Sound [] none := by
  have effect := desk.effect_handleClear party gateway payload
  generalize (desk.handleClear party payload).run gateway = result at effect
  cases effect with
  | idle quiet drifts => exact sound.drifts drifts
  | activated first found inTime last => exact ((sound.drifts first).promote found).drifts last
  | deleted first active last => exact ((sound.drifts first).deactivate party.id).drifts last

theorem Sound.handleEncrypted (sound : gateway.Sound [] none) (desk : Desk) {party : Party}
    (known : gateway.Knows party) (payload : Bytes) :
    ((desk.handleEncrypted party payload).run gateway).2.Sound [] none := by
  have effect := desk.effect_handleEncrypted party payload gateway known
  generalize (desk.handleEncrypted party payload).run gateway = result at effect
  cases effect with
  | idle failure drifts => exact sound.drifts drifts
  | issued asked allowed first attached drawn last =>
      have middle := sound.drifts first
      exact (middle.stageNew (middle.promises_of_connectionOf attached) _ _).drifts last
  | deleted asked first active last => exact ((sound.drifts first).deactivate _).drifts last

/-- A hook that has been registered on a connection waits while that is open. -/
theorem waits_onClose {party : Party} (known : gateway.Knows party) {hook : Hook}
    (own : hook.owner = party.id)
    (isOpen : (gateway.onClose party.handle hook).isOpen party.handle = true) :
    (gateway.onClose party.handle hook).Waits party.handle hook := by
  obtain ⟨connection, found, id⟩ := known.exists_connection
  rw [isOpen_onClose, isOpen_eq found] at isOpen
  rw [onClose_eq gateway hook found, Connection.onClose_of_isOpen isOpen, Waits,
    connections_settle, Table.get?_insert_self]
  exact ⟨_, rfl, id.trans own.symm, isOpen, by simp⟩

theorem Sound.entered {party : Party} (known : gateway.Knows party)
    (sound : (gateway.onClose party.handle (.dropKeys party.id)).Sound [] (some party.handle)) :
    (gateway.onClose party.handle (.dropKeys party.id)).Sound [] none := by
  have keeps := Keeps.onClose gateway party.handle (.dropKeys party.id)
  refine ⟨sound.promises, sound.knows, sound.linked, ?_, sound.own⟩
  intro family identity other found
  obtain ⟨own, attached⟩ := sound.welcomed family identity other found
  refine ⟨own, fun isOpen => .inl ?_⟩
  rcases attached isOpen with waits | same
  · exact waits
  · have same_handle : party.handle = other.handle := Option.some.inj same
    have known_other := (keeps.knows other).1 (sound.knows other (.slot found))
    have same_id : party.id = other.id :=
      congrArg Party.id (known.eq_of_handle_eq known_other same_handle)
    rw [← same_handle] at isOpen ⊢
    rw [← own, ← same_id]
    exact waits_onClose known rfl isOpen

/-- A connection that is paired and will drop its keys when it closes has entered. -/
theorem Sound.pair (sound : gateway.Sound [] none) (family : Family) {party : Party}
    (known : gateway.Knows party) :
    (((Script.setClear family party.id party).run gateway).2.onClose party.handle
      (.dropKeys party.id)).Sound [] none := by
  have begun : gateway.Sound [] (some party.handle) :=
    { sound with
      welcomed := fun family identity other found =>
        (sound.welcomed family identity other found).imp_right fun attached isOpen =>
          .inl ((attached isOpen).resolve_right fun impossible => by cases impossible) }
  have paired := begun.occupy family party.id .clear known fun _ => ⟨rfl, rfl⟩
  have still := ((keeps_run (Script.occupy family party.id .clear party) gateway).knows
    party).2 known
  have registered := (paired.weaken (.dropKeys party.id)).onClose still rfl
  exact registered.entered still

/-- A connection that is taken in is paired and will drop its keys when it closes. -/
theorem Sound.attach (sound : gateway.Sound [] none) (desk : Desk) {party : Party}
    (known : gateway.Knows party) : ((desk.attach party).run gateway).2.Sound [] none := by
  rw [Desk.attach]
  simp only [Script.run_bind]
  exact (sound.pair desk.family known).drifts
    (drifts_run (desk.plain_reply party (.welcome party.id)) _)

/-- The directory of a family changes. Whatever stands in it is known, and whatever there is a trace
of is promised to be forgotten. -/
theorem Sound.withDirectory (sound : gateway.Sound due entering) {α : Type} (family : Family)
    (work : Directory ChannelKey → α × Directory ChannelKey)
    (knows : ∀ other, (work (gateway.layer family).directory).2.Names other → gateway.Knows other)
    (promised : ∀ id, (work (gateway.layer family).directory).2.Mentions id →
      gateway.Promises due (.forget family id))
    (linked : (work (gateway.layer family).directory).2.Linked) :
    (gateway.onDirectory family work).2.Sound due entering := by
  rw [onDirectory_snd]
  have slots (other : Family) (identity : Identity) (role : Role) (found : Party)
      (slotted : (gateway.modifyLayer family fun layer =>
        { layer with directory := (work (gateway.layer family).directory).2 }).slot other identity
          role = some found) : gateway.slot other identity role = some found := by
    rw [slot_modifyLayer] at slotted
    split at slotted <;> exact slotted
  refine .of_tables (connections_modifyLayer _ _ _) ?_ ?_ ?_
    (fun other identity found slotted =>
      sound.welcomed other identity found (slots _ _ _ _ slotted)) sound.own
  · intro hook needs
    cases hook with
    | dropKeys identity =>
        refine sound.promises _ fun keyless => needs ?_
        simpa [Keyless] using keyless
    | vacate other identity role connection =>
        obtain ⟨holder, slotted, same⟩ := needs
        exact sound.promises _ ⟨holder, slots _ _ _ _ slotted, same⟩
    | forget other connection =>
        simp only [Needs, layer_modifyLayer] at needs
        split at needs
        · next same =>
            subst same
            exact promised connection needs
        · exact sound.promises (.forget other connection) needs
  · intro other named
    cases named with
    | slot slotted => exact sound.knows other (.slot (slots _ _ _ _ slotted))
    | @directory named_family named =>
        rw [layer_modifyLayer] at named
        split at named
        · next same =>
            subst same
            exact knows other named
        · exact sound.knows other (.directory named)
  · intro other
    rw [layer_modifyLayer]
    split
    · exact linked
    · exact sound.linked other

/-- The directory of a family changes, and its new traces are those of a promised connection. -/
theorem Sound.onDirectory (sound : gateway.Sound due entering) {α : Type} (family : Family)
    {party : Party} (known : gateway.Knows party)
    (promised : gateway.Promises due (.forget family party.id))
    (work : Directory ChannelKey → α × Directory ChannelKey)
    (names : ∀ other, (work (gateway.layer family).directory).2.Names other →
      other = party ∨ (gateway.layer family).directory.Names other)
    (mentions : ∀ id, (work (gateway.layer family).directory).2.Mentions id →
      id = party.id ∨ (gateway.layer family).directory.Mentions id)
    (linked : (work (gateway.layer family).directory).2.Linked) :
    (gateway.onDirectory family work).2.Sound due entering := by
  refine sound.withDirectory family work ?_ ?_ linked
  · intro other named
    rcases names other named with rfl | before
    · exact known
    · exact sound.knows other (.directory before)
  · intro id mentioned
    rcases mentions id mentioned with rfl | before
    · exact promised
    · exact sound.promises (.forget family id) before

theorem Sound.shrink (sound : gateway.Sound due entering) {α : Type} (family : Family)
    (work : Directory ChannelKey → α × Directory ChannelKey)
    (names : ∀ other, (work (gateway.layer family).directory).2.Names other →
      (gateway.layer family).directory.Names other)
    (mentions : ∀ id, (work (gateway.layer family).directory).2.Mentions id →
      (gateway.layer family).directory.Mentions id)
    (linked : (work (gateway.layer family).directory).2.Linked) :
    (gateway.onDirectory family work).2.Sound due entering :=
  sound.withDirectory family work
    (fun other named => sound.knows other (.directory (names other named)))
    (fun id mentioned => sound.promises (.forget family id) (mentions id mentioned)) linked

/-- What is still to be registered for a connection that enters the directory: nothing if it is
watched already. -/
def entryHooks (gateway : Gateway) (family : Family) (id : Identity) : List Hook :=
  if id ∈ (gateway.layer family).directory.watched then [] else [.forget family id]

theorem Sound.promises_entryHooks {family : Family} {id : Identity}
    (sound : gateway.Sound (gateway.entryHooks family id) entering) :
    gateway.Promises (gateway.entryHooks family id) (.forget family id) := by
  by_cases member : id ∈ (gateway.layer family).directory.watched
  · exact sound.promises (.forget family id) (Directory.Mentions.watched member)
  · exact .inl (by simp [entryHooks, member])

theorem Sound.weaken_entryHooks (sound : gateway.Sound [] entering) (family : Family)
    (id : Identity) : gateway.Sound (gateway.entryHooks family id) entering := by
  rw [entryHooks]
  split
  · exact sound
  · exact sound.weaken _

/-- Once a connection that has entered the directory is watched, nothing is owed to it. -/
theorem Sound.watch {family : Family} {party : Party} (known : gateway.Knows party)
    (sound : gateway.Sound (gateway.entryHooks family party.id) entering) :
    ((Script.watch family party).run gateway).2.Sound [] entering := by
  have left {state : Gateway} (sound : state.Sound [] entering) :
      ((do
        if ← Script.ask (.isOpen party.handle) then return
        else Script.ask (.forget family party.id) : Script Unit).run state).2.Sound []
          entering := by
    rw [Script.run_bind, Script.run_ask]
    split
    · exact sound
    · exact (sound.weaken (.forget family party.id)).runHook
  have watched := sound.onDirectory family known sound.promises_entryHooks
    (fun directory => directory.watch party.id) (fun _ names => .inr names.of_watch)
    (fun _ mentions => mentions.of_watch) (sound.linked family).watch
  rw [Script.watch]
  rw [Script.run_bind, Script.run_ask]
  split
  · next fresh =>
      have absent : party.id ∉ (gateway.layer family).directory.watched := by
        intro member
        simp [Gateway.perform, Directory.watch, member] at fresh
      have still : (gateway.perform (.watch family party.id)).2.Knows party :=
        ((Keeps.perform gateway _).knows party).2 known
      simp only [entryHooks, absent, if_false] at watched
      have registered := watched.onClose still rfl
      rw [Script.run_bind, Script.run_ask]
      exact left registered
  · next stale =>
      have member : party.id ∈ (gateway.layer family).directory.watched :=
        Directory.member_of_watch _ (eq_false_of_ne_true stale)
      simp only [entryHooks, member, if_true] at watched
      exact left watched

theorem Sound.enter (sound : gateway.Sound [] entering) (family : Family) (key : ChannelKey)
    {party : Party} (known : gateway.Knows party) :
    ((Script.enter family key party).run gateway).2.Sound [] entering := by
  have owing := sound.weaken_entryHooks family party.id
  have put := owing.onDirectory family known owing.promises_entryHooks
    (fun directory => directory.put key party) (fun _ names => names.of_put)
    (fun _ mentions => mentions.of_put) (sound.linked family).put
  have still : (gateway.perform (.enter family key party)).2.Knows party :=
    ((Keeps.perform gateway _).knows party).2 known
  have same_hooks : (gateway.perform (.enter family key party)).2.entryHooks family party.id =
      gateway.entryHooks family party.id := by
    simp [entryHooks, Gateway.perform, layer_modifyLayer, Directory.put_snd]
  rw [Script.enter]
  rw [Script.run_bind, Script.run_ask, Script.run_bind, Script.run_pure]
  exact Sound.watch still (same_hooks ▸ put)

theorem Sound.join (sound : gateway.Sound [] entering) (family : Family) (group : String)
    {party : Party} (known : gateway.Knows party) :
    ((Script.join family group party).run gateway).2.Sound [] entering := by
  have joined {due : List Hook} (sound : gateway.Sound due entering)
      (promised : gateway.Promises due (.forget family party.id)) :
      (gateway.perform (.join family group party)).2.Sound due entering :=
    sound.onDirectory family known promised
      (fun directory => directory.join group party) (fun _ names => names.of_join)
      (fun _ mentions => mentions.of_join) (sound.linked family).join
  rw [Script.join]
  rw [Script.run_bind, Script.run_ask]
  split
  · have owing := sound.weaken_entryHooks family party.id
    have still : (gateway.perform (.join family group party)).2.Knows party :=
      ((Keeps.perform gateway _).knows party).2 known
    have same_hooks : (gateway.perform (.join family group party)).2.entryHooks family party.id =
        gateway.entryHooks family party.id := by
      simp [entryHooks, Gateway.perform, layer_modifyLayer, Directory.join_keeps]
    rw [Script.run_bind, Script.run_pure]
    exact Sound.watch still (same_hooks ▸ joined owing owing.promises_entryHooks)
  · next refused =>
      have mentioned := Directory.mentions_of_refused (eq_false_of_ne_true refused)
      exact joined sound (sound.promises (.forget family party.id) mentioned)

end PadRelay.Gateway
