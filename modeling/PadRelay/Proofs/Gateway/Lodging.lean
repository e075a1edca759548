import PadRelay.Proofs.Gateway.Idle

/-!
# Guests of a pair

While the request of an encrypted channel is handled, its connection may stand in the encrypted slot
of a pair. It is a guest there: the slot was free, the clear channel beside it is open, and the one
hook that waits for the close of the guest takes it out of the slot again. So whenever the guest
closes, on purpose or because a payload did not fit, the pairs are as they were before it came.
-/

namespace PadRelay.Gateway

/-- The keys, the clock and the random source are as before. -/
structure KeepsKeys (before after : Gateway) : Prop where
  active : after.active = before.active
  staged : after.staged = before.staged
  now : after.now = before.now
  entropy : after.entropy = before.entropy

/-- The keys, the clock, the random source and the pairs are as before. -/
structure Restored (before after : Gateway) : Prop extends before.KeepsKeys after where
  pairs : ∀ family identity,
    (after.layer family).pairs.get? identity = (before.layer family).pairs.get? identity

/-- A connection has entered the encrypted slot of a pair, which was free, beside an open clear
channel. Nothing else has changed but connections and counters. -/
structure Hosts (before : Gateway) (family : Family) (target : Identity) (party : Party)
    (after : Gateway) : Prop extends before.KeepsKeys after where
  pairs : ∀ other, (after.layer other).pairs =
    if other = family then (before.layer other).pairs.place target .encrypted party
      else (before.layer other).pairs
  free : before.slot family target .encrypted = none
  beside : ∃ clear, clear.handle ≠ party.handle ∧
    (before.layer family).pairs.connectionOf after.isOpen target .clear = some clear

/-- A connection stands in no new place, and its close changes nothing; or it is the guest of a
pair, and its close takes it out again. -/
inductive Lodges (before : Gateway) (party : Party) (after : Gateway) : Prop
  | outside (restored : before.Restored after) (idle : after.IsIdle party.handle)
  | inside {family : Family} {target : Identity} {connection : Connection Hook}
      (hosts : before.Hosts family target party after)
      (found : after.connections.get? party.handle = some connection)
      (isOpen : connection.isOpen = true)
      (waiting : connection.life.waiting = [.vacate family target .encrypted party.id])

variable {before middle after : Gateway} {party : Party} {family : Family} {target : Identity}

theorem KeepsKeys.refl (gateway : Gateway) : gateway.KeepsKeys gateway := ⟨rfl, rfl, rfl, rfl⟩

theorem KeepsKeys.trans (first : before.KeepsKeys middle) (second : middle.KeepsKeys after) :
    before.KeepsKeys after where
  active := second.active.trans first.active
  staged := second.staged.trans first.staged
  now := second.now.trans first.now
  entropy := second.entropy.trans first.entropy

theorem keepsKeys_modifyLayer (gateway : Gateway) (family : Family) (change : Layer → Layer) :
    gateway.KeepsKeys (gateway.modifyLayer family change) := by
  constructor <;> simp

theorem get?_settle (gateway : Gateway) (handle : Handle) (turned : Connection Hook)
    (due : List Hook) :
    (gateway.settle handle turned due).connections.get? handle = some turned := by
  rw [connections_settle, Table.get?_insert_self]

theorem keepsKeys_settle (gateway : Gateway) (handle : Handle) (turned : Connection Hook) :
    gateway.KeepsKeys (gateway.settle handle turned []) := ⟨rfl, rfl, rfl, rfl⟩

theorem Restored.refl (gateway : Gateway) : gateway.Restored gateway :=
  ⟨.refl gateway, fun _ _ => rfl⟩

theorem Restored.settle (restored : before.Restored after) (handle : Handle)
    (turned : Connection Hook) : before.Restored (after.settle handle turned []) :=
  ⟨restored.toKeepsKeys.trans (keepsKeys_settle after handle turned), restored.pairs⟩

theorem hosts_place (party : Party) {clear : Party}
    (free : before.slot family target .encrypted = none)
    (live : before.connectionOf family target .clear = some clear)
    (apart : clear.handle ≠ party.handle) :
    before.Hosts family target party (before.place family target .encrypted party).2 where
  toKeepsKeys := by
    dsimp only [place]
    exact keepsKeys_modifyLayer before family _
  pairs other := by
    rw [place, layer_modifyLayer]
    split <;> rfl
  free := free
  beside := by
    refine ⟨clear, apart, ?_⟩
    have same : (before.place family target .encrypted party).2.isOpen = before.isOpen := by
      funext handle
      simp [place, isOpen]
    rw [same]
    exact live

/-- What becomes of the guest itself does not matter to the pair. -/
theorem Hosts.replace (hosts : before.Hosts family target party middle)
    (turned : Connection Hook) :
    before.Hosts family target party (middle.settle party.handle turned []) where
  toKeepsKeys := hosts.toKeepsKeys.trans (keepsKeys_settle middle party.handle turned)
  pairs := hosts.pairs
  free := hosts.free
  beside := by
    obtain ⟨clear, apart, live⟩ := hosts.beside
    rw [Pairs.connectionOf_eq, Option.filter_eq_some_iff] at live
    refine ⟨clear, apart, ?_⟩
    rw [Pairs.connectionOf_eq, Option.filter_eq_some_iff, isOpen_settle, if_neg apart]
    exact live

/-- The hook of the guest takes it out of the slot. -/
theorem Hosts.leave (hosts : before.Hosts family target party middle) :
    before.Restored (middle.runHook (.vacate family target .encrypted party.id)) where
  toKeepsKeys := by
    rw [runHook]
    exact hosts.toKeepsKeys.trans (keepsKeys_modifyLayer middle family _)
  pairs other identity := by
    obtain ⟨clear, -, live⟩ := hosts.beside
    rw [runHook, layer_modifyLayer]
    split
    · next same =>
        subst same
        simp only [hosts.pairs]
        exact Pairs.get?_vacate_place _ _ _ _ _ hosts.free live Role.noConfusion
    · next different =>
        rw [hosts.pairs, if_neg different]

namespace Lodges

/-- A step that touches neither keys nor pairs nor connections. -/
theorem of_eq (lodges : before.Lodges party middle) (keeps : middle.KeepsKeys after)
    (connections : after.connections = middle.connections)
    (pairs : ∀ family, (after.layer family).pairs = (middle.layer family).pairs) :
    before.Lodges party after := by
  cases lodges with
  | outside restored idle =>
      refine .outside ⟨restored.toKeepsKeys.trans keeps, fun family identity => ?_⟩
        fun connection found => idle connection (connections ▸ found)
      rw [pairs]
      exact restored.pairs family identity
  | inside hosts found isOpen waiting =>
      have same : after.isOpen = middle.isOpen := funext (isOpen_congr connections)
      refine .inside ⟨hosts.toKeepsKeys.trans keeps, fun other => ?_, hosts.free, ?_⟩
        (connections ▸ found) isOpen waiting
      · exact (pairs other).trans (hosts.pairs other)
      · rw [same]
        exact hosts.beside

theorem count (lodges : before.Lodges party middle) (family : Family) (event : Event) :
    before.Lodges party (middle.count family event) := by
  refine lodges.of_eq (keepsKeys_modifyLayer middle family _) (connections_modifyLayer _ _ _)
    fun other => ?_
  rw [Gateway.count, layer_modifyLayer]
  split <;> rfl

/-- The connection takes a payload, or it closes and what waits on it runs. -/
theorem turns {connection turned : Connection Hook} {due : List Hook}
    (lodges : before.Lodges party middle)
    (held : middle.connections.get? party.handle = some connection)
    (turns : connection.Turns turned due) :
    before.Lodges party (middle.settle party.handle turned due) := by
  have placed : (middle.settle party.handle turned due).connections.get? party.handle =
      some turned := get?_settle middle party.handle turned due
  have closed_idle (life : turned.life = ⟨true, []⟩) :
      (middle.settle party.handle turned due).IsIdle party.handle := by
    intro other found isOpen
    cases placed.symm.trans found
    rw [life]
  cases lodges with
  | outside restored idle =>
      cases turns with
      | kept id life =>
          refine .outside (restored.settle _ turned) fun other found isOpen => ?_
          cases placed.symm.trans found
          rw [life]
          rw [Connection.isOpen, life] at isOpen
          exact idle connection held isOpen
      | closed id wasOpen life =>
          have left := closed_idle life
          rw [idle connection held wasOpen] at left ⊢
          exact .outside (restored.settle _ turned) left
  -- What waits on a guest is its own hook, and a full queue closes it as a close does.
  | inside hosts found isOpen waiting =>
      cases held.symm.trans found
      cases turns with
      | kept id life =>
          exact .inside (hosts.replace turned) placed (by rwa [Connection.isOpen, life])
            (by rwa [life])
      | closed id wasOpen life =>
          have left := closed_idle life
          rw [waiting] at left ⊢
          exact .outside (hosts.replace turned).leave left

theorem send (lodges : before.Lodges party middle) (payload : Bytes) :
    before.Lodges party (middle.send party.handle payload).2 := by
  cases found : middle.connections.get? party.handle with
  | none => simpa only [Gateway.send, found] using lodges
  | some connection =>
      rw [send_eq middle payload found]
      exact lodges.turns found (connection.turns_send payload)

theorem close (lodges : before.Lodges party middle) :
    before.Lodges party (middle.close party.handle) := by
  cases found : middle.connections.get? party.handle with
  | none => simpa only [Gateway.close, found] using lodges
  | some connection =>
      rw [close_eq middle found]
      exact lodges.turns found connection.turns_close

theorem restored_of_closed (lodges : before.Lodges party after)
    (closed : after.isOpen party.handle = false) : before.Restored after := by
  cases lodges with
  | outside restored idle => exact restored
  | inside hosts found isOpen waiting =>
      rw [isOpen_eq found, isOpen] at closed
      cases closed

end Lodges

/-- An idle connection that enters a free slot beside another connection becomes a guest; if it has
closed already, it leaves at once. -/
theorem lodges_occupy {gateway : Gateway} {clear : Party} (known : gateway.Knows party)
    (idle : gateway.IsIdle party.handle) (free : gateway.slot family target .encrypted = none)
    (live : gateway.connectionOf family target .clear = some clear)
    (apart : clear.handle ≠ party.handle) :
    gateway.Lodges party ((Script.occupy family target .encrypted party).run gateway).2 := by
  have hosts := hosts_place party free live apart
  rcases occupy_cases gateway family target .encrypted party with ⟨-, held⟩ | ⟨ran, -⟩
  · rw [slot] at free
    rw [Pairs.holds_eq, free] at held
    cases held
  · obtain ⟨connection, found, id⟩ := known.exists_connection
    have placed : (gateway.place family target .encrypted party).2.connections.get?
        party.handle = some connection := by
      rw [place, connections_modifyLayer, found]
    rw [ran, onClose_eq _ _ placed]
    cases isOpen : connection.isOpen with
    | true =>
        rw [Connection.onClose_of_isOpen isOpen, idle connection found isOpen]
        exact .inside (hosts.replace _) (get?_settle _ _ _ _) isOpen rfl
    | false =>
        rw [Connection.onClose_of_closed isOpen]
        refine .outside (hosts.replace connection).leave fun other again still_open => ?_
        cases (get?_settle _ _ _ _).symm.trans again
        rw [isOpen] at still_open
        cases still_open

end PadRelay.Gateway
