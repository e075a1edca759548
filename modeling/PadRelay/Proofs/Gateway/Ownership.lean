import PadRelay.Proofs.Directory
import PadRelay.Proofs.Gateway.Slots

/-!
# Nothing is kept without a hook

Whatever the tables of the gateway keep for a connection is taken away by a hook of that connection.
A gateway is sound if every hook that is needed waits on an open connection, or is about to run.
Hooks that run take away what needed them; a connection that closes hands over all that wait on it.
-/

namespace PadRelay

def Hook.owner : Hook → Identity
  | .dropKeys identity => identity
  | .vacate _ _ _ connection => connection
  | .forget _ connection => connection

namespace Gateway

/-- The connection in a slot of a family's pairs, open or not. -/
def slot (gateway : Gateway) (family : Family) (identity : Identity) (role : Role) : Option Party :=
  (gateway.layer family).pairs.slot identity role

/-- Something is kept that the hook would take away. -/
def Needs (gateway : Gateway) : Hook → Prop
  | .dropKeys identity => ¬ gateway.Keyless identity
  | .vacate family identity role connection =>
      ∃ party, gateway.slot family identity role = some party ∧ party.id = connection
  | .forget family connection => (gateway.layer family).directory.Mentions connection

/-- A hook waits on an open connection of its owner. -/
def Waits (gateway : Gateway) (handle : Handle) (hook : Hook) : Prop :=
  ∃ connection, gateway.connections.get? handle = some connection ∧
    connection.id = hook.owner ∧ connection.isOpen = true ∧ hook ∈ connection.life.waiting

instance (gateway : Gateway) (handle : Handle) (hook : Hook) :
    Decidable (gateway.Waits handle hook) :=
  decidable_of_iff
    ((gateway.connections.get? handle).any (fun connection =>
      connection.id = hook.owner ∧ connection.isOpen = true ∧
        hook ∈ connection.life.waiting) = true)
    (by simp [Waits, Option.any_eq_true])

/-- A hook is about to run, or it waits on an open connection. -/
def Promises (gateway : Gateway) (due : List Hook) (hook : Hook) : Prop :=
  hook ∈ due ∨ ∃ handle, gateway.Waits handle hook

/-- A connection stands in a slot of a pair or in a directory. -/
inductive Names (gateway : Gateway) (party : Party) : Prop
  | slot {family : Family} {identity : Identity} {role : Role}
      (found : gateway.slot family identity role = some party)
  | directory {family : Family} (names : (gateway.layer family).directory.Names party)

/-- Every hook that waits on a connection is its own. -/
def OwnHooks (gateway : Gateway) : Prop :=
  ∀ handle connection, gateway.connections.get? handle = some connection →
    ∀ hook ∈ connection.life.waiting, hook.owner = connection.id

/-- Nothing is kept without a hook, but for hooks that are about to run; and a clear channel drops
its keys when it closes, but for one that is just entering. -/
structure Sound (gateway : Gateway) (due : List Hook) (entering : Option Handle) : Prop where
  /-- A hook that is needed waits, or is about to run. -/
  promises : ∀ hook, gateway.Needs hook → gateway.Promises due hook
  /-- Only connections that exist stand anywhere, under the identity that they carry. -/
  knows : ∀ party, gateway.Names party → gateway.Knows party
  /-- The tables of the directories fit together. -/
  linked : ∀ family, (gateway.layer family).directory.Linked
  /-- A clear channel stands in its own pair, and drops its keys when it closes. -/
  welcomed : ∀ family identity party, gateway.slot family identity .clear = some party →
    party.id = identity ∧ (gateway.isOpen party.handle = true →
      gateway.Waits party.handle (.dropKeys identity) ∨ entering = some party.handle)
  /-- Connections wait for nothing but their own hooks. -/
  own : gateway.OwnHooks

theorem waits_congr {before after : Gateway} (same : after.connections = before.connections)
    (handle : Handle) (hook : Hook) : after.Waits handle hook ↔ before.Waits handle hook := by
  simp [Waits, same]

theorem promises_congr {before after : Gateway} (same : after.connections = before.connections)
    (due : List Hook) (hook : Hook) :
    after.Promises due hook ↔ before.Promises due hook := by
  simp [Promises, waits_congr same]

theorem knows_congr {before after : Gateway} (same : after.connections = before.connections)
    (party : Party) : after.Knows party ↔ before.Knows party := by
  simp [Knows, idOf?, same]

theorem Promises.of_cons {gateway : Gateway} {due : List Hook} {hook other : Hook}
    (promises : gateway.Promises (hook :: due) other) (different : other ≠ hook) :
    gateway.Promises due other :=
  promises.imp_left fun member => (List.mem_cons.1 member).resolve_left different

theorem Waits.idOf?_eq {gateway : Gateway} {handle : Handle} {hook : Hook}
    (waits : gateway.Waits handle hook) : gateway.idOf? handle = some hook.owner := by
  obtain ⟨connection, found, owner, -⟩ := waits
  rw [idOf?, found, Option.map_some, owner]

theorem Waits.isOpen {gateway : Gateway} {handle : Handle} {hook : Hook}
    (waits : gateway.Waits handle hook) : gateway.isOpen handle = true := by
  obtain ⟨connection, found, -, isOpen, -⟩ := waits
  rw [isOpen_eq found, isOpen]

theorem Waits.isAttached {gateway : Gateway} {handle : Handle} {identity : Identity}
    (waits : gateway.Waits handle (.dropKeys identity)) : gateway.IsAttached handle := by
  obtain ⟨connection, found, -, isOpen, member⟩ := waits
  exact ⟨connection, identity, found, isOpen, member⟩

theorem Sound.exists_waits {gateway : Gateway} {entering : Option Handle}
    (sound : gateway.Sound [] entering) (hook : Hook) (needs : gateway.Needs hook) :
    ∃ handle, gateway.Waits handle hook := by
  rcases sound.promises hook needs with due | waits
  · cases due
  · exact waits

theorem keyless_close {gateway : Gateway} {handle : Handle} {identity : Identity}
    (waits : gateway.Waits handle (.dropKeys identity)) :
    (gateway.close handle).Keyless identity := by
  obtain ⟨connection, found, -, isOpen, member⟩ := waits
  have due : Hook.dropKeys identity ∈ connection.close.2 := by
    rwa [Connection.due_close isOpen]
  rw [close_eq gateway found]
  exact keyless_runHooks _ due

theorem Sound.of_tables {before after : Gateway} {due : List Hook} {entering : Option Handle}
    (same : after.connections = before.connections)
    (promises : ∀ hook, after.Needs hook → before.Promises due hook)
    (knows : ∀ party, after.Names party → before.Knows party)
    (linked : ∀ family, (after.layer family).directory.Linked)
    (welcomed : ∀ family identity party, after.slot family identity .clear = some party →
      party.id = identity ∧ (before.isOpen party.handle = true →
        before.Waits party.handle (.dropKeys identity) ∨ entering = some party.handle))
    (own : before.OwnHooks) : after.Sound due entering where
  promises hook needs := (promises_congr same due hook).2 (promises hook needs)
  knows party names := (knows_congr same party).2 (knows party names)
  linked := linked
  welcomed family identity party found := by
    rw [isOpen_congr same, waits_congr same]
    exact welcomed family identity party found
  own handle connection found := own handle connection (same ▸ found)

theorem Sound.of_fewer {before after : Gateway} {due : List Hook} {entering : Option Handle}
    (sound : before.Sound due entering) (same : after.connections = before.connections)
    (keys : ∀ identity, before.Keyless identity → after.Keyless identity)
    (slots : ∀ family identity role party, after.slot family identity role = some party →
      before.slot family identity role = some party)
    (directories : ∀ family, (after.layer family).directory = (before.layer family).directory) :
    after.Sound due entering := by
  refine .of_tables same (fun hook needs => sound.promises hook ?_) ?_
    (fun family => directories family ▸ sound.linked family)
    (fun family identity party found => sound.welcomed family identity party (slots _ _ _ _ found))
    sound.own
  · cases hook with
    | dropKeys identity => exact fun keyless => needs (keys identity keyless)
    | vacate family identity role connection =>
        obtain ⟨party, found, own⟩ := needs
        exact ⟨party, slots _ _ _ _ found, own⟩
    | forget family connection => simpa only [Needs, directories] using needs
  · intro party names
    cases names with
    | slot found => exact sound.knows party (.slot (slots _ _ _ _ found))
    | directory names => exact sound.knows party (.directory (directories _ ▸ names))

/-- Connections change, but those that are known stay known, what waits on an open connection waits
on, and nothing opens again. -/
theorem Sound.of_connections {gateway : Gateway} {due : List Hook} {entering : Option Handle}
    (sound : gateway.Sound due entering) {connections : Table Handle (Connection Hook)}
    (waits : ∀ handle hook, gateway.Waits handle hook →
      { gateway with connections }.Waits handle hook)
    (knows : ∀ party, gateway.Knows party → { gateway with connections }.Knows party)
    (opened : ∀ party, gateway.Knows party →
      { gateway with connections }.isOpen party.handle = true →
        gateway.isOpen party.handle = true)
    (own : { gateway with connections }.OwnHooks) :
    { gateway with connections }.Sound due entering := by
  refine ⟨?_, ?_, sound.linked, ?_, own⟩
  · intro hook needs
    have needed : gateway.Needs hook := by
      cases hook <;> exact needs
    exact (sound.promises hook needed).imp_right fun ⟨handle, waiting⟩ =>
      ⟨handle, waits handle hook waiting⟩
  · intro party names
    have named : gateway.Names party := by
      cases names with
      | slot found => exact .slot found
      | directory names => exact .directory names
    exact knows party (sound.knows party named)
  · intro family identity party found
    obtain ⟨own, attached⟩ := sound.welcomed family identity party found
    have known := sound.knows party (.slot found)
    exact ⟨own, fun isOpen => (attached (opened party known isOpen)).imp_left (waits _ _)⟩

section Hooks

variable {gateway : Gateway} {hook : Hook} {entering : Option Handle}

theorem slot_modifyLayer (family other : Family) (change : Layer → Layer) (identity : Identity)
    (role : Role) :
    (gateway.modifyLayer family change).slot other identity role =
      (if other = family then change (gateway.layer other)
        else gateway.layer other).pairs.slot identity role := by
  rw [slot, layer_modifyLayer]

/-- A slot that is not empty after a hook held the same connection before, and was not the one that
the hook was to empty. -/
theorem slot_of_runHook {family : Family} {identity : Identity} {role : Role} {party : Party}
    (found : (gateway.runHook hook).slot family identity role = some party) :
    gateway.slot family identity role = some party ∧
      hook ≠ .vacate family identity role party.id := by
  cases hook with
  | dropKeys other =>
      refine ⟨?_, Hook.noConfusion⟩
      cases family <;> exact found
  | forget other connection =>
      refine ⟨?_, Hook.noConfusion⟩
      simp only [runHook, onDirectory_snd, slot_modifyLayer] at found
      split at found <;> exact found
  | vacate other subject side connection =>
      simp only [runHook, slot_modifyLayer] at found
      split at found
      · next same =>
          subst same
          rw [Pairs.slot_vacate] at found
          split at found
          · next own =>
              subst own
              rw [Option.filter_eq_some_iff] at found
              obtain ⟨kept, -⟩ := found
              split at kept
              · cases kept
              · next spared =>
                  refine ⟨kept, fun equal => spared ?_⟩
                  cases equal
                  refine ⟨rfl, ?_⟩
                  rw [Pairs.holds_eq, kept]
                  simp
          · next different =>
              refine ⟨found, fun equal => different ?_⟩
              cases equal
              rfl
      · next different =>
          refine ⟨found, fun equal => different ?_⟩
          cases equal
          rfl

/-- A hook leaves a directory alone, or makes it forget a connection. -/
theorem directory_runHook (gateway : Gateway) (hook : Hook) (family : Family) :
    (∃ connection, hook = .forget family connection ∧
        ((gateway.runHook hook).layer family).directory =
          ((gateway.layer family).directory.forget connection).2) ∨
      (∀ connection, hook ≠ .forget family connection) ∧
        ((gateway.runHook hook).layer family).directory = (gateway.layer family).directory := by
  cases hook with
  | dropKeys identity => exact .inr ⟨fun _ => Hook.noConfusion, by cases family <;> rfl⟩
  | vacate other identity role connection =>
      refine .inr ⟨fun _ => Hook.noConfusion, ?_⟩
      simp only [runHook, layer_modifyLayer]
      split <;> rfl
  | forget other connection =>
      simp only [runHook, onDirectory_snd, layer_modifyLayer]
      by_cases same : family = other
      · subst same
        exact .inl ⟨connection, rfl, by simp⟩
      · refine .inr ⟨fun _ equal => same ?_, by simp [same]⟩
        cases equal
        rfl

theorem needs_of_runHook (linked : ∀ family, (gateway.layer family).directory.Linked)
    {other : Hook} (needs : (gateway.runHook hook).Needs other) :
    other ≠ hook ∧ gateway.Needs other := by
  cases other with
  | dropKeys identity =>
      refine ⟨fun equal => needs ?_, fun keyless => needs (keyless.runHook hook)⟩
      rw [← equal]
      exact keyless_dropKeys gateway identity
  | vacate family identity role connection =>
      obtain ⟨party, found, same⟩ := needs
      obtain ⟨before, different⟩ := slot_of_runHook found
      exact ⟨fun equal => different (by rw [← equal, same]), party, before, same⟩
  | forget family connection =>
      simp only [Needs] at needs ⊢
      rcases directory_runHook gateway hook family with
        ⟨forgotten, rfl, after⟩ | ⟨different, after⟩
      · rw [after] at needs
        obtain ⟨others, before⟩ := Directory.Mentions.of_forget (linked family) needs
        refine ⟨fun equal => others ?_, before⟩
        cases equal
        rfl
      · rw [after] at needs
        exact ⟨(different connection).symm, needs⟩

theorem names_of_runHook {party : Party} (names : (gateway.runHook hook).Names party) :
    gateway.Names party := by
  cases names with
  | slot found => exact .slot (slot_of_runHook found).1
  | @directory family names =>
      rcases directory_runHook gateway hook family with
        ⟨forgotten, rfl, after⟩ | ⟨-, after⟩
      · rw [after] at names
        exact .directory names.of_forget
      · rw [after] at names
        exact .directory names

theorem Sound.runHook {due : List Hook} (sound : gateway.Sound (hook :: due) entering) :
    (gateway.runHook hook).Sound due entering := by
  refine .of_tables (connections_runHook gateway hook) ?_
    (fun party names => sound.knows party (names_of_runHook names)) ?_
    (fun family identity party found =>
      sound.welcomed family identity party (slot_of_runHook found).1) sound.own
  · intro other needs
    obtain ⟨different, before⟩ := needs_of_runHook sound.linked needs
    exact (sound.promises other before).of_cons different
  · intro family
    rcases directory_runHook gateway hook family with
      ⟨forgotten, -, after⟩ | ⟨-, after⟩
    · rw [after]
      exact (sound.linked family).forget
    · rw [after]
      exact sound.linked family

theorem Sound.runHooks {due : List Hook} (sound : gateway.Sound due entering) :
    (gateway.runHooks due).Sound [] entering := by
  induction due generalizing gateway with
  | nil => exact sound
  | cons hook due induction => exact induction sound.runHook

end Hooks

section Connections

variable {gateway : Gateway} {handle : Handle} {connection turned : Connection Hook}
  {due after : List Hook} {entering : Option Handle}

theorem waits_replace_of_ne {other : Handle} (different : other ≠ handle) (hook : Hook) :
    { gateway with connections := gateway.connections.insert handle turned }.Waits other hook ↔
      gateway.Waits other hook := by
  simp [Waits, Table.get?_insert_of_ne _ _ different]

theorem waits_replace (found : gateway.connections.get? handle = some connection)
    (id : turned.id = connection.id) (isOpen : turned.isOpen = true)
    (kept : ∀ hook ∈ connection.life.waiting, hook ∈ turned.life.waiting) {hook : Hook}
    (waits : gateway.Waits handle hook) :
    { gateway with connections := gateway.connections.insert handle turned }.Waits handle hook := by
  obtain ⟨held, held_found, owner, -, member⟩ := waits
  cases found.symm.trans held_found
  exact ⟨turned, Table.get?_insert_self _ _ _, id.trans owner, isOpen, kept hook member⟩

theorem knows_replace (found : gateway.connections.get? handle = some connection)
    (id : turned.id = connection.id) {party : Party} (known : gateway.Knows party) :
    { gateway with connections := gateway.connections.insert handle turned }.Knows party := by
  rw [Knows, idOf?] at known ⊢
  rw [Table.get?_insert]
  split
  · next same =>
      rw [same, found] at known
      simpa [id] using known
  · exact known

/-- An operation on a connection loses no hook: what waited on it, or was about to run, waits on it
now or is about to run. -/
structure Carries (connection turned : Connection Hook) (due after : List Hook) : Prop where
  id : turned.id = connection.id
  opened : turned.isOpen = true → connection.isOpen = true
  kept : turned.isOpen = true → ∀ hook ∈ connection.life.waiting, hook ∈ turned.life.waiting
  waited : connection.isOpen = true → turned.isOpen = false →
    ∀ hook ∈ connection.life.waiting, hook ∈ after
  owed : ∀ hook ∈ due, hook ∈ after ∨
    turned.isOpen = true ∧ connection.id = hook.owner ∧ hook ∈ turned.life.waiting
  own : ∀ hook ∈ turned.life.waiting, hook ∈ connection.life.waiting ∨ hook.owner = connection.id

theorem Carries.of_turns (turns : connection.Turns turned after) :
    Carries connection turned [] after where
  id := turns.id_eq
  opened := turns.isOpen_of_isOpen
  kept isOpen hook member := by
    rw [(turns.life_of_isOpen isOpen).1]
    exact member
  waited was_open closed hook member := by
    cases turns with
    | kept id life =>
        rw [Connection.isOpen, life] at closed
        rw [Connection.isOpen, closed] at was_open
        cases was_open
    | closed id wasOpen life => exact member
  owed hook member := by cases member
  own hook member := by
    cases turns with
    | kept id life =>
        rw [life] at member
        exact .inl member
    | closed id wasOpen life =>
        rw [life] at member
        cases member

/-- Registering a hook makes good for it: it waits from now on, or is about to run. -/
theorem Carries.onClose {hook : Hook} (own : hook.owner = connection.id) :
    Carries connection (connection.onClose hook).1 [hook] (connection.onClose hook).2 := by
  cases isOpen : connection.isOpen with
  | true =>
      rw [Connection.onClose_of_isOpen isOpen]
      refine ⟨rfl, fun _ => isOpen, fun _ other member => by simp [member], ?_, ?_, ?_⟩
      · intro _ closed
        exact absurd (isOpen.symm.trans closed) Bool.noConfusion
      · intro other member
        rw [List.mem_singleton] at member
        subst member
        exact .inr ⟨isOpen, own.symm, by simp⟩
      · intro other member
        rw [List.mem_append, List.mem_singleton] at member
        exact member.imp_right fun same => by rw [same, own]
  | false =>
      rw [Connection.onClose_of_closed isOpen]
      exact ⟨rfl, fun still_open => still_open, fun _ _ member => member,
        fun was_open _ => absurd (was_open.symm.trans isOpen) Bool.noConfusion,
        fun _ member => .inl member, fun _ member => .inl member⟩

theorem Promises.replace {hook : Hook} (promised : gateway.Promises due hook)
    (found : gateway.connections.get? handle = some connection)
    (carries : Carries connection turned due after) :
    { gateway with connections := gateway.connections.insert handle turned }.Promises after
      hook := by
  rcases promised with member | ⟨other, waits⟩
  · rcases carries.owed hook member with later | ⟨isOpen, owner, waiting⟩
    · exact .inl later
    · exact .inr ⟨handle, turned, Table.get?_insert_self _ _ _, carries.id.trans owner, isOpen,
        waiting⟩
  -- On the connection itself the hook still waits, or its close has made it due.
  · by_cases same : other = handle
    · subst same
      cases isOpen : turned.isOpen with
      | true =>
          exact .inr ⟨other, waits_replace found carries.id isOpen (carries.kept isOpen) waits⟩
      | false =>
          obtain ⟨held, held_found, -, was_open, member⟩ := waits
          cases found.symm.trans held_found
          exact .inl (carries.waited was_open isOpen hook member)
    · exact .inr ⟨other, (waits_replace_of_ne same hook).2 waits⟩

theorem OwnHooks.replace (own : gateway.OwnHooks)
    (found : gateway.connections.get? handle = some connection)
    (carries : Carries connection turned due after) :
    { gateway with connections := gateway.connections.insert handle turned }.OwnHooks := by
  intro other held other_found hook member
  rw [Table.get?_insert] at other_found
  split at other_found
  · cases other_found
    rcases carries.own hook member with waited | new
    · exact (own handle connection found hook waited).trans carries.id.symm
    · exact new.trans carries.id.symm
  · exact own other held other_found hook member

/-- A connection changes and loses no hook. -/
theorem Sound.replace (sound : gateway.Sound due entering)
    (found : gateway.connections.get? handle = some connection)
    (carries : Carries connection turned due after) :
    { gateway with connections := gateway.connections.insert handle turned }.Sound after
      entering := by
  refine ⟨?_, ?_, sound.linked, ?_, sound.own.replace found carries⟩
  · intro hook needs
    have needed : gateway.Needs hook := by
      cases hook <;> exact needs
    exact (sound.promises hook needed).replace found carries
  · intro party names
    have named : gateway.Names party := by
      cases names with
      | slot found => exact .slot found
      | directory names => exact .directory names
    exact knows_replace found carries.id (sound.knows party named)
  · intro family identity party slotted
    obtain ⟨own, attached⟩ := sound.welcomed family identity party slotted
    refine ⟨own, ?_⟩
    intro isOpen
    by_cases same : party.handle = handle
    · rw [same] at isOpen attached ⊢
      have turned_open : turned.isOpen = true := by
        simpa [Gateway.isOpen] using isOpen
      have was_open : gateway.isOpen handle = true := by
        rw [isOpen_eq found]
        exact carries.opened turned_open
      exact (attached was_open).imp_left
        (waits_replace found carries.id turned_open (carries.kept turned_open))
    · have was_open : gateway.isOpen party.handle = true := by
        simpa [Gateway.isOpen, Table.get?_insert_of_ne _ _ same] using isOpen
      exact (attached was_open).imp_left (waits_replace_of_ne same _).2

theorem Sound.turns (sound : gateway.Sound [] entering)
    (found : gateway.connections.get? handle = some connection)
    (turns : connection.Turns turned due) :
    (gateway.settle handle turned due).Sound [] entering :=
  (sound.replace found (.of_turns turns)).runHooks

theorem Sound.send (sound : gateway.Sound [] entering) (handle : Handle) (payload : Bytes) :
    (gateway.send handle payload).2.Sound [] entering := by
  cases found : gateway.connections.get? handle with
  | none => simpa only [Gateway.send, found] using sound
  | some connection =>
      rw [send_eq gateway payload found]
      exact sound.turns found (connection.turns_send payload)

theorem Sound.close (sound : gateway.Sound [] entering) (handle : Handle) :
    (gateway.close handle).Sound [] entering := by
  cases found : gateway.connections.get? handle with
  | none => simpa only [Gateway.close, found] using sound
  | some connection =>
      rw [close_eq gateway found]
      exact sound.turns found connection.turns_close

/-- Registering a hook makes good for it: it waits from now on, or has run. -/
theorem Sound.onClose {hook : Hook} (sound : gateway.Sound [hook] entering) {party : Party}
    (known : gateway.Knows party) (own : hook.owner = party.id) :
    (gateway.onClose party.handle hook).Sound [] entering := by
  obtain ⟨connection, found, id⟩ := known.exists_connection
  rw [onClose_eq gateway hook found]
  exact (sound.replace found (.onClose (own.trans id.symm))).runHooks

end Connections

end Gateway

end PadRelay
