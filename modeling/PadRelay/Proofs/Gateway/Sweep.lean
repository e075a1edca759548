import PadRelay.Proofs.Directory.Edit
import PadRelay.Proofs.Gateway.Surroundings
import PadRelay.Proofs.Gateway.Upkeep

/-!
# What becomes of the directories

A directory changes where an edit is asked for. Besides, a connection that closes is swept out of
it, with its keys and places, and no other connection is. With distinct identities this says exactly
what a directory holds afterwards: what the edit made of it, as far as it is open.
-/

namespace PadRelay.Gateway

/-- A connection with an identity has closed. -/
def HasClosed (gateway : Gateway) (id : Identity) : Prop :=
  ∃ handle, gateway.idOf? handle = some id ∧ gateway.isOpen handle = false

/-- The directory of a family changes, and connections that have closed are swept out of it. -/
structure Revises (before : Gateway) (family : Family)
    (change : Directory ChannelKey → Directory ChannelKey) (after : Gateway) : Prop where
  knows : ∀ party, before.Knows party → after.Knows party
  opened : ∀ party, before.Knows party → after.isOpen party.handle = true →
    before.isOpen party.handle = true
  dressing : (after.layer family).dressing = (before.layer family).dressing
  sweeps : Directory.Sweeps after.HasClosed (change (before.layer family).directory)
    (after.layer family).directory

variable {gateway : Gateway} {family : Family}
  {change : Directory ChannelKey → Directory ChannelKey}

namespace Revises

theorem refl (gateway : Gateway) : gateway.Revises family id gateway where
  knows _ known := known
  opened _ _ isOpen := isOpen
  dressing := rfl
  sweeps := .refl _

theorem hasClosed {before after : Gateway} (revises : before.Revises family change after)
    {id : Identity} (closed : before.HasClosed id) : after.HasClosed id := by
  obtain ⟨handle, found, shut⟩ := closed
  refine ⟨handle, revises.knows ⟨handle, id⟩ found, ?_⟩
  by_contra isOpen
  have was_open := revises.opened ⟨handle, id⟩ found (eq_true_of_ne_false isOpen)
  rw [shut] at was_open
  cases was_open

theorem trans {before middle after : Gateway} (first : before.Revises family change middle)
    (second : middle.Revises family id after) : before.Revises family change after where
  knows party known := second.knows party (first.knows party known)
  opened party known isOpen :=
    first.opened party known (second.opened party (first.knows party known) isOpen)
  dressing := second.dressing.trans first.dressing
  sweeps := (first.sweeps.mono fun _ => second.hasClosed).trans second.sweeps

theorem of_same {before after : Gateway} (connections : after.connections = before.connections)
    (dressing : (after.layer family).dressing = (before.layer family).dressing)
    (directory : (after.layer family).directory = change (before.layer family).directory) :
    before.Revises family change after where
  knows party := (knows_congr connections party).2
  opened party _ isOpen := by rwa [isOpen_congr connections] at isOpen
  dressing := dressing
  sweeps := directory ▸ .refl _

theorem modifyLayer {other : Family} {change : Layer → Layer}
    (dressing : ∀ layer, (change layer).dressing = layer.dressing)
    (directory : ∀ layer, (change layer).directory = layer.directory) :
    gateway.Revises family id (gateway.modifyLayer other change) := by
  refine of_same (connections_modifyLayer _ _ _) ?_ ?_
  · rw [layer_modifyLayer]
    split
    · exact dressing _
    · rfl
  · rw [layer_modifyLayer]
    split
    · exact directory _
    · rfl

theorem onDirectory {α : Type} (work : Directory ChannelKey → α × Directory ChannelKey) :
    gateway.Revises family (fun directory => (work directory).2)
      (gateway.onDirectory family work).2 :=
  of_same (by simp) (by simp [layer_modifyLayer]) (by simp [layer_modifyLayer])

theorem onDirectory_of_ne {α : Type} {other : Family} (different : family ≠ other)
    (work : Directory ChannelKey → α × Directory ChannelKey) :
    gateway.Revises family id (gateway.onDirectory other work).2 :=
  of_same (by simp) (by simp [layer_modifyLayer, different])
    (by simp [layer_modifyLayer, different])

end Revises

theorem dressing_runHooks (gateway : Gateway) (hooks : List Hook) :
    ((gateway.runHooks hooks).layer family).dressing = (gateway.layer family).dressing := by
  induction hooks generalizing gateway with
  | nil => rfl
  | cons hook hooks induction =>
      refine (induction (gateway.runHook hook)).trans ?_
      cases hook with
      | dropKeys identity => cases family <;> rfl
      | vacate other identity role connection =>
          simp only [runHook, layer_modifyLayer]
          split <;> rfl
      | forget other connection =>
          simp only [runHook, onDirectory_snd, layer_modifyLayer]
          split <;> rfl

theorem sweeps_runHooks {gone : Identity → Prop} (gateway : Gateway) {hooks : List Hook}
    (owned : ∀ hook ∈ hooks, gone hook.owner) :
    Directory.Sweeps gone (gateway.layer family).directory
      ((gateway.runHooks hooks).layer family).directory := by
  induction hooks generalizing gateway with
  | nil => exact .refl _
  | cons hook hooks induction =>
      refine .trans ?_ (induction (gateway.runHook hook) fun other member =>
        owned other (List.mem_cons_of_mem hook member))
      rcases directory_runHook gateway hook family with ⟨connection, rfl, after⟩ | ⟨-, after⟩
      · rw [after]
        exact .single (.forget (owned _ List.mem_cons_self))
      · rw [after]

namespace Revises

variable {handle : Handle} {connection turned : Connection Hook} {due : List Hook}

theorem settle (found : gateway.connections.get? handle = some connection)
    (same_id : turned.id = connection.id)
    (opened : turned.isOpen = true → connection.isOpen = true)
    (owned : ∀ hook ∈ due, hook.owner = connection.id ∧ turned.isOpen = false) :
    gateway.Revises family id (gateway.settle handle turned due) := by
  have same_layer : ({ gateway with
      connections := gateway.connections.insert handle turned }.layer family) =
        gateway.layer family := by cases family <;> rfl
  refine ⟨fun party => ((Keeps.settle found same_id due).knows party).2, ?_, ?_, ?_⟩
  · intro party _ isOpen
    rw [isOpen_settle] at isOpen
    split at isOpen
    · next same =>
        rw [same, isOpen_eq found]
        exact opened isOpen
    · exact isOpen
  · exact (dressing_runHooks _ due).trans (by rw [same_layer])
  · rw [← same_layer]
    refine sweeps_runHooks _ fun hook member => ?_
    obtain ⟨own, closed⟩ := owned hook member
    refine ⟨handle, ?_, ?_⟩
    · rw [idOf?, connections_settle, Table.get?_insert_self, Option.map_some, same_id, own]
    · rw [isOpen_settle, if_pos rfl, closed]

/-- A connection that closes hands over its own hooks, and so sweeps out itself. -/
theorem turns (own : gateway.OwnHooks)
    (found : gateway.connections.get? handle = some connection)
    (turns : connection.Turns turned due) :
    gateway.Revises family id (gateway.settle handle turned due) := by
  refine settle found turns.id_eq turns.isOpen_of_isOpen ?_
  intro hook member
  cases turns with
  | kept same_id life => cases member
  | closed same_id wasOpen life =>
      exact ⟨own handle connection found hook member, by
        simp [Connection.isOpen, Lifecycle.isOpen, life]⟩

theorem send (own : gateway.OwnHooks) (handle : Handle) (payload : Bytes) :
    gateway.Revises family id (gateway.send handle payload).2 := by
  cases found : gateway.connections.get? handle with
  | none => simpa only [Gateway.send, found] using refl gateway
  | some connection =>
      rw [send_eq gateway payload found]
      exact turns own found (connection.turns_send payload)

theorem close (own : gateway.OwnHooks) (handle : Handle) :
    gateway.Revises family id (gateway.close handle) := by
  cases found : gateway.connections.get? handle with
  | none => simpa only [Gateway.close, found] using refl gateway
  | some connection =>
      rw [close_eq gateway found]
      exact turns own found connection.turns_close

/-- A hook that is registered on its owner runs at once only if that has closed. -/
theorem onClose {party : Party} (known : gateway.Knows party) {hook : Hook}
    (own : hook.owner = party.id) :
    gateway.Revises family id (gateway.onClose party.handle hook) := by
  obtain ⟨connection, found, same⟩ := known.exists_connection
  rw [onClose_eq gateway hook found]
  cases isOpen : connection.isOpen with
  | true =>
      rw [Connection.onClose_of_isOpen isOpen]
      exact settle found rfl (fun _ => isOpen) fun hook member => by cases member
  | false =>
      rw [Connection.onClose_of_closed isOpen]
      refine settle found rfl (fun turned => turned) fun other member => ?_
      rw [List.mem_singleton.1 member]
      exact ⟨own.trans same.symm, isOpen⟩

theorem occupy {party : Party} (known : gateway.Knows party) (other : Family)
    (identity : Identity) (role : Role) :
    gateway.Revises family id ((Script.occupy other identity role party).run gateway).2 := by
  have placed : gateway.Revises family id (gateway.place other identity role party).2 := by
    simp only [place]
    apply modifyLayer <;> exact fun _ => rfl
  rcases occupy_cases gateway other identity role party with ⟨same, -⟩ | ⟨same, -⟩
  · rw [same]
    exact placed
  · rw [same]
    exact placed.trans (onClose (placed.knows party known) rfl)

/-- Steps that move no key change no directory but by closing connections. -/
theorem drifts {before after : Gateway} {entering : Option Handle}
    (sound : before.Sound [] entering) (drifts : before.Drifts after) :
    before.Revises family id after := by
  have both := drifts.respects
    (fun before after => before.Sound [] entering →
      after.Sound [] entering ∧ before.Revises family id after)
    (fun gateway sound => ⟨sound, refl gateway⟩)
    (fun first second third one two sound =>
      ⟨(two (one sound).1).1, (one sound).2.trans (two (one sound).1).2⟩)
    (fun before after stirs sound => ?_)
  · exact (both sound).2
  · refine ⟨sound.drifts (.single stirs), ?_⟩
    cases stirs with
    | count other event => apply modifyLayer <;> exact fun _ => rfl
    | look identity => exact of_same rfl (by cases family <;> rfl) (by cases family <;> rfl)
    | send handle payload => exact send sound.own handle payload
    | close handle => exact close sound.own handle
    | occupy other identity known => exact occupy known other identity .encrypted

theorem closeEach {entering : Option Handle} (sound : gateway.Sound [] entering)
    (parties : List Party) : gateway.Revises family id (gateway.closeEach parties) := by
  induction parties generalizing gateway with
  | nil => exact refl gateway
  | cons party parties induction =>
      exact (close sound.own party.handle).trans (induction (sound.close party.handle))

theorem undergo {ids : List Identity} (sound : gateway.Sound [] none) (lists : gateway.Lists ids)
    (occurrence : Occurrence) : gateway.Revises family id (gateway.undergo occurrence) := by
  cases occurrence with
  | opens other secure remote outlet =>
      have kept {handle : Handle} {identity : Identity} (known : gateway.Knows ⟨handle, identity⟩) :
          (gateway.undergo (.opens other secure remote outlet)).connections.get? handle =
            gateway.connections.get? handle := by
        refine Table.get?_insert_of_ne _ _ ?_
        rintro rfl
        have absent := lists.absent
        simp [Knows, idOf?, absent] at known
      refine ⟨?_, ?_, by cases family <;> rfl, by cases family <;> exact .refl _⟩
      · intro party known
        rw [Knows, idOf?, kept known]
        exact known
      · intro party known isOpen
        rwa [Gateway.isOpen, kept known] at isOpen
  | outlet other outlet =>
      refine ⟨?_, ?_, by cases family <;> rfl, by cases family <;> exact .refl _⟩
      · intro party known
        rcases gateway.outlet_cases other party.handle outlet with
          ⟨absent, -⟩ | ⟨old, new, was, is, same_id, -⟩
        · simp [Knows, idOf?, absent] at known
        · rw [Knows, idOf?, was] at known
          rw [Knows, idOf?, is, Option.map_some, same_id]
          exact known
      · intro party known isOpen
        rcases gateway.outlet_cases other party.handle outlet with
          ⟨absent, -⟩ | ⟨old, new, was, is, -, life, -⟩
        · simp [Knows, idOf?, absent] at known
        · rw [isOpen_eq is, Connection.isOpen, life] at isOpen
          rwa [isOpen_eq was, Connection.isOpen]
  | closes handle => exact close sound.own handle
  | passes duration => exact of_same rfl (by cases family <;> rfl) (by cases family <;> rfl)
  | rings identity generation =>
      exact of_same rfl (by cases family <;> rfl) (by cases family <;> rfl)

theorem onDirectory_of_sweeps {α : Type} (other : Family)
    (work : Directory ChannelKey → α × Directory ChannelKey)
    (swept : ∀ directory, Directory.Sweeps gateway.HasClosed directory (work directory).2) :
    gateway.Revises family id (gateway.onDirectory other work).2 := by
  by_cases same : family = other
  · subst same
    have changed : gateway.Revises family (fun directory => (work directory).2)
        (gateway.onDirectory family work).2 := onDirectory work
    exact ⟨changed.knows, changed.opened, changed.dressing,
      ((swept _).mono fun _ => changed.hasClosed).trans changed.sweeps⟩
  · exact onDirectory_of_ne same work

/-- A connection that has just come into a directory is watched, and swept out if it has closed. -/
theorem watch {party : Party} (known : gateway.Knows party) (other : Family) :
    gateway.Revises family id ((Script.watch other party).run gateway).2 := by
  have left {state : Gateway} (known : state.Knows party) :
      state.Revises family id ((do
        if ← Script.ask (.isOpen party.handle) then return
        else Script.ask (.forget other party.id) : Script Unit).run state).2 := by
    rw [Script.run_bind, Script.run_ask]
    split
    · exact refl state
    · next shut =>
        have gone : state.HasClosed party.id := ⟨party.handle, known, eq_false_of_ne_true shut⟩
        exact onDirectory_of_sweeps other _ fun directory => .single (.forget gone)
  have watched : gateway.Revises family id (gateway.perform (.watch other party.id)).2 :=
    onDirectory_of_sweeps other _ fun directory => .single (.watch party.id)
  have still := watched.knows party known
  rw [Script.watch, Script.run_bind, Script.run_ask]
  split
  · rw [Script.run_bind, Script.run_ask]
    have registered : ((gateway.perform (.watch other party.id)).2).Revises family id
        (((gateway.perform (.watch other party.id)).2).onClose party.handle
          (.forget other party.id)) := onClose still rfl
    exact (watched.trans registered).trans (left (registered.knows party still))
  · exact watched.trans (left still)

theorem entering {other : Family} {party : Party} (known : gateway.Knows party) {key : ChannelKey}
    (put : gateway.Revises family change (gateway.perform (.enter other key party)).2) :
    gateway.Revises family change ((Script.enter other key party).run gateway).2 := by
  rw [Script.enter, Script.run_bind, Script.run_ask, Script.run_bind, Script.run_pure]
  exact put.trans (watch (put.knows party known) other)

theorem joining {other : Family} {party : Party} (known : gateway.Knows party) {group : String}
    (joined : gateway.Revises family change (gateway.perform (.join other group party)).2) :
    gateway.Revises family change ((Script.join other group party).run gateway).2 := by
  rw [Script.join, Script.run_bind, Script.run_ask]
  split
  · rw [Script.run_bind, Script.run_pure]
    exact joined.trans (watch (joined.knows party known) other)
  · exact joined

theorem enter {party : Party} (known : gateway.Knows party) (key : ChannelKey) :
    gateway.Revises family (Directory.Edit.put key party).apply
      ((Script.enter family key party).run gateway).2 :=
  entering known (onDirectory fun directory => directory.put key party)

theorem join {party : Party} (known : gateway.Knows party) (group : String) :
    gateway.Revises family (Directory.Edit.join group party).apply
      ((Script.join family group party).run gateway).2 :=
  joining known (onDirectory fun directory => directory.join group party)

theorem enter_of_ne {other : Family} (different : family ≠ other) {party : Party}
    (known : gateway.Knows party) (key : ChannelKey) :
    gateway.Revises family id ((Script.enter other key party).run gateway).2 :=
  entering known (onDirectory_of_ne different _)

theorem join_of_ne {other : Family} (different : family ≠ other) {party : Party}
    (known : gateway.Knows party) (group : String) :
    gateway.Revises family id ((Script.join other group party).run gateway).2 :=
  joining known (onDirectory_of_ne different _)

end Revises

theorem Revises.edit {α : Type} {work : Directory ChannelKey → α × Directory ChannelKey}
    (edit : Directory.Edit ChannelKey)
    (worked : ∀ directory, (work directory).2 = edit.apply directory) :
    gateway.Revises family edit.apply (gateway.onDirectory family work).2 := by
  have changed : gateway.Revises family (fun directory => (work directory).2)
      (gateway.onDirectory family work).2 := .onDirectory work
  rwa [funext worked] at changed

/-- An edit that brings no connection in owes nothing to any. -/
theorem Sound.edit (sound : gateway.Sound [] none)
    (indexed : (gateway.layer family).directory.Indexed) {α : Type}
    {work : Directory ChannelKey → α × Directory ChannelKey} (edit : Directory.Edit ChannelKey)
    (worked : ∀ directory, (work directory).2 = edit.apply directory)
    (nothing : edit.party? = none) : (gateway.onDirectory family work).2.Sound [] none := by
  apply sound.shrink family work
  · exact fun other named => Directory.Edit.names_of_apply nothing (worked _ ▸ named)
  · exact fun id mentioned =>
      Directory.Edit.mentions_of_apply indexed.linked nothing (worked _ ▸ mentioned)
  · exact worked _ ▸ (Directory.Edit.indexed_apply indexed edit).linked

section Held

variable {before after : Gateway} {ids : List Identity} {party : Party}

theorem not_hasClosed (lists : gateway.Lists ids) (distinct : ids.Nodup)
    (known : gateway.Knows party) (isOpen : gateway.isOpen party.handle = true) :
    ¬ gateway.HasClosed party.id := by
  rintro ⟨handle, found, closed⟩
  rw [lists.handle_eq distinct found known, isOpen] at closed
  cases closed

theorem Sound.isOpen_of_names (sound : gateway.Sound [] none) (lists : gateway.Lists ids)
    (distinct : ids.Nodup) (names : (gateway.layer family).directory.Names party) :
    gateway.isOpen party.handle = true :=
  sound.isOpen_of_needs lists distinct (sound.knows party (.directory names))
    (.forget family party.id) (names.mentions (sound.linked family)) rfl

/-- A key leads to the connections to which the change makes it lead, as far as they are open. -/
theorem Revises.get?_iff (revises : before.Revises family change after)
    (sound : after.Sound [] none) (lists : after.Lists ids) (distinct : ids.Nodup)
    (known : after.Knows party) (key : ChannelKey) :
    (after.layer family).directory.get? key = some party ↔
      after.isOpen party.handle = true ∧
        (change (before.layer family).directory).get? key = some party := by
  constructor
  · intro found
    refine ⟨?_, revises.sweeps.get?.1 found⟩
    exact sound.isOpen_of_names lists distinct (.key found)
  · rintro ⟨isOpen, found⟩
    exact revises.sweeps.get?.2 (not_hasClosed lists distinct known isOpen) found

theorem Revises.member?_iff (revises : before.Revises family change after)
    (sound : after.Sound [] none) (lists : after.Lists ids) (distinct : ids.Nodup)
    (known : after.Knows party) (group : String) :
    (after.layer family).directory.member? group party.id = some party ↔
      after.isOpen party.handle = true ∧
        (change (before.layer family).directory).member? group party.id = some party := by
  constructor
  · intro found
    refine ⟨?_, revises.sweeps.member?.1 found⟩
    exact sound.isOpen_of_names lists distinct (.member found)
  · rintro ⟨isOpen, found⟩
    exact revises.sweeps.member?.2 (not_hasClosed lists distinct known isOpen) found

theorem isOpen_close_of_ne {handle other : Handle} (different : other ≠ handle) :
    (gateway.close handle).isOpen other = gateway.isOpen other := by
  cases found : gateway.connections.get? handle with
  | none => simp only [close, found]
  | some connection => rw [close_eq gateway found, isOpen_settle, if_neg different]

/-- The close of one connection takes no key from another. -/
theorem get?_close (sound : gateway.Sound [] none) (lists : gateway.Lists ids)
    (distinct : ids.Nodup) {handle : Handle} (different : party.handle ≠ handle) {key : ChannelKey}
    (found : (gateway.layer family).directory.get? key = some party) :
    ((gateway.close handle).layer family).directory.get? key = some party := by
  have revises : gateway.Revises family id (gateway.close handle) := .close sound.own handle
  have known := sound.knows party (.directory (.key found))
  have isOpen := sound.isOpen_of_names lists distinct (.key found)
  rw [revises.get?_iff (sound.close handle) (lists.keeps (.close gateway handle)) distinct
    (revises.knows party known), isOpen_close_of_ne different]
  exact ⟨isOpen, found⟩

/-- The close of one connection takes no other one out of a group. -/
theorem member?_close (sound : gateway.Sound [] none) (lists : gateway.Lists ids)
    (distinct : ids.Nodup) {handle : Handle} (different : party.handle ≠ handle) {group : String}
    (found : (gateway.layer family).directory.member? group party.id = some party) :
    ((gateway.close handle).layer family).directory.member? group party.id = some party := by
  have revises : gateway.Revises family id (gateway.close handle) := .close sound.own handle
  have known := sound.knows party (.directory (.member found))
  have isOpen := sound.isOpen_of_names lists distinct (.member found)
  rw [revises.member?_iff (sound.close handle) (lists.keeps (.close gateway handle)) distinct
    (revises.knows party known), isOpen_close_of_ne different]
  exact ⟨isOpen, found⟩

end Held

end PadRelay.Gateway
