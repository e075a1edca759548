import PadRelay.Proofs.Gateway.Journal
import PadRelay.Proofs.Gateway.Occurrence
import PadRelay.Proofs.Gateway.Ownership

/-!
# Steps that stay in a realm

A step is confined to a realm if its answer depends on nothing else, and what it changes is a list
of writes within the realm that depends on nothing else either. Every call about identities of a
realm is confined to it, hooks included, and so is every script of such calls. A step confined to a
realm and one confined to the rest commute: each answers as it would without the other, and both
orders end alike.
-/

namespace PadRelay

namespace Connection

variable {realm : Realm} {before after : Connection Hook} {due : List Hook}

/-- A connection that turns keeps its identity, and no hook of another one waits or comes due. -/
theorem Turns.within (turns : before.Turns after due) (inside : before.Within realm) :
    after.id = before.id ∧ after.Within realm ∧ ∀ hook ∈ due, hook.Within realm := by
  have was_open := turns.isOpen_of_isOpen
  cases turns with
  | kept id life =>
      refine ⟨id, fun isOpen hook member => ?_, List.forall_mem_nil _⟩
      rw [life] at member
      exact inside (was_open isOpen) hook member
  | closed id wasOpen life =>
      refine ⟨id, fun isOpen => ?_, inside wasOpen⟩
      simp [Connection.isOpen, Lifecycle.isOpen, life] at isOpen

theorem Within.onClose {hook : Hook} (inside : before.Within realm) (within : hook.Within realm) :
    (before.onClose hook).1.id = before.id ∧ (before.onClose hook).1.Within realm ∧
      ∀ other ∈ (before.onClose hook).2, other.Within realm := by
  cases isOpen : before.isOpen with
  | true =>
      rw [onClose_of_isOpen isOpen]
      refine ⟨rfl, fun _ other member => ?_, List.forall_mem_nil _⟩
      rcases List.mem_append.1 member with early | last
      · exact inside isOpen other early
      · rwa [List.mem_singleton.1 last]
  | false =>
      rw [onClose_of_closed isOpen]
      exact ⟨rfl, inside, List.forall_mem_singleton.2 within⟩

end Connection

/-! ### What vacating leaves of a pair -/

namespace Pair

/-- The pair after a slot has lost a connection, if it held that. -/
def emptied (pair : Pair) (role : Role) (id : Identity) : Pair :=
  if (pair.slot role).any fun party => party.id = id then pair.setSlot role none else pair

/-- The pair after a connection that a slot held has closed, if anything live is left in it. -/
def vacated (isLive : Handle → Bool) (pair : Pair) (role : Role) (id : Identity) : Option Pair :=
  if ((pair.emptied role id).prune isLive).isVacant then none
  else some ((pair.emptied role id).prune isLive)

theorem slot_of_emptied {pair : Pair} {role side : Role} {id : Identity} {party : Party}
    (held : (pair.emptied role id).slot side = some party) : pair.slot side = some party := by
  rw [emptied] at held
  split at held
  · rw [slot_setSlot] at held
    split at held
    · cases held
    · exact held
  · exact held

theorem prune_congr {left right : Handle → Bool} {pair : Pair}
    (same : ∀ role party, pair.slot role = some party → left party.handle = right party.handle) :
    pair.prune left = pair.prune right := by
  have side (role : Role) : pair.live left role = pair.live right role := by
    rw [live, live]
    cases held : pair.slot role with
    | none => rfl
    | some party => rw [Option.filter_some, Option.filter_some, same role party held]
  rw [prune, prune, side, side]

theorem vacated_congr {left right : Handle → Bool} {pair : Pair} (role : Role) (id : Identity)
    (same : ∀ role party, pair.slot role = some party → left party.handle = right party.handle) :
    pair.vacated left role id = pair.vacated right role id := by
  rw [vacated, vacated, prune_congr fun side party held => same side party (slot_of_emptied held)]

theorem slot_of_vacated {isLive : Handle → Bool} {pair after : Pair} {role side : Role}
    {id : Identity} {party : Party} (remains : pair.vacated isLive role id = some after)
    (held : after.slot side = some party) : pair.slot side = some party := by
  rw [vacated] at remains
  split at remains
  · cases remains
  · obtain rfl := Option.some.inj remains
    rw [slot_prune, live] at held
    exact slot_of_emptied (Option.eq_some_of_filter_eq_some held)

end Pair

theorem Pairs.vacate_of_get? {isLive : Handle → Bool} {pairs : Pairs} {identity : Identity}
    {pair : Pair} (found : pairs.get? identity = some pair) (role : Role) (id : Identity) :
    pairs.vacate isLive identity role id =
      pairs.set identity (pair.vacated isLive role id) := by
  have held : (if pairs.holds identity role id then pair.setSlot role none else pair) =
      pair.emptied role id := by
    simp only [holds, found, Pair.emptied]
  simp only [vacate, found, Pair.vacated, held]
  split <;> rfl

namespace Gateway

/-- What a step answers and writes depends on a realm alone, and it writes nowhere else. -/
def Confined {α : Type} (realm : Realm) (roster : Handle → Option Identity)
    (step : Gateway → α × Gateway) : Prop :=
  ∀ left right : Gateway, left.idOf? = roster → left.Sheltered realm → left.Agrees realm right →
    (step left).1 = (step right).1 ∧
      ∃ writes : List Write, (∀ write ∈ writes, write.Within realm roster) ∧
        (step left).2 = left.record writes ∧ (step right).2 = right.record writes

section Confined

variable {α β : Type} {realm : Realm} {roster : Handle → Option Identity}

namespace Confined

theorem reading {answer : Gateway → α}
    (same : ∀ left right : Gateway, left.idOf? = roster → left.Sheltered realm →
      left.Agrees realm right → answer left = answer right) :
    Confined realm roster fun gateway => (answer gateway, gateway) :=
  fun left right listed sheltered agrees =>
    ⟨same left right listed sheltered agrees, [], List.forall_mem_nil _, rfl, rfl⟩

theorem writing {value : α} {step : Gateway → Gateway} (writes : List Write)
    (within : ∀ write ∈ writes, write.Within realm roster)
    (steps : ∀ gateway, step gateway = gateway.record writes) :
    Confined realm roster fun gateway => (value, step gateway) :=
  fun left right _ _ _ => ⟨rfl, writes, within, steps left, steps right⟩

/-- The answer may be made something else of. -/
theorem map {step : Gateway → α × Gateway} (confined : Confined realm roster step)
    (change : α → β) : Confined realm roster fun gateway =>
      (change (step gateway).1, (step gateway).2) := by
  intro left right listed sheltered agrees
  obtain ⟨same, writes⟩ := confined left right listed sheltered agrees
  exact ⟨congrArg change same, writes⟩

/-- One confined step after another, which need only be confined for what the first may answer. -/
theorem bind_of {first : Gateway → α × Gateway} {next : α → Gateway → β × Gateway}
    (one : Confined realm roster first) (answers : α → Prop)
    (answering : ∀ gateway : Gateway, gateway.idOf? = roster → gateway.Sheltered realm →
      answers (first gateway).1)
    (two : ∀ value, answers value → Confined realm roster (next value)) :
    Confined realm roster fun gateway => next (first gateway).1 (first gateway).2 := by
  intro left right listed sheltered agrees
  obtain ⟨same, writes, within, left_writes, right_writes⟩ :=
    one left right listed sheltered agrees
  have known : ∀ write ∈ writes, write.Within realm left.idOf? := listed ▸ within
  obtain ⟨also, more, rest, left_more, right_more⟩ := two (first left).1
    (answering left listed sheltered) (first left).2 (first right).2
    (by rw [left_writes, idOf?_record known, listed])
    (by rw [left_writes]; exact sheltered.record known)
    (by rw [left_writes, right_writes]; exact agrees.record known)
  dsimp only
  rw [← same]
  refine ⟨also, writes ++ more, fun write member => ?_, ?_, ?_⟩
  · rcases List.mem_append.1 member with early | late
    · exact within write early
    · exact rest write late
  · rw [left_more, left_writes, record_append]
  · rw [right_more, right_writes, record_append]

theorem bind {first : Gateway → α × Gateway} {next : α → Gateway → β × Gateway}
    (one : Confined realm roster first) (two : ∀ value, Confined realm roster (next value)) :
    Confined realm roster fun gateway => next (first gateway).1 (first gateway).2 :=
  one.bind_of (fun _ => True) (fun _ _ _ => trivial) fun value _ => two value

end Confined

/-! ### Connections -/

section Lookups

variable {left right : Gateway}

theorem Agrees.isOpen (agrees : left.Agrees realm right) {handle : Handle}
    (has : realm.Has left.idOf? handle) : left.isOpen handle = right.isOpen handle := by
  rw [Gateway.isOpen, agrees.connection handle has, Gateway.isOpen]

/-- The slots of a pair of the realm show the same. -/
theorem Agrees.connectionOf (agrees : left.Agrees realm right) (sheltered : left.Sheltered realm)
    {identity : Identity} (own : realm.owns identity) (family : Family) (role : Role) :
    left.connectionOf family identity role = right.connectionOf family identity role := by
  rw [Gateway.connectionOf, Gateway.connectionOf, Pairs.connectionOf, Pairs.connectionOf,
    ← agrees.pair family identity own]
  cases found : (left.layer family).pairs.get? identity with
  | none => rfl
  | some pair =>
      have admitted := sheltered.pair family identity pair own found role
      rw [Option.bind_some, Option.bind_some, Pair.live, Pair.live]
      cases held : pair.slot role with
      | none => rfl
      | some party =>
          rw [Option.filter_some, Option.filter_some, agrees.isOpen (admitted party held).has]

theorem Sheltered.admits (sheltered : left.Sheltered realm) {identity : Identity}
    (own : realm.owns identity) {family : Family} {role : Role} {party : Party}
    (shown : left.connectionOf family identity role = some party) :
    realm.Admits left.idOf? party := by
  rw [Gateway.connectionOf, Pairs.connectionOf, Option.bind_eq_some_iff] at shown
  obtain ⟨pair, found, live⟩ := shown
  exact sheltered.pair family identity pair own found role party
    (Option.eq_some_of_filter_eq_some live)

end Lookups

/-! ### Hooks -/

theorem confined_dropKeys {identity : Identity} (own : realm.owns identity) :
    Confined realm roster fun gateway => ((), gateway.dropKeys identity) := by
  refine .writing [.active identity none, .staging identity none, .retired identity none] ?_
    fun gateway => ?_
  · simpa [Write.Within] using own
  · rw [dropKeys, StagedKeys.remove_snd]
    rfl

theorem modifyLayer_congr {gateway : Gateway} {family : Family} {one two : Layer → Layer}
    (same : one (gateway.layer family) = two (gateway.layer family)) :
    gateway.modifyLayer family one = gateway.modifyLayer family two := by
  cases family with
  | socket => exact congrArg (fun socket => { gateway with socket }) same
  | webSocket => exact congrArg (fun webSocket => { gateway with webSocket }) same

theorem modifyLayer_of_same {gateway : Gateway} {family : Family} {change : Layer → Layer}
    (same : change (gateway.layer family) = gateway.layer family) :
    gateway.modifyLayer family change = gateway := by
  cases family with
  | socket => exact congrArg (fun socket => { gateway with socket }) same
  | webSocket => exact congrArg (fun webSocket => { gateway with webSocket }) same

theorem runHook_vacate_eq {gateway : Gateway} {family : Family} {identity : Identity} {pair : Pair}
    (found : (gateway.layer family).pairs.get? identity = some pair) (role : Role)
    (connection : Identity) :
    gateway.runHook (.vacate family identity role connection) =
      gateway.record [.pair family identity (pair.vacated gateway.isOpen role connection)] := by
  rw [runHook, record, List.foldl_cons, List.foldl_nil, write]
  apply modifyLayer_congr
  rw [Pairs.vacate_of_get? found]

theorem runHook_vacate_of_absent {gateway : Gateway} {family : Family} {identity : Identity}
    (absent : (gateway.layer family).pairs.get? identity = none) (role : Role)
    (connection : Identity) :
    gateway.runHook (.vacate family identity role connection) = gateway := by
  rw [runHook]
  apply modifyLayer_of_same
  rw [Pairs.vacate, absent]

/-- A slot of the realm empties by a look at connections of the realm. -/
theorem confined_vacate {family : Family} {identity : Identity} (own : realm.owns identity)
    (role : Role) (connection : Identity) :
    Confined realm roster fun gateway =>
      ((), gateway.runHook (.vacate family identity role connection)) := by
  intro left right listed sheltered agrees
  refine ⟨rfl, ?_⟩
  have same := agrees.pair family identity own
  cases found : (left.layer family).pairs.get? identity with
  | none =>
      rw [found] at same
      exact ⟨[], List.forall_mem_nil _, runHook_vacate_of_absent found role connection,
        runHook_vacate_of_absent same.symm role connection⟩
  | some pair =>
      rw [found] at same
      have admitted := sheltered.pair family identity pair own found
      have alike : pair.vacated left.isOpen role connection =
          pair.vacated right.isOpen role connection :=
        Pair.vacated_congr role connection fun side party held =>
          agrees.isOpen (admitted side party held).has
      refine ⟨[.pair family identity (pair.vacated left.isOpen role connection)], ?_,
        runHook_vacate_eq found role connection, ?_⟩
      · refine List.forall_mem_singleton.2 ⟨own, fun after left_over side party held => ?_⟩
        rw [← listed]
        exact admitted side party (Pair.slot_of_vacated left_over held)
      · rw [alike]
        exact runHook_vacate_eq same.symm role connection

theorem confined_runHook {hook : Hook} (within : hook.Within realm) :
    Confined realm roster fun gateway => ((), gateway.runHook hook) := by
  cases hook with
  | dropKeys identity => exact confined_dropKeys within
  | vacate family identity role connection => exact confined_vacate within role connection
  | forget family connection => exact False.elim within

theorem confined_runHooks {hooks : List Hook} (within : ∀ hook ∈ hooks, hook.Within realm) :
    Confined realm roster fun gateway => ((), gateway.runHooks hooks) := by
  induction hooks with
  | nil => exact .reading fun _ _ _ _ _ => rfl
  | cons hook hooks induction =>
      obtain ⟨first, others⟩ := List.forall_mem_cons.1 within
      exact (confined_runHook first).bind fun _ => induction others

/-! ### Connections -/

theorem confined_settle {handle : Handle} {turned : Connection Hook} {due : List Hook}
    (listed : roster handle = some turned.id) (own : realm.owns turned.id)
    (inside : turned.Within realm) (within : ∀ hook ∈ due, hook.Within realm) :
    Confined realm roster fun gateway => ((), gateway.settle handle turned due) := by
  have replaced : Confined realm roster fun gateway =>
      ((), gateway.record [.connection handle turned]) :=
    .writing [.connection handle turned] (List.forall_mem_singleton.2 ⟨listed, own, inside⟩)
      fun _ => rfl
  exact replaced.bind fun _ => confined_runHooks within

/-- An operation on a connection of the realm that registers nothing outside is confined. -/
theorem confined_turn {handle : Handle} {step : Gateway → α × Gateway}
    {turned : Connection Hook → Connection Hook} {due : Connection Hook → List Hook}
    (has : realm.Has roster handle) (missing : α) (answer : Connection Hook → α)
    (absent : ∀ gateway : Gateway, gateway.connections.get? handle = none →
      step gateway = (missing, gateway))
    (present : ∀ (gateway : Gateway) connection, gateway.connections.get? handle = some connection →
      step gateway = (answer connection, gateway.settle handle (turned connection) (due connection)))
    (within : ∀ connection : Connection Hook, realm.owns connection.id → connection.Within realm →
      (turned connection).id = connection.id ∧ (turned connection).Within realm ∧
        ∀ hook ∈ due connection, hook.Within realm) :
    Confined realm roster step := by
  intro left right listed sheltered agrees
  have same := agrees.connection handle (listed ▸ has)
  cases found : left.connections.get? handle with
  | none =>
      rw [absent left found, absent right (same ▸ found)]
      exact ⟨rfl, [], List.forall_mem_nil _, rfl, rfl⟩
  | some connection =>
      obtain ⟨id, named, own⟩ := has
      have known : left.idOf? handle = some connection.id := by
        rw [idOf?, found, Option.map_some]
      rw [listed, named, Option.some.injEq] at known
      subst known
      obtain ⟨same_id, inside, later⟩ :=
        within connection own (sheltered.connection handle connection found own)
      obtain ⟨-, writes⟩ := confined_settle (same_id ▸ named) (same_id ▸ own) inside later
        left right listed sheltered agrees
      rw [present left connection found, present right connection (same ▸ found)]
      exact ⟨rfl, writes⟩

theorem confined_close {handle : Handle} (has : realm.Has roster handle) :
    Confined realm roster fun gateway => ((), gateway.close handle) := by
  refine confined_turn has () (fun _ => ()) (fun gateway absent => by simp only [close, absent])
    (fun gateway connection found => ?_) fun connection _ inside =>
      connection.turns_close.within inside
  simp only [close_eq gateway found]

theorem confined_send {handle : Handle} (has : realm.Has roster handle) (payload : Bytes) :
    Confined realm roster fun gateway => gateway.send handle payload := by
  refine confined_turn has false (fun connection => (connection.send payload).1.isOk)
    (fun gateway absent => by simp only [send, absent])
    (fun gateway connection found => ?_) fun connection _ inside =>
      (connection.turns_send payload).within inside
  simp only [send, found]

theorem confined_onClose {handle : Handle} (has : realm.Has roster handle) {hook : Hook}
    (within : hook.Within realm) :
    Confined realm roster fun gateway => ((), gateway.onClose handle hook) := by
  refine confined_turn has () (fun _ => ()) (fun gateway absent => by simp only [onClose, absent])
    (fun gateway connection found => ?_) fun connection _ inside =>
      inside.onClose within
  simp only [onClose_eq gateway hook found]

/-! ### Keys -/

theorem record_expire {gateway : Gateway} {identity : Identity} {staging : Staging}
    (found : gateway.staged.entries.get? identity = some staging) :
    { gateway with staged := gateway.staged.expire identity staging.generation } =
      gateway.record
        [.staging identity none, .retired identity (some staging.held), .lapse] := by
  simp only [StagedKeys.expire, found, if_true]
  rfl

theorem within_expire {identity : Identity} (own : realm.owns identity) (staging : Staging) :
    ∀ write ∈ [Write.staging identity none, .retired identity (some staging.held), .lapse],
      write.Within realm roster := by
  simpa [Write.Within] using own

/-- Looking for a staged key retires no key but an overdue one of its identity. -/
theorem confined_stagedKey {identity : Identity} (own : realm.owns identity) :
    Confined realm roster fun gateway => gateway.stagedKey identity := by
  intro left right listed sheltered agrees
  have same := agrees.staging identity own
  simp only [stagedKey, onStaged_fst, onStaged_snd, StagedKeys.get]
  cases found : left.staged.entries.get? identity with
  | none =>
      rw [found] at same
      rw [← same]
      exact ⟨rfl, [], List.forall_mem_nil _, rfl, rfl⟩
  | some staging =>
      have live : staging.isLive right.now = staging.isLive left.now := by rw [agrees.now]
      rw [found] at same
      rw [← same]
      dsimp only
      rw [live]
      split
      · exact ⟨rfl, [], List.forall_mem_nil _, rfl, rfl⟩
      · exact ⟨rfl, _, within_expire own staging, record_expire found, record_expire same.symm⟩

/-- A timer of the realm retires no key but the one that it was set for. -/
theorem confined_ring {identity : Identity} (own : realm.owns identity) (generation : Nat) :
    Confined realm roster fun gateway => ((), gateway.undergo (.rings identity generation)) := by
  intro left right listed sheltered agrees
  refine ⟨rfl, ?_⟩
  have same := agrees.staging identity own
  simp only [undergo, StagedKeys.ring]
  cases found : left.staged.entries.get? identity with
  | none =>
      rw [found] at same
      rw [← same]
      exact ⟨[], List.forall_mem_nil _, rfl, rfl⟩
  | some staging =>
      have live : staging.isLive right.now = staging.isLive left.now := by rw [agrees.now]
      rw [found] at same
      rw [← same]
      dsimp only
      rw [live]
      split
      · next due =>
          rw [Bool.and_eq_true, decide_eq_true_eq] at due
          rw [← due.1]
          exact ⟨_, within_expire own staging, record_expire found, record_expire same.symm⟩
      · exact ⟨[], List.forall_mem_nil _, rfl, rfl⟩

theorem confined_stage {identity : Identity} (own : realm.owns identity) (draws : realm.draws)
    (key : Key) : Confined realm roster fun gateway => gateway.perform (.stage identity key) := by
  intro left right listed sheltered agrees
  have same := agrees.staging identity own
  refine ⟨rfl, [.staging identity (some ⟨⟨key, left.staged.generation⟩,
      left.now + left.staged.expiry, left.staged.generation⟩),
    .retired identity ((left.staged.entries.get? identity).map Staging.held), .generation],
    ?_, ?_, ?_⟩
  · simp [Write.Within, own, draws]
  · simp only [perform, StagedKeys.put, StagedKeys.putHeld]
    cases left.staged.entries.get? identity <;> rfl
  · rw [same, agrees.now, agrees.expiry, agrees.generation draws]
    simp only [perform, StagedKeys.put, StagedKeys.putHeld]
    cases right.staged.entries.get? identity <;> rfl

theorem confined_takeStaged {identity : Identity} (own : realm.owns identity)
    (expected : StagedKey) :
    Confined realm roster fun gateway => gateway.perform (.takeStaged identity expected) := by
  intro left right listed sheltered agrees
  have same := agrees.staging identity own
  simp only [perform, onStaged_fst, onStaged_snd, StagedKeys.takeIf, ← same]
  cases left.staged.entries.get? identity with
  | none => exact ⟨rfl, [], List.forall_mem_nil _, rfl, rfl⟩
  | some staging =>
      have live : staging.isLive right.now = staging.isLive left.now := by rw [agrees.now]
      dsimp only
      rw [live]
      split
      · refine ⟨rfl, [.staging identity none, .retired identity none], ?_, rfl, rfl⟩
        simpa [Write.Within] using own
      · exact ⟨rfl, [], List.forall_mem_nil _, rfl, rfl⟩

theorem confined_sealFor {identity : Identity} (own : realm.owns identity) (family : Family)
    (payload : Bytes) :
    Confined realm roster fun gateway => gateway.sealFor family identity payload := by
  intro left right listed sheltered agrees
  simp only [sealFor, ← agrees.active identity own]
  cases left.active.get? identity with
  | none => exact ⟨rfl, [], List.forall_mem_nil _, rfl, rfl⟩
  | some key =>
      exact ⟨rfl, [.count family .encrypted], List.forall_mem_singleton.2 trivial, rfl, rfl⟩

theorem confined_generate (draws : realm.draws) (policy : SizePolicy) (size : Nat) :
    Confined realm roster fun gateway => gateway.perform (.generate policy size) := by
  intro left right listed sheltered agrees
  simp only [perform, ← agrees.entropy draws]
  cases Key.generate policy size left.entropy with
  | error error => exact ⟨rfl, [], List.forall_mem_nil _, rfl, rfl⟩
  | ok drawn => exact ⟨rfl, [.entropy drawn.2], List.forall_mem_singleton.2 draws, rfl, rfl⟩

/-! ### Pairs -/

theorem Sheltered.within_setSlot {gateway : Gateway} (sheltered : gateway.Sheltered realm)
    {identity : Identity} (own : realm.owns identity) (family : Family) (role : Role)
    {party : Party} (admits : realm.Admits gateway.idOf? party) :
    ((((gateway.layer family).pairs.get? identity).getD {}).setSlot role (some party)).Within realm
      gateway.idOf? := by
  intro side other held
  rw [Pair.slot_setSlot] at held
  split at held
  · obtain rfl := Option.some.inj held
    exact admits
  · cases found : (gateway.layer family).pairs.get? identity with
    | none =>
        rw [found] at held
        cases side <;> cases held
    | some pair =>
        rw [found] at held
        exact sheltered.pair family identity pair own found side other held

theorem confined_place {family : Family} {identity : Identity} (own : realm.owns identity)
    (role : Role) {party : Party} (admits : realm.Admits roster party) :
    Confined realm roster fun gateway => gateway.place family identity role party := by
  intro left right listed sheltered agrees
  have same := agrees.pair family identity own
  refine ⟨?_, [.pair family identity (some
    ((((left.layer family).pairs.get? identity).getD {}).setSlot role (some party)))], ?_, ?_, ?_⟩
  · simp only [place, Pairs.holds, same]
  · refine List.forall_mem_singleton.2 ⟨own, fun pair equal => ?_⟩
    obtain rfl := Option.some.inj equal
    subst listed
    exact sheltered.within_setSlot own family role admits
  · cases family <;> rfl
  · rw [same]
    cases family <;> rfl

theorem Agrees.hostMatches {left right : Gateway} (agrees : left.Agrees realm right)
    (sheltered : left.Sheltered realm) {identity : Identity} (own : realm.owns identity)
    (family : Family) (host : IpAddress) :
    left.hostMatches family identity host = right.hostMatches family identity host := by
  rw [Gateway.hostMatches, Gateway.hostMatches, ← agrees.connectionOf sheltered own family .clear]
  cases shown : left.connectionOf family identity .clear with
  | none => rfl
  | some clear =>
      have has := (sheltered.admits own shown).has
      rw [Option.bind_some, Option.bind_some, remoteOf?, agrees.connection _ has, remoteOf?]

end Confined

end Gateway

/-! ### Calls -/

/-- A call is about identities and connections of a realm. Calls to directories never are. -/
def Call.Within (realm : Realm) (roster : Handle → Option Identity) : Call → Prop
  | .isOpen handle | .isSecure handle | .send handle _ | .close handle => realm.Has roster handle
  | .onClose handle hook => realm.Has roster handle ∧ hook.Within realm
  | .encode _ _ | .count _ _ => True
  | .hostMatches _ identity handle => realm.owns identity ∧ realm.Has roster handle
  | .place _ identity _ party => realm.owns identity ∧ realm.Admits roster party
  | .generate _ _ => realm.draws
  | .stage identity _ => realm.owns identity ∧ realm.draws
  | .clearOf _ identity | .staged identity | .retired identity | .active identity
  | .unstage identity | .takeStaged identity _ | .activate identity _ | .deactivate identity
  | .sealFor _ identity _ => realm.owns identity
  | .dress _ _ _ | .enter _ _ _ | .lookup _ _ | .join _ _ _ | .watch _ _ | .forget _ _
  | .audience _ _ _ => False

namespace Gateway

variable {realm : Realm} {roster : Handle → Option Identity}

/-- A call within a realm is confined to it. -/
theorem confined_perform {request : Call} (within : request.Within realm roster) :
    Confined realm roster fun gateway => gateway.perform request := by
  cases request with
  | isOpen handle =>
      exact .reading fun left right listed _ agrees => agrees.isOpen (listed ▸ within)
  | isSecure handle =>
      refine .reading fun left right listed _ agrees => ?_
      rw [isSecure, agrees.connection handle (listed ▸ within), isSecure]
  | send handle payload => exact confined_send within payload
  | close handle => exact confined_close within
  | onClose handle hook => exact confined_onClose within.1 within.2
  | encode codec message => exact .reading fun _ _ _ _ _ => rfl
  | count family event =>
      exact .writing [.count family event] (List.forall_mem_singleton.2 trivial) fun _ => rfl
  | clearOf family identity =>
      exact .reading fun left right _ sheltered agrees =>
        agrees.connectionOf sheltered within family .clear
  | hostMatches family identity handle =>
      refine .reading fun left right listed sheltered agrees => ?_
      rw [remoteOf?, agrees.connection handle (listed ▸ within.2), ← remoteOf?]
      exact congrArg (Option.any · (right.remoteOf? handle))
        (funext (agrees.hostMatches sheltered within.1 family))
  | place family identity role party => exact confined_place within.1 role within.2
  | generate policy size => exact confined_generate within policy size
  | staged identity => exact confined_stagedKey within
  | retired identity =>
      exact .reading fun left right _ _ agrees =>
        congrArg (Option.map StagedKey.key) (agrees.retired identity within)
  | active identity => exact .reading fun left right _ _ agrees => agrees.active identity within
  | stage identity key => exact confined_stage within.1 within.2 key
  | unstage identity =>
      refine .writing [.staging identity none, .retired identity none] ?_ fun gateway => ?_
      · simpa [Write.Within] using (show realm.owns identity from within)
      · rw [StagedKeys.remove_snd]
        rfl
  | takeStaged identity expected => exact confined_takeStaged within expected
  | activate identity key =>
      exact .writing [.active identity (some key)] (List.forall_mem_singleton.2 within) fun _ => rfl
  | deactivate identity =>
      intro left right _ _ agrees
      exact ⟨agrees.active identity within, [.active identity none],
        List.forall_mem_singleton.2 within, rfl, rfl⟩
  | sealFor family identity payload => exact confined_sealFor within family payload
  | dress | enter | lookup | join | watch | forget | audience => exact False.elim within

end Gateway

/-! ### Scripts -/

namespace Script

variable {α β : Type} {realm : Realm} {roster : Handle → Option Identity}

/-- An answer names no connection outside a realm. -/
def Answers (realm : Realm) (roster : Handle → Option Identity) :
    (request : Call) → request.Reply → Prop
  | .clearOf _ _, reply => ∀ clear, reply = some clear → realm.Admits roster clear
  | _, _ => True

/-- Every call of a script is within a realm, as long as no answer leads out of it. -/
def StaysIn (realm : Realm) (roster : Handle → Option Identity) : Script α → Prop
  | done _ => True
  | call request next => request.Within realm roster ∧
      ∀ reply, Answers realm roster request reply → (next reply).StaysIn realm roster

namespace StaysIn

theorem of_only {script : Script α} (only : script.Only (Call.Within realm roster)) :
    script.StaysIn realm roster := by
  induction script with
  | done value => trivial
  | call request next induction =>
      exact ⟨only.1, fun reply _ => induction reply (only.2 reply)⟩

theorem bind {script : Script α} {next : α → Script β} (first : script.StaysIn realm roster)
    (rest : ∀ value, (next value).StaysIn realm roster) :
    (script >>= next).StaysIn realm roster := by
  induction script with
  | done value => exact rest value
  | call request following induction =>
      exact ⟨first.1, fun reply answers => induction reply (first.2 reply answers)⟩

theorem ask {request : Call} (within : request.Within realm roster) :
    (Script.ask request).StaysIn realm roster :=
  ⟨within, fun _ _ => trivial⟩

theorem clearOf {family : Family} {identity : Identity} (own : realm.owns identity)
    {next : Option Party → Script α}
    (rest : ∀ found : Option Party, (∀ clear, found = some clear → realm.Admits roster clear) →
      (next found).StaysIn realm roster) :
    (Script.ask (.clearOf family identity) >>= next).StaysIn realm roster :=
  ⟨own, rest⟩

end StaysIn

end Script

namespace Gateway

variable {realm : Realm} {roster : Handle → Option Identity}

theorem Sheltered.answers {gateway : Gateway} (sheltered : gateway.Sheltered realm)
    (listed : gateway.idOf? = roster) {request : Call} (within : request.Within realm roster) :
    Script.Answers realm roster request (gateway.perform request).1 := by
  subst listed
  cases request with
  | clearOf family identity => exact fun clear shown => sheltered.admits within shown
  | _ => trivial

theorem confined_run {α : Type} {script : Script α} (stays : script.StaysIn realm roster) :
    Confined realm roster script.run := by
  induction script with
  | done value => exact .reading fun _ _ _ _ _ => rfl
  | call request next induction =>
      exact (confined_perform stays.1).bind_of (Script.Answers realm roster request)
        (fun _ listed sheltered => sheltered.answers listed stays.1)
        fun reply answers => induction reply (stays.2 reply answers)

/-! ### Two realms -/

theorem Confined.commute {α β : Type} {one : Gateway → α × Gateway} {two : Gateway → β × Gateway}
    {gateway : Gateway} (first : Confined realm gateway.idOf? one)
    (second : Confined realm.rest gateway.idOf? two) (inside : gateway.Sheltered realm)
    (outside : gateway.Sheltered realm.rest) :
    (one (two gateway).2).1 = (one gateway).1 ∧ (two (one gateway).2).1 = (two gateway).1 ∧
      (two (one gateway).2).2.Same (one (two gateway).2).2 := by
  -- each step by itself, to know what the other one meets
  obtain ⟨-, before, before_within, one_eq, -⟩ :=
    first gateway gateway rfl inside (.refl gateway)
  obtain ⟨-, ahead, ahead_within, two_eq, -⟩ :=
    second gateway gateway rfl outside (.refl gateway)
  have after_two : gateway.Agrees realm (two gateway).2 := two_eq ▸ agrees_record_rest ahead_within
  have after_one : gateway.Agrees realm.rest (one gateway).2 := one_eq ▸ agrees_record before_within
  obtain ⟨same_one, ours, ours_within, ours_eq, ours_later⟩ :=
    first gateway (two gateway).2 rfl inside after_two
  obtain ⟨same_two, theirs, theirs_within, theirs_eq, theirs_later⟩ :=
    second gateway (one gateway).2 rfl outside after_one
  refine ⟨same_one.symm, same_two.symm, ?_⟩
  rw [theirs_later, ours_later, ours_eq, theirs_eq]
  exact same_record ours_within theirs_within

end Gateway

end PadRelay
