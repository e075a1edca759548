import PadRelay.Proofs.Gateway.Channel
import PadRelay.Proofs.Gateway.Surroundings
import PadRelay.Proofs.Gateway.Upkeep

/-!
# Who stands in the pairs

Whoever enters a slot of a pair leaves it by a hook of the close. Hooks outlive their purpose: one
that is left from an earlier stay runs against whatever pair there is by then. It finds another
connection in the slot and takes out only what has closed. So at any time those in the slots are
connections whose own hook still waits or is about to run, and a close empties the slots of its
connection and no others.
-/

namespace PadRelay.Gateway

variable {gateway before after : Gateway} {family : Family} {due : List Hook}
  {identity : Identity} {role : Role} {party : Party}

/-- A connection may stand in a slot. -/
structure Tenant (gateway : Gateway) (due : List Hook) (family : Family) (identity : Identity)
    (role : Role) (party : Party) : Prop where
  knows : gateway.Knows party
  promised : gateway.Promises due (.vacate family identity role party.id)
  secure : role = .encrypted → gateway.isSecure party.handle = true

/-- The slots of a family hold nobody but tenants, and no pair is stored without one. -/
structure Tenanted (gateway : Gateway) (family : Family) (due : List Hook) : Prop where
  tenant : ∀ identity role party, gateway.slot family identity role = some party →
    gateway.Tenant due family identity role party
  occupied : (gateway.layer family).pairs.Occupied
  own : gateway.OwnHooks

theorem isSecure_congr (same : after.connections = before.connections) (handle : Handle) :
    after.isSecure handle = before.isSecure handle := by
  simp [isSecure, same]

theorem Tenant.congr (tenant : before.Tenant due family identity role party)
    (same : after.connections = before.connections) :
    after.Tenant due family identity role party where
  knows := (knows_congr same party).2 tenant.knows
  promised := (promises_congr same due _).2 tenant.promised
  secure side := (isSecure_congr same party.handle).trans (tenant.secure side)

theorem tenanted_fresh (entropy : Entropy) (expiry : Nat) (family : Family) :
    (fresh entropy expiry).Tenanted family [] where
  tenant _ _ _ found := by cases family <;> cases found
  occupied := by cases family <;> exact Pairs.occupied_empty
  own _ _ found := by cases found

theorem Tenanted.of_tables {later : List Hook} (tenanted : before.Tenanted family due)
    (same : after.connections = before.connections)
    (tenant : ∀ identity role party, after.slot family identity role = some party →
      before.Tenant later family identity role party)
    (occupied : (after.layer family).pairs.Occupied) : after.Tenanted family later where
  tenant identity role party found := (tenant identity role party found).congr same
  occupied := occupied
  own handle connection found := tenanted.own handle connection (same ▸ found)

theorem Tenanted.of_eq (tenanted : before.Tenanted family due)
    (same : after.connections = before.connections)
    (pairs : (after.layer family).pairs = (before.layer family).pairs) :
    after.Tenanted family due := by
  refine tenanted.of_tables same (fun identity role party found => ?_) (pairs ▸ tenanted.occupied)
  rw [slot, pairs] at found
  exact tenanted.tenant identity role party found

theorem slot_place (gateway : Gateway) (family : Family) (identity other : Identity)
    (role side : Role) (party : Party) :
    (gateway.place family identity role party).2.slot family other side =
      if other = identity ∧ side = role then some party else gateway.slot family other side := by
  simp only [Gateway.place, slot_modifyLayer, if_true, Pairs.slot_place]
  rfl

theorem Tenanted.place (tenanted : gateway.Tenanted family due)
    (tenant : gateway.Tenant due family identity role party) :
    (gateway.place family identity role party).2.Tenanted family due := by
  refine tenanted.of_tables (by simp [Gateway.place]) ?_ ?_
  · intro subject side found slotted
    rcases slot_of_place slotted with ⟨-, rfl, rfl, rfl⟩ | stood
    · exact tenant
    · exact tenanted.tenant subject side found stood
  · simp only [Gateway.place, layer_modifyLayer, if_true]
    exact tenanted.occupied.place identity role party

theorem Tenanted.unpair (tenanted : gateway.Tenanted family due) (identity : Identity) :
    (gateway.unpair family identity).2.Tenanted family due := by
  refine tenanted.of_tables (by simp [Gateway.unpair]) ?_ ?_
  · intro subject side found slotted
    simp only [Gateway.unpair, slot_modifyLayer, if_true, Pairs.slot, Table.get?_erase] at slotted
    split at slotted
    · cases slotted
    · exact tenanted.tenant subject side found slotted
  · simp only [Gateway.unpair, layer_modifyLayer, if_true]
    exact tenanted.occupied.erase identity

theorem Tenanted.clear (tenanted : gateway.Tenanted family due) :
    (gateway.modifyLayer family fun layer => { layer with pairs := ∅ }).Tenanted family due := by
  refine tenanted.of_tables (connections_modifyLayer _ _ _) ?_ ?_
  · intro subject side found slotted
    simp only [slot_modifyLayer, if_true] at slotted
    cases slotted
  · simp only [layer_modifyLayer, if_true]
    exact Pairs.occupied_empty

theorem occupied_runHook (occupied : (gateway.layer family).pairs.Occupied) (hook : Hook) :
    ((gateway.runHook hook).layer family).pairs.Occupied := by
  cases hook with
  | dropKeys subject => cases family <;> exact occupied
  | forget other connection =>
      simp only [runHook, onDirectory_snd, layer_modifyLayer]
      split <;> exact occupied
  | vacate other subject side connection =>
      simp only [runHook, layer_modifyLayer]
      split
      · exact occupied.vacate subject side _ connection
      · exact occupied

theorem Tenanted.runHook {hook : Hook} (tenanted : gateway.Tenanted family (hook :: due)) :
    (gateway.runHook hook).Tenanted family due := by
  refine tenanted.of_tables (connections_runHook gateway hook) ?_
    (occupied_runHook tenanted.occupied hook)
  intro identity role party found
  obtain ⟨stood, different⟩ := slot_of_runHook found
  obtain ⟨knows, promised, secure⟩ := tenanted.tenant identity role party stood
  exact ⟨knows, promised.of_cons different.symm, secure⟩

theorem Tenanted.runHooks (tenanted : gateway.Tenanted family due) :
    (gateway.runHooks due).Tenanted family [] := by
  induction due generalizing gateway with
  | nil => exact tenanted
  | cons hook due induction => exact induction tenanted.runHook

theorem slot_runHook_vacate (gateway : Gateway) (family : Family) (identity other : Identity)
    (role side : Role) (id : Identity) :
    (gateway.runHook (.vacate family identity role id)).slot family other side =
      if other = identity then
        (if side = role ∧ (gateway.layer family).pairs.holds identity role id then none
          else gateway.slot family other side).filter fun party => gateway.isOpen party.handle
      else gateway.slot family other side := by
  simp only [runHook, slot_modifyLayer, if_true, Pairs.slot_vacate]
  rfl

/-- Hooks of others leave an open connection where it stands. -/
theorem slot_runHook_of_isOpen {hook : Hook} (isOpen : gateway.isOpen party.handle = true)
    (foreign : hook.owner ≠ party.id)
    (found : gateway.slot family identity role = some party) :
    (gateway.runHook hook).slot family identity role = some party := by
  cases hook with
  | dropKeys subject => cases family <;> exact found
  | forget other connection =>
      simp only [runHook, onDirectory_snd, slot_modifyLayer]
      split <;> exact found
  | vacate other subject side connection =>
      by_cases own : family = other
      · subst own
        rw [slot_runHook_vacate]
        split
        · next own =>
            subst own
            have spared : ¬ (role = side ∧
                (gateway.layer family).pairs.holds identity side connection = true) := by
              rintro ⟨rfl, holds⟩
              rw [Pairs.holds_eq, ← slot, found, Option.any_some, decide_eq_true_eq] at holds
              exact foreign holds.symm
            rw [if_neg spared, found, Option.filter_some, if_pos isOpen]
        · exact found
      · rw [runHook, slot_modifyLayer, if_neg own]
        exact found

theorem slot_runHooks_of_isOpen {hooks : List Hook} (isOpen : gateway.isOpen party.handle = true)
    (foreign : ∀ hook ∈ hooks, hook.owner ≠ party.id)
    (found : gateway.slot family identity role = some party) :
    (gateway.runHooks hooks).slot family identity role = some party := by
  induction hooks generalizing gateway with
  | nil => exact found
  | cons hook hooks induction =>
      rw [List.forall_mem_cons] at foreign
      refine induction ?_ foreign.2 (slot_runHook_of_isOpen isOpen foreign.1 found)
      rwa [isOpen_congr (connections_runHook gateway hook)]

theorem slot_onClose_vacate_of_closed {handle : Handle} {connection : Connection Hook}
    (found : gateway.connections.get? handle = some connection)
    (closed : connection.isOpen = false) {other : Identity} {side : Role} {id : Identity} :
    (gateway.onClose handle (.vacate family identity role id)).slot family other side =
      if other = identity then
        (if side = role ∧ (gateway.layer family).pairs.holds identity role id then none
          else gateway.slot family other side).filter fun party => gateway.isOpen party.handle
      else gateway.slot family other side := by
  rw [onClose_eq gateway _ found, Connection.onClose_of_closed closed]
  have same : { gateway with
      connections := gateway.connections.insert handle connection }.isOpen = gateway.isOpen := by
    funext subject
    simp only [isOpen, Table.get?_insert]
    split
    · next equal => rw [equal, found]
    · rfl
  refine (slot_runHook_vacate _ family identity other role side id).trans ?_
  rw [same]
  rfl

section Connections

variable {handle : Handle} {connection turned : Connection Hook} {later : List Hook}

theorem isSecure_replace (found : gateway.connections.get? handle = some connection)
    (same : turned.secure = connection.secure) (other : Handle) :
    { gateway with connections := gateway.connections.insert handle turned }.isSecure other =
      gateway.isSecure other := by
  simp only [isSecure, Table.get?_insert]
  split
  · next equal => rw [equal, found, Option.any_some, Option.any_some, same]
  · rfl

/-- A connection changes and loses no hook, and the hooks that are due run. -/
theorem Tenanted.settle (tenanted : gateway.Tenanted family due)
    (found : gateway.connections.get? handle = some connection)
    (carries : Carries connection turned due later) (same : turned.secure = connection.secure) :
    (gateway.settle handle turned later).Tenanted family [] := by
  have replaced : { gateway with
      connections := gateway.connections.insert handle turned }.Tenanted family later := by
    refine ⟨fun identity role party stands => ?_, tenanted.occupied,
      tenanted.own.replace found carries⟩
    obtain ⟨knows, promised, secure⟩ := tenanted.tenant identity role party stands
    exact ⟨knows_replace found carries.id knows, promised.replace found carries,
      fun side => (isSecure_replace found same party.handle).trans (secure side)⟩
  exact replaced.runHooks

theorem Tenanted.close (tenanted : gateway.Tenanted family []) (handle : Handle) :
    (gateway.close handle).Tenanted family [] := by
  cases found : gateway.connections.get? handle with
  | none => simpa only [Gateway.close, found] using tenanted
  | some connection =>
      rw [close_eq gateway found]
      exact tenanted.settle found (.of_turns connection.turns_close) rfl

theorem Tenanted.onClose {hook : Hook} (tenanted : gateway.Tenanted family [hook])
    (known : gateway.Knows party) (own : hook.owner = party.id) :
    (gateway.onClose party.handle hook).Tenanted family [] := by
  obtain ⟨connection, found, id⟩ := known.exists_connection
  rw [onClose_eq gateway hook found]
  exact tenanted.settle found (.onClose (own.trans id.symm)) rfl

/-- A connection enters a slot, and the hook that takes it out is registered. -/
theorem Tenanted.occupy (tenanted : gateway.Tenanted family []) (known : gateway.Knows party)
    (secure : role = .encrypted → gateway.isSecure party.handle = true) (identity : Identity) :
    ((Script.occupy family identity role party).run gateway).2.Tenanted family [] := by
  rcases occupy_cases gateway family identity role party with ⟨same, held⟩ | ⟨same, -⟩
  -- The slot holds the connection already, and so its hook is promised.
  · rw [same]
    rw [Pairs.holds_eq, Option.any_eq_true] at held
    obtain ⟨holder, stands, equal⟩ := held
    have promised := (tenanted.tenant identity role holder stands).promised
    rw [of_decide_eq_true equal] at promised
    exact tenanted.place ⟨known, promised, secure⟩
  · rw [same]
    have owing : gateway.Tenanted family [.vacate family identity role party.id] := by
      refine tenanted.of_tables rfl (fun subject side found stands => ?_) tenanted.occupied
      obtain ⟨knows, promised, secure⟩ := tenanted.tenant subject side found stands
      exact ⟨knows, promised.imp_left (List.mem_cons_of_mem _), secure⟩
    have placed := owing.place ⟨known, .inl List.mem_cons_self, secure⟩
    have still : (gateway.place family identity role party).2.Knows party :=
      (knows_congr (by simp [Gateway.place]) party).2 known
    exact placed.onClose still rfl

/-- The roster changes, but whoever is on it keeps everything except the outlet. -/
theorem Tenanted.of_roster (tenanted : gateway.Tenanted family due)
    {connections : Table Handle (Connection Hook)}
    (kept : ∀ handle old, gateway.connections.get? handle = some old →
      ∃ new, connections.get? handle = some new ∧ new.id = old.id ∧ new.life = old.life ∧
        new.secure = old.secure)
    (own : { gateway with connections }.OwnHooks) :
    { gateway with connections }.Tenanted family due := by
  refine ⟨fun identity role party stands => ?_, tenanted.occupied, own⟩
  obtain ⟨knows, promised, secure⟩ := tenanted.tenant identity role party stands
  obtain ⟨old, found, id⟩ := knows.exists_connection
  obtain ⟨new, is, same_id, -, same_secure⟩ := kept party.handle old found
  refine ⟨?_, ?_, fun side => ?_⟩
  · rw [Knows, idOf?, is, Option.map_some, same_id, id]
  · rcases promised with member | ⟨other, waiting, held, owner, isOpen, member⟩
    · exact .inl member
    · obtain ⟨next, there, next_id, life, -⟩ := kept other waiting held
      exact .inr ⟨other, next, there, next_id.trans owner, by rwa [Connection.isOpen, life],
        by rwa [life]⟩
  · have was := secure side
    rw [isSecure, found, Option.any_some] at was
    rw [isSecure, is, Option.any_some, same_secure, was]

theorem Tenanted.undergo {ids : List Identity} (tenanted : gateway.Tenanted family [])
    (lists : gateway.Lists ids) (occurrence : Occurrence) :
    (gateway.undergo occurrence).Tenanted family [] := by
  cases occurrence with
  | opens id secure remote outlet =>
      refine tenanted.of_roster (fun handle old found => ⟨old, ?_, rfl, rfl, rfl⟩)
        (tenanted.own.enroll rfl)
      exact get?_enroll_of_get? lists.absent _ found
  | outlet handle outlet =>
      refine tenanted.of_roster (fun other old found => ?_) (tenanted.own.outlet handle outlet)
      rcases gateway.outlet_cases handle other outlet with
        ⟨absent, -⟩ | ⟨held, new, was, is, same⟩
      · cases absent.symm.trans found
      · cases was.symm.trans found
        exact ⟨new, is, same⟩
  | closes handle => exact tenanted.close handle
  | passes duration => exact tenanted.of_eq rfl (by cases family <;> rfl)
  | rings identity generation => exact tenanted.of_eq rfl (by cases family <;> rfl)

end Connections

section Distinct

variable {ids : List Identity}

theorem Tenanted.isOpen_of_slot (tenanted : gateway.Tenanted family []) (lists : gateway.Lists ids)
    (distinct : ids.Nodup) (found : gateway.slot family identity role = some party) :
    gateway.isOpen party.handle = true := by
  obtain ⟨knows, promised, -⟩ := tenanted.tenant identity role party found
  rcases promised with due | ⟨handle, waits⟩
  · cases due
  · have same : handle = party.handle := lists.handle_eq distinct waits.idOf?_eq knows
    exact same ▸ waits.isOpen

theorem Tenanted.filter_isOpen_slot (tenanted : gateway.Tenanted family [])
    (lists : gateway.Lists ids) (distinct : ids.Nodup) (identity : Identity) (role : Role) :
    ((gateway.slot family identity role).filter fun party => gateway.isOpen party.handle) =
      gateway.slot family identity role := by
  cases found : gateway.slot family identity role with
  | none => rfl
  | some party =>
      rw [Option.filter_some, if_pos (tenanted.isOpen_of_slot lists distinct found)]

theorem Tenanted.connectionOf_eq_slot (tenanted : gateway.Tenanted family [])
    (lists : gateway.Lists ids) (distinct : ids.Nodup) (identity : Identity) (role : Role) :
    gateway.connectionOf family identity role = gateway.slot family identity role := by
  rw [connectionOf, Pairs.connectionOf_eq]
  exact tenanted.filter_isOpen_slot lists distinct identity role

/-- A close empties the slots of its connection, and no others. -/
theorem Tenanted.slot_close (tenanted : gateway.Tenanted family []) (lists : gateway.Lists ids)
    (distinct : ids.Nodup) (handle : Handle) (identity : Identity) (role : Role) :
    (gateway.close handle).slot family identity role =
      (gateway.slot family identity role).filter fun party => party.handle ≠ handle := by
  apply Option.ext
  intro party
  rw [Option.filter_eq_some_iff, decide_eq_true_eq]
  constructor
  · intro found
    have still_open := (tenanted.close handle).isOpen_of_slot
      (lists.keeps (.close gateway handle)) distinct found
    refine ⟨?_, fun equal => ?_⟩
    · cases held : gateway.connections.get? handle with
      | none => simpa only [Gateway.close, held] using found
      | some connection =>
          rw [close_eq gateway held] at found
          exact slot_of_settle found
    · rw [equal, isOpen_close] at still_open
      cases still_open
  · rintro ⟨found, different⟩
    cases held : gateway.connections.get? handle with
    | none => simpa only [Gateway.close, held] using found
    | some connection =>
        rw [close_eq gateway held]
        have isOpen := tenanted.isOpen_of_slot lists distinct found
        refine slot_runHooks_of_isOpen ?_ ?_ found
        · simpa [Gateway.isOpen, Table.get?_insert_of_ne _ _ different] using isOpen
        · intro hook member equal
          -- The hook would be of a connection with this identity, and there is only one.
          refine different (lists.handle_eq distinct
            (tenanted.tenant identity role party found).knows ?_)
          have waiting := connection.turns_close.waiting_of_due member
          rw [idOf?, held, Option.map_some, ← equal,
            tenanted.own handle connection held hook waiting]

/-- The close of a connection that no slot holds any more changes no pair. -/
theorem Tenanted.get?_close_of_absent (tenanted : gateway.Tenanted family [])
    (lists : gateway.Lists ids) (distinct : ids.Nodup) {handle : Handle}
    (absent : ∀ identity role party, gateway.slot family identity role = some party →
      party.handle ≠ handle) (identity : Identity) :
    ((gateway.close handle).layer family).pairs.get? identity =
      (gateway.layer family).pairs.get? identity := by
  refine (tenanted.close handle).occupied.get?_eq identity tenanted.occupied fun role => ?_
  have emptied := tenanted.slot_close lists distinct handle identity role
  cases found : gateway.slot family identity role with
  | none =>
      rw [found, Option.filter_none] at emptied
      exact emptied.trans found.symm
  | some party =>
      have different := absent identity role party found
      rw [found, Option.filter_some, if_pos (decide_eq_true different)] at emptied
      exact emptied.trans found.symm

/-- A closed connection that enters a slot is taken out at once, and nobody else is. -/
theorem Tenanted.slot_onClose_place (tenanted : gateway.Tenanted family [])
    (lists : gateway.Lists ids) (distinct : ids.Nodup) {connection : Connection Hook}
    (found : gateway.connections.get? party.handle = some connection)
    (closed : connection.isOpen = false) (identity other : Identity) (role side : Role) :
    ((gateway.place family identity role party).2.onClose party.handle
        (.vacate family identity role party.id)).slot family other side =
      if other = identity ∧ side = role then none else gateway.slot family other side := by
  have same : (gateway.place family identity role party).2.connections = gateway.connections := by
    simp [Gateway.place]
  have placed := slot_place gateway family identity other role side party
  rw [slot_onClose_vacate_of_closed (same ▸ found) closed]
  by_cases own : other = identity
  · subst own
    by_cases target : side = role
    · subst target
      have holds : ((gateway.place family other side party).2.layer family).pairs.holds other side
          party.id = true := by
        rw [Pairs.holds_eq, ← slot, slot_place]
        simp
      simp [holds]
    · simp only [target, and_false, if_false, false_and, if_true, isOpen_congr same] at placed ⊢
      rw [placed]
      exact tenanted.filter_isOpen_slot lists distinct other side
  · rw [if_neg own, placed]
    simp [own]

/-- A connection that is put into a slot stands there if it is open, and leaves the slot empty
otherwise. No other slot changes. -/
theorem Tenanted.slot_occupy (tenanted : gateway.Tenanted family []) (lists : gateway.Lists ids)
    (distinct : ids.Nodup) (known : gateway.Knows party) (identity other : Identity)
    (role side : Role) :
    ((Script.occupy family identity role party).run gateway).2.slot family other side =
      if other = identity ∧ side = role then
        if gateway.isOpen party.handle then some party else none
      else gateway.slot family other side := by
  have placed := slot_place gateway family identity other role side party
  rcases occupy_cases gateway family identity role party with ⟨same, held⟩ | ⟨same, -⟩
  -- The slot holds the connection already, and so it is open.
  · rw [Pairs.holds_eq, Option.any_eq_true] at held
    obtain ⟨holder, stands, equal⟩ := held
    have knows := (tenanted.tenant identity role holder stands).knows
    obtain rfl := lists.party_eq distinct knows known (of_decide_eq_true equal)
    rw [same, placed, if_pos (tenanted.isOpen_of_slot lists distinct stands)]
  · obtain ⟨connection, found, -⟩ := known.exists_connection
    rw [same, isOpen_eq found]
    cases isOpen : connection.isOpen with
    | true =>
        have still : (gateway.place family identity role party).2.connections.get? party.handle =
            some connection := by simpa [Gateway.place] using found
        rw [onClose_eq _ _ still, Connection.onClose_of_isOpen isOpen]
        exact placed
    | false =>
        exact tenanted.slot_onClose_place lists distinct found isOpen identity other role side

end Distinct

end PadRelay.Gateway
