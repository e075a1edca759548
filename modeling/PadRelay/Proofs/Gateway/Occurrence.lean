import PadRelay.Proofs.Gateway.Attached
import PadRelay.Proofs.Gateway.Roster

/-!
# What happens around the handlers

Connections are made and closed, outlets fill and drain, time passes, and timers go off at any
moment or never. A handler runs for a connection under a handle, with the identity that it carries.
-/

namespace PadRelay

/-- What happens around the handlers. -/
inductive Occurrence where
  /-- A connection object is made, open and with nothing registered on it. -/
  | opens (id : Identity) (secure : Bool) (remote : SocketAddress) (outlet : Outlet)
  /-- The other end of an outlet does something to it. -/
  | outlet (handle : Handle) (outlet : Outlet)
  /-- A connection closes. -/
  | closes (handle : Handle)
  /-- Time passes. -/
  | passes (duration : Nat)
  /-- The timer of a staging goes off. -/
  | rings (identity : Identity) (generation : Nat)

/-- The identity of the connection that is made. -/
def Occurrence.opened? : Occurrence → Option Identity
  | .opens id _ _ _ => some id
  | .outlet _ _ | .closes _ | .passes _ | .rings _ _ => none

/-- A call that registers no drop of keys. -/
def Call.AttachesNothing (request : Call) : Prop :=
  ∀ handle identity, request ≠ .onClose handle (.dropKeys identity)

namespace Gateway

/-- The gateway after something happened around the handlers. -/
def undergo (gateway : Gateway) : Occurrence → Gateway
  | .opens id secure remote outlet => (gateway.enroll { id, secure, remote, outlet }).2
  | .outlet handle outlet =>
      { gateway with
        connections := gateway.connections.modify handle fun connection =>
          { connection with outlet } }
  | .closes handle => gateway.close handle
  | .passes duration => gateway.advance duration
  | .rings identity generation =>
      { gateway with staged := gateway.staged.ring gateway.now identity generation }

/-- Run a handler for a connection, if there is one under the handle. -/
def attend {α : Type} (gateway : Gateway) (handle : Handle) (handler : Party → Script α) :
    Option α × Gateway :=
  match gateway.idOf? handle with
  | some id =>
      let (value, after) := (handler ⟨handle, id⟩).run gateway
      (some value, after)
  | none => (none, gateway)

/-- The empty gateway, on which staged keys live for the given time. -/
def fresh (entropy : Entropy) (expiry : Nat) : Gateway := { entropy, staged := { expiry } }

theorem keyless_fresh (entropy : Entropy) (expiry : Nat) (identity : Identity) :
    (fresh entropy expiry).Keyless identity := ⟨rfl, rfl, rfl⟩

theorem attend_of_knows {α : Type} {gateway : Gateway} {party : Party}
    (known : gateway.Knows party) (handler : Party → Script α) :
    gateway.attend party.handle handler =
      (some ((handler party).run gateway).1, ((handler party).run gateway).2) := by
  have found : gateway.idOf? party.handle = some party.id := known
  simp only [attend, found]

theorem attend_of_absent {α : Type} {gateway : Gateway} {handle : Handle}
    (absent : gateway.idOf? handle = none) (handler : Party → Script α) :
    gateway.attend handle handler = (none, gateway) := by
  simp only [attend, absent]

theorem lists_fresh (entropy : Entropy) (expiry : Nat) : (fresh entropy expiry).Lists [] :=
  ⟨fun _ => rfl, rfl⟩

/-- Only a new connection adds a line to the roster. -/
theorem Lists.undergo {gateway : Gateway} {ids : List Identity} (lists : gateway.Lists ids)
    (occurrence : Occurrence) :
    (gateway.undergo occurrence).Lists (ids ++ occurrence.opened?.toList) := by
  cases occurrence with
  | opens id secure remote outlet => exact lists.enroll _
  | outlet handle outlet =>
      simp only [Occurrence.opened?, Option.toList_none, List.append_nil]
      refine lists.keeps ⟨?_, ?_⟩
      · intro other
        simp only [Gateway.undergo, Gateway.idOf?, Table.get?_modify]
        split
        · cases gateway.connections.get? other <;> rfl
        · rfl
      · simp [Gateway.undergo, Table.modify, Table.mapValues, Table.size]
  | closes handle =>
      simp only [Occurrence.opened?, Option.toList_none, List.append_nil]
      exact lists.keeps (.close gateway handle)
  | passes duration =>
      simp only [Occurrence.opened?, Option.toList_none, List.append_nil]
      exact lists.keeps (.of_eq rfl)
  | rings identity generation =>
      simp only [Occurrence.opened?, Option.toList_none, List.append_nil]
      exact lists.keeps (.of_eq rfl)

/-- Running a handler adds no line to the roster. -/
theorem keeps_attend {α : Type} (gateway : Gateway) (handle : Handle)
    (handler : Party → Script α) : gateway.Keeps (gateway.attend handle handler).2 := by
  cases found : gateway.idOf? handle with
  | none =>
      rw [attend_of_absent found]
      exact .refl gateway
  | some id =>
      have known : gateway.Knows ⟨handle, id⟩ := found
      rw [attend_of_knows known]
      exact keeps_run _ gateway

theorem keeps_dropState (gateway : Gateway) (family : Family) :
    gateway.Keeps (gateway.dropState family) :=
  .of_eq (connections_dropState gateway family)

/-- Whatever holds before a handler, and after it for every connection that there is, holds after
attending to a handle. -/
theorem attend_cases {α : Type} {motive : Gateway → Prop} {gateway : Gateway} (handle : Handle)
    (handler : Party → Script α) (ignored : motive gateway)
    (handled : ∀ party, gateway.Knows party → party.handle = handle →
      motive ((handler party).run gateway).2) : motive (gateway.attend handle handler).2 := by
  cases found : gateway.idOf? handle with
  | none => rwa [attend_of_absent found]
  | some id =>
      have known : gateway.Knows ⟨handle, id⟩ := found
      rw [attend_of_knows known]
      exact handled _ known rfl

theorem isAttached_of_perform {request : Call} (harmless : request.AttachesNothing)
    {gateway : Gateway} {handle : Handle}
    (attached : (gateway.perform request).2.IsAttached handle) : gateway.IsAttached handle := by
  by_cases plain : request.IsPlain
  · exact (drifts_perform plain gateway).spares.attached handle attached
  · cases request with
    | onClose other hook =>
        refine (Spares.onClose gateway other ?_).attached handle attached
        intro identity equal
        exact harmless other identity (by rw [equal])
    | generate policy size =>
        refine (isAttached_congr ?_ handle).1 attached
        simp only [perform]
        split <;> rfl
    | place | enter | join | watch | forget | stage | unstage | takeStaged | activate
    | deactivate =>
        refine (isAttached_congr ?_ handle).1 attached
        simp [perform, place]
    | _ => exact absurd trivial plain

theorem isAttached_of_run {α : Type} {script : Script α}
    (harmless : script.Only Call.AttachesNothing) {gateway : Gateway} {handle : Handle}
    (attached : (script.run gateway).2.IsAttached handle) : gateway.IsAttached handle :=
  harmless.run (fun before after => after.IsAttached handle → before.IsAttached handle)
    (fun _ attached => attached) (fun _ _ _ first second attached => first (second attached))
    (fun _ permitted _ => isAttached_of_perform permitted) gateway attached

/-- Registering a hook attaches at most the connection on which it is registered. -/
theorem isAttached_of_onClose {gateway : Gateway} {handle other : Handle} {hook : Hook}
    (attached : (gateway.onClose handle hook).IsAttached other) :
    gateway.IsAttached other ∨ other = handle := by
  by_cases same : other = handle
  · exact .inr same
  · refine .inl ?_
    cases found : gateway.connections.get? handle with
    | none => simpa only [onClose, found] using attached
    | some connection =>
        rw [onClose_eq gateway hook found] at attached
        exact (isAttached_settle_of_ne gateway _ _ same).1 attached

/-- Whatever happens around the handlers registers nothing: a hook that waits then waited before. -/
theorem exists_waiting_of_undergo {gateway : Gateway} {occurrence : Occurrence} {handle : Handle}
    {connection : Connection Hook} {hook : Hook}
    (found : (gateway.undergo occurrence).connections.get? handle = some connection)
    (isOpen : connection.isOpen = true) (member : hook ∈ connection.life.waiting) :
    ∃ old, gateway.connections.get? handle = some old ∧ old.id = connection.id ∧
      old.isOpen = true ∧ hook ∈ old.life.waiting := by
  cases occurrence with
  | opens id secure remote outlet =>
      simp only [undergo, enroll, Table.get?_insert] at found
      split at found
      · cases found
        cases member
      · exact ⟨connection, found, rfl, isOpen, member⟩
  | outlet other outlet =>
      simp only [undergo, Table.get?_modify] at found
      split at found
      · rw [Option.map_eq_some_iff] at found
        obtain ⟨old, held, rfl⟩ := found
        exact ⟨old, held, rfl, isOpen, member⟩
      · exact ⟨connection, found, rfl, isOpen, member⟩
  | closes other =>
      cases held : gateway.connections.get? other with
      | none =>
          simp only [undergo, close, held] at found
          exact ⟨connection, found, rfl, isOpen, member⟩
      | some closing =>
          rw [undergo, close_eq gateway held, connections_settle, Table.get?_insert] at found
          split at found
          · rw [← Option.some.inj found, Connection.isOpen_close] at isOpen
            cases isOpen
          · exact ⟨connection, found, rfl, isOpen, member⟩
  | passes duration => exact ⟨connection, found, rfl, isOpen, member⟩
  | rings identity generation => exact ⟨connection, found, rfl, isOpen, member⟩

theorem isAttached_of_undergo {gateway : Gateway} {occurrence : Occurrence} {handle : Handle}
    (attached : (gateway.undergo occurrence).IsAttached handle) : gateway.IsAttached handle := by
  obtain ⟨connection, identity, found, isOpen, waits⟩ := attached
  obtain ⟨old, held, -, was_open, waited⟩ := exists_waiting_of_undergo found isOpen waits
  exact ⟨old, identity, held, was_open, waited⟩

end Gateway

end PadRelay
