import PadRelay.Proofs.Gateway.Ownership

/-!
# Clear channels that close

While the clear channel of an identity is open, its close will drop the keys of the identity. Once
it has closed the identity has no key, and nobody finds an open clear channel for it. Only staging
and activating a key can then give it one.
-/

namespace PadRelay

/-- A call that leaves a closed channel closed and its identity without keys, and that closes
nothing. -/
def Call.IsMild : Call → Prop
  | .send _ _ | .close _ => False
  | .generate _ _ | .unstage _ | .deactivate _ => True
  | .place _ _ role _ => role = .encrypted
  | .onClose _ hook => ∃ family identity id, hook = .vacate family identity .encrypted id
  | request => request.IsPlain

def Call.MayClose : Call → Prop
  | .send _ _ | .close _ => True
  | _ => False

namespace Gateway

/-- The clear channel of an identity: an open connection that drops the keys of the identity when it
closes. No other connection stands in the clear slot of the identity. -/
structure Channel (gateway : Gateway) (family : Family) (party : Party) : Prop where
  waits : gateway.Waits party.handle (.dropKeys party.id)
  sole : ∀ other, gateway.slot family party.id .clear = some other → other.handle = party.handle

/-- The clear channel of an identity has gone, with all keys. -/
structure Gone (gateway : Gateway) (family : Family) (identity : Identity) : Prop where
  keyless : gateway.Keyless identity
  unseen : gateway.connectionOf family identity .clear = none

variable {gateway : Gateway} {family : Family} {identity : Identity} {party : Party}

theorem slot_of_runHooks {hooks : List Hook} {role : Role}
    (found : (gateway.runHooks hooks).slot family identity role = some party) :
    gateway.slot family identity role = some party := by
  induction hooks generalizing gateway with
  | nil => exact found
  | cons hook hooks induction => exact (slot_of_runHook (induction found)).1

theorem slot_of_settle {handle : Handle} {turned : Connection Hook} {due : List Hook} {role : Role}
    (found : (gateway.settle handle turned due).slot family identity role = some party) :
    gateway.slot family identity role = some party := by
  have replaced : { gateway with
      connections := gateway.connections.insert handle turned }.slot family identity role =
        some party := slot_of_runHooks found
  exact replaced

/-- A clear channel is found only where one is entered that is open. -/
theorem unseen_of_imp {before after : Gateway}
    (unseen : before.connectionOf family identity .clear = none)
    (seen : ∀ party, after.slot family identity .clear = some party →
      after.isOpen party.handle = true →
        before.slot family identity .clear = some party ∧ before.isOpen party.handle = true) :
    after.connectionOf family identity .clear = none := by
  rw [connectionOf, Pairs.connectionOf_eq, Option.filter_eq_none_iff] at unseen ⊢
  intro party found isOpen
  obtain ⟨before_found, before_open⟩ := seen party found isOpen
  exact unseen party before_found before_open

namespace Gone

theorem turns (gone : gateway.Gone family identity) {handle : Handle}
    {connection turned : Connection Hook} {due : List Hook}
    (found : gateway.connections.get? handle = some connection)
    (opened : turned.isOpen = true → connection.isOpen = true) :
    (gateway.settle handle turned due).Gone family identity where
  keyless := gone.keyless.settle handle turned due
  unseen := by
    refine unseen_of_imp gone.unseen fun party slotted isOpen => ⟨slot_of_settle slotted, ?_⟩
    rw [isOpen_settle] at isOpen
    split at isOpen
    · next same =>
        rw [same, isOpen_eq found]
        exact opened isOpen
    · exact isOpen

theorem occupy (gone : gateway.Gone family identity) (other : Family) (subject : Identity)
    (party : Party) :
    ((Script.occupy other subject .encrypted party).run gateway).2.Gone family identity where
  keyless := gone.keyless.occupy other subject .encrypted party
  unseen := by
    rw [connectionOf_occupy_of_ne gateway other family subject .encrypted .clear party identity
      Role.noConfusion]
    exact gone.unseen

theorem stirs {after : Gateway} (gone : gateway.Gone family identity)
    (stirs : gateway.Stirs after) : after.Gone family identity := by
  cases stirs with
  | count other event =>
      refine ⟨by simpa [Keyless, Gateway.count] using gone.keyless, ?_⟩
      rw [Gateway.count, connectionOf_modifyLayer]
      split <;> exact gone.unseen
  | look other => exact ⟨gone.keyless.look other, gone.unseen⟩
  | send handle payload =>
      cases found : gateway.connections.get? handle with
      | none => simpa only [Gateway.send, found] using gone
      | some connection =>
          rw [send_eq gateway payload found]
          exact gone.turns found (connection.turns_send payload).isOpen_of_isOpen
  | close handle =>
      cases found : gateway.connections.get? handle with
      | none => simpa only [Gateway.close, found] using gone
      | some connection =>
          rw [close_eq gateway found]
          exact gone.turns found connection.turns_close.isOpen_of_isOpen
  | occupy other subject known => exact gone.occupy other subject _

/-- Steps that move no key bring no channel back. -/
theorem drifts {after : Gateway} (gone : gateway.Gone family identity)
    (drifts : gateway.Drifts after) : after.Gone family identity :=
  drifts.preserves (fun state => state.Gone family identity)
    (fun _ _ stirs gone => gone.stirs stirs) gone

theorem unstage (gone : gateway.Gone family identity) (other : Identity) :
    (gateway.perform (.unstage other)).2.Gone family identity := by
  obtain ⟨⟨active, entry, retired⟩, unseen⟩ := gone
  refine ⟨⟨active, ?_, ?_⟩, unseen⟩
  · simp [perform, StagedKeys.remove_snd, Table.get?_erase, entry]
  · simp [perform, StagedKeys.remove_snd, Table.get?_erase, retired]

theorem stage_of_ne (gone : gateway.Gone family identity) {target : Identity} (key : Key)
    (different : identity ≠ target) :
    (gateway.perform (.stage target key)).2.Gone family identity := by
  obtain ⟨⟨active, entry, retired⟩, unseen⟩ := gone
  refine ⟨⟨active, ?_, ?_⟩, unseen⟩
  · simp [perform, StagedKeys.get?_entries_put, different, entry]
  · simp [perform, StagedKeys.retired_put_of_ne _ _ _ _ _ different, retired]

/-- A key that is staged too late, and taken back. -/
theorem unstage_stage (gone : gateway.Gone family identity) (key : Key) :
    ((gateway.perform (.stage identity key)).2.perform (.unstage identity)).2.Gone family
      identity := by
  obtain ⟨⟨active, -, -⟩, unseen⟩ := gone
  refine ⟨⟨active, ?_, ?_⟩, unseen⟩
  · simp [perform, StagedKeys.remove_snd]
  · simp [perform, StagedKeys.remove_snd]

theorem mild {request : Call} (gone : gateway.Gone family identity) (mild : request.IsMild) :
    (gateway.perform request).2.Gone family identity := by
  by_cases plain : request.IsPlain
  · exact gone.drifts (drifts_perform plain gateway)
  · cases request with
    | generate policy size =>
        simp only [perform]
        split
        · exact ⟨gone.keyless, gone.unseen⟩
        · exact gone
    | unstage other => exact gone.unstage other
    | deactivate other =>
        obtain ⟨⟨active, entry, retired⟩, unseen⟩ := gone
        exact ⟨⟨by simp [perform, Table.get?_erase, active], entry, retired⟩, unseen⟩
    | place other subject role party =>
        cases mild
        refine ⟨by simpa [Keyless, perform, place] using gone.keyless, ?_⟩
        exact (connectionOf_place_of_ne gateway other family subject .encrypted .clear party
          identity Role.noConfusion).trans gone.unseen
    | onClose handle hook =>
        obtain ⟨other, subject, id, rfl⟩ := mild
        refine ⟨gone.keyless.onClose _ _, ?_⟩
        exact (connectionOf_onClose_vacate_of_ne gateway other family subject .encrypted .clear
          handle id identity Role.noConfusion).trans gone.unseen
    | enter | join | watch | forget | stage | takeStaged | activate => cases mild
    | _ => exact absurd trivial plain

end Gone

namespace Channel

theorem of_slots {before after : Gateway} (channel : before.Channel family party)
    (waits : after.Waits party.handle (.dropKeys party.id))
    (slots : ∀ other, after.slot family party.id .clear = some other →
      before.slot family party.id .clear = some other) : after.Channel family party :=
  ⟨waits, fun other found => channel.sole other (slots other found)⟩

theorem of_eq {before after : Gateway} (channel : before.Channel family party)
    (same : after.connections = before.connections)
    (slots : after.slot family party.id .clear = before.slot family party.id .clear) :
    after.Channel family party :=
  channel.of_slots ((waits_congr same _ _).2 channel.waits) fun _ found => slots ▸ found

theorem unseen_settle (channel : gateway.Channel family party) {turned : Connection Hook}
    (closed : turned.isOpen = false) (due : List Hook) :
    (gateway.settle party.handle turned due).connectionOf family party.id .clear = none := by
  rw [connectionOf, Pairs.connectionOf_eq, Option.filter_eq_none_iff]
  intro other slotted isOpen
  rw [channel.sole other (slot_of_settle slotted), isOpen_settle, if_pos rfl, closed] at isOpen
  cases isOpen

/-- An operation on a connection leaves the channel as it is, or closes it. -/
theorem turns (channel : gateway.Channel family party) {handle : Handle}
    {connection turned : Connection Hook} {due : List Hook}
    (found : gateway.connections.get? handle = some connection)
    (turns : connection.Turns turned due) :
    (gateway.settle handle turned due).Channel family party ∨
      (gateway.settle handle turned due).Gone family party.id := by
  have slots (other : Party)
      (slotted : (gateway.settle handle turned due).slot family party.id .clear = some other) :
      gateway.slot family party.id .clear = some other := slot_of_settle slotted
  obtain ⟨held, held_found, owner, isOpen, member⟩ := channel.waits
  by_cases same : party.handle = handle
  · subst same
    cases found.symm.trans held_found
    cases turns with
    | kept id life =>
        refine .inl (channel.of_slots ⟨turned, ?_, id.trans owner, ?_, ?_⟩ slots)
        · rw [connections_settle, Table.get?_insert_self]
        · rwa [Connection.isOpen, life]
        · rwa [life]
    | closed id wasOpen life =>
        have closed : turned.isOpen = false := by
          simp [Connection.isOpen, Lifecycle.isOpen, life]
        exact .inr ⟨keyless_runHooks _ member, channel.unseen_settle closed _⟩
  · refine .inl (channel.of_slots ⟨held, ?_, owner, isOpen, member⟩ slots)
    rwa [connections_settle, Table.get?_insert_of_ne _ _ same]

theorem send (channel : gateway.Channel family party) (handle : Handle) (payload : Bytes) :
    (gateway.send handle payload).2.Channel family party ∨
      (gateway.send handle payload).2.Gone family party.id := by
  cases found : gateway.connections.get? handle with
  | none => exact .inl (by simpa only [Gateway.send, found] using channel)
  | some connection =>
      rw [send_eq gateway payload found]
      exact channel.turns found (connection.turns_send payload)

theorem close (channel : gateway.Channel family party) (handle : Handle) :
    (gateway.close handle).Channel family party ∨ (gateway.close handle).Gone family party.id := by
  cases found : gateway.connections.get? handle with
  | none => exact .inl (by simpa only [Gateway.close, found] using channel)
  | some connection =>
      rw [close_eq gateway found]
      exact channel.turns found connection.turns_close

/-- The close of the channel itself leaves no key behind. -/
theorem gone_close (channel : gateway.Channel family party) :
    (gateway.close party.handle).Gone family party.id := by
  refine ⟨keyless_close channel.waits, ?_⟩
  obtain ⟨connection, found, -⟩ := channel.waits
  rw [close_eq gateway found]
  exact channel.unseen_settle connection.isOpen_close _

/-- Registering a hook on any connection leaves the channel as it is. -/
theorem onClose (channel : gateway.Channel family party) (handle : Handle) (hook : Hook) :
    (gateway.onClose handle hook).Channel family party := by
  cases found : gateway.connections.get? handle with
  | none => simpa only [Gateway.onClose, found] using channel
  | some connection =>
      rw [onClose_eq gateway hook found]
      obtain ⟨held, held_found, owner, isOpen, member⟩ := channel.waits
      refine channel.of_slots ?_ fun _ slotted => slot_of_settle slotted
      by_cases same : party.handle = handle
      · subst same
        cases found.symm.trans held_found
        rw [Connection.onClose_of_isOpen isOpen]
        have still : Hook.dropKeys party.id ∈ connection.life.waiting ++ [hook] :=
          List.mem_append_left _ member
        refine ⟨{ connection with life.waiting := connection.life.waiting ++ [hook] }, ?_, owner,
          isOpen, still⟩
        rw [connections_settle, Table.get?_insert_self]
      · refine ⟨held, ?_, owner, isOpen, member⟩
        rwa [connections_settle, Table.get?_insert_of_ne _ _ same]

theorem count (channel : gateway.Channel family party) (other : Family) (event : Event) :
    (gateway.count other event).Channel family party := by
  refine channel.of_eq (by simp [Gateway.count]) ?_
  simp only [Gateway.count, slot_modifyLayer]
  split <;> rfl

theorem sealFor (channel : gateway.Channel family party) (other : Family) (identity : Identity)
    (payload : Bytes) : (gateway.sealFor other identity payload).2.Channel family party := by
  rw [Gateway.sealFor]
  split
  · exact channel.count other .encrypted
  · exact channel

/-- Whatever is done, but for entering a clear slot, leaves a channel as it is or closes it; and
only handing over a payload and closing can close it. -/
theorem perform (channel : gateway.Channel family party) {request : Call}
    (spares : ∀ other subject entering, request ≠ .place other subject .clear entering) :
    (gateway.perform request).2.Channel family party ∨
      (gateway.perform request).2.Gone family party.id ∧ request.MayClose := by
  cases request with
  | send handle payload => exact (channel.send handle payload).imp_right (⟨·, trivial⟩)
  | close handle => exact (channel.close handle).imp_right (⟨·, trivial⟩)
  | onClose handle hook => exact .inl (channel.onClose handle hook)
  | place other subject role entering =>
      refine .inl (channel.of_eq (by simp [Gateway.perform, place]) ?_)
      cases role with
      | clear => exact absurd rfl (spares other subject entering)
      | encrypted =>
          simp only [Gateway.perform, place, slot_modifyLayer]
          split <;> simp [slot, Pairs.slot_place]
  | sealFor other identity payload => exact .inl (channel.sealFor other identity payload)
  | dress other recipient payload =>
      simp only [Gateway.perform, dress]
      split
      · exact .inl (channel.sealFor other recipient payload)
      · exact .inl channel
  | generate policy size =>
      refine .inl (channel.of_eq ?_ ?_)
      · simp only [Gateway.perform]
        split <;> rfl
      · simp only [Gateway.perform]
        split <;> rfl
  | count other event => exact .inl (channel.count other event)
  | enter | join | watch | forget =>
      refine .inl (channel.of_eq (by simp [Gateway.perform]) ?_)
      simp only [Gateway.perform, onDirectory_snd, slot_modifyLayer]
      split <;> rfl
  | _ => exact .inl (channel.of_eq rfl rfl)

end Channel

end Gateway

end PadRelay
