import PadRelay.Proofs.Exchange.Entrants
import PadRelay.Proofs.Exchange.Holding

/-!
# How identities move through the exchange

An act makes a move for an identity or it makes none: issuing, activating and deleting a key, the
close of its clear channel and the shutdown, and the deadline of the staged key. Which move it is
depends on the act and its answer, on the connections that were taken in, and on the clock, but not
on what the act leaves. A move changes what the identity holds in one way only, and without a move
everything that it holds stays.
-/

namespace PadRelay

/-- What can happen to the keys of an identity. -/
inductive Move where
  /-- A new key is staged. -/
  | issue
  /-- The staged key becomes active. -/
  | activate
  /-- The active key is deleted. -/
  | delete
  /-- All keys are dropped. -/
  | drop
  /-- The staged key passes its deadline. -/
  | lapse
deriving DecidableEq

namespace Move

/-- What an identity holds before and after a move. -/
inductive Takes : Move → Holding → Holding → Prop
  | issue (before : Holding) (fresh : StagedKey) :
      Takes .issue before ⟨before.active, some fresh⟩
  | activate {before : Holding} {held : StagedKey} (staged : before.staged = some held) :
      Takes .activate before ⟨some held.key, none⟩
  | delete {before : Holding} {key : Key} (active : before.active = some key) :
      Takes .delete before ⟨none, before.staged⟩
  | drop (before : Holding) : Takes .drop before ⟨none, none⟩
  | lapse {before : Holding} {held : StagedKey} (staged : before.staged = some held) :
      Takes .lapse before ⟨before.active, none⟩

/-- The diagram of states. -/
inductive Edge : Move → KeyState → KeyState → Prop
  | issue_unencrypted : Edge .issue .unencrypted .keyPending
  | issue_keyPending : Edge .issue .keyPending .keyPending
  | issue_encrypted : Edge .issue .encrypted .rotating
  | issue_rotating : Edge .issue .rotating .rotating
  | activate_keyPending : Edge .activate .keyPending .encrypted
  | activate_rotating : Edge .activate .rotating .encrypted
  | delete_encrypted : Edge .delete .encrypted .unencrypted
  | delete_rotating : Edge .delete .rotating .keyPending
  | drop (state : KeyState) : Edge .drop state .unencrypted
  | lapse_keyPending : Edge .lapse .keyPending .unencrypted
  | lapse_rotating : Edge .lapse .rotating .encrypted

theorem Takes.edge {move : Move} {before after : Holding} (takes : move.Takes before after) :
    move.Edge before.state after.state := by
  obtain ⟨active, staged⟩ := before
  cases takes with
  | issue before fresh => cases active <;> cases staged <;> constructor
  | activate held => cases held; cases active <;> constructor
  | delete key => cases key; cases staged <;> constructor
  | drop before => exact .drop _
  | lapse held => cases held; cases active <;> constructor

/-- A move leads from one holding to the other; without one they are the same. -/
def Leads : Option Move → Holding → Holding → Prop
  | some move, before, after => move.Takes before after
  | none, before, after => after = before

theorem leads_ite {move : Move} {target identity : Identity} {before after : Holding}
    (takes : identity = target → move.Takes before after)
    (others : identity ≠ target → after = before) :
    Leads (if some target = some identity then some move else none) before after := by
  split
  · next own => exact takes (Option.some.inj own).symm
  · next other => exact others fun own => other (congrArg some own.symm)

end Move

namespace Gateway

variable {before middle after : Gateway} {target : Identity}

theorem leads_promote {staging : Staging} (first : before.Drifts middle)
    (found : middle.staged.entries.get? target = some staging)
    (inTime : staging.isLive middle.now = true)
    (last : (middle.promote target staging).Drifts after)
    (calm : ∀ handle, before.IsAttached handle → after.isOpen handle = true)
    (identity : Identity) :
    Move.Leads (if some target = some identity then some .activate else none)
      (before.holding identity) (after.holding identity) := by
  obtain ⟨same, moved⟩ := holding_of_spares first.spares last.spares rfl calm identity
  rw [holding_promote] at moved
  apply Move.leads_ite
  · intro own
    subst own
    have staged : (before.holding identity).staged = some staging.held := by
      rw [← same]
      exact StagedKeys.live_of_entry found inTime
    rw [moved, if_pos rfl]
    exact .activate staged
  · intro other
    rw [moved, if_neg other, same]

theorem leads_deactivate {key : Key} (first : before.Drifts middle)
    (found : middle.active.get? target = some key) (last : (middle.deactivate target).Drifts after)
    (calm : ∀ handle, before.IsAttached handle → after.isOpen handle = true)
    (identity : Identity) :
    Move.Leads (if some target = some identity then some .delete else none)
      (before.holding identity) (after.holding identity) := by
  obtain ⟨same, moved⟩ := holding_of_spares first.spares last.spares rfl calm identity
  rw [holding_deactivate] at moved
  apply Move.leads_ite
  · intro own
    subst own
    have active : (before.holding identity).active = some key := by
      rw [← same]
      exact found
    rw [moved, if_pos rfl, same]
    exact .delete active
  · intro other
    rw [moved, if_neg other, same]

theorem leads_stageNew {key : Key} {entropy : Entropy} (first : before.Drifts middle)
    (positive : 0 < before.staged.expiry) (last : (middle.stageNew target key entropy).Drifts after)
    (calm : ∀ handle, before.IsAttached handle → after.isOpen handle = true)
    (identity : Identity) :
    Move.Leads (if some target = some identity then some .issue else none)
      (before.holding identity) (after.holding identity) := by
  have lives : 0 < middle.staged.expiry := by
    rwa [first.sheds.expiry]
  obtain ⟨same, moved⟩ := holding_of_spares first.spares last.spares rfl calm identity
  rw [holding_stageNew _ _ _ lives] at moved
  apply Move.leads_ite
  · intro own
    subst own
    rw [moved, if_pos rfl, same]
    exact .issue _ _
  · intro other
    rw [moved, if_neg other, same]

theorem holding_of_drifts (drifts : before.Drifts after)
    (calm : ∀ handle, before.IsAttached handle → after.isOpen handle = true)
    (identity : Identity) : after.holding identity = before.holding identity :=
  (holding_of_spares (.refl before) drifts.spares rfl calm identity).2

end Gateway

namespace Desk

variable (desk : Desk)

/-- Whose key a request on an encrypted channel is about. -/
def target? (payload : Bytes) : Option Identity :=
  match desk.codec.decode payload with
  | .ok (.keyRequest request) => request.target
  | _ => none

/-- The move that an act makes for an identity, when these connections have been taken in. Only the
close of its own clear channel drops its keys, and only time brings a deadline. -/
def move? (taken : List Party) (gateway : Gateway) (act : Act) (identity : Identity) :
    Option Move :=
  match act, (desk.act gateway act).1 with
  | .encrypted _ payload, .encrypted .keyIssued =>
      if desk.target? payload = some identity then some .issue else none
  | .encrypted _ payload, .encrypted .keyDeleted =>
      if desk.target? payload = some identity then some .delete else none
  | .clear handle _, .clear .activated =>
      if gateway.idOf? handle = some identity then some .activate else none
  | .clear handle _, .clear .deleted =>
      if gateway.idOf? handle = some identity then some .delete else none
  | .occurs (.closes handle), _ =>
      if ⟨handle, identity⟩ ∈ taken ∧ gateway.isOpen handle = true then some .drop else none
  | .occurs (.passes duration), _ =>
      if ∃ staging ∈ gateway.staged.entries.get? identity,
          gateway.now < staging.deadline ∧ staging.deadline ≤ gateway.now + duration then
        some .lapse
      else none
  | .shutdown, _ => some .drop
  | _, _ => none

/-- An act closes nothing but what it is there to close. -/
def Calm (gateway : Gateway) (act : Act) : Prop :=
  ∀ handle, gateway.isOpen handle = true →
    (desk.act gateway act).2.isOpen handle = true ∨ act = .occurs (.closes handle) ∨
      ∃ payload, act = .encrypted handle payload

/-- Handling a message on a clear channel moves the keys of its own identity alone. -/
theorem leads_clear (taken : List Party) {gateway : Gateway} (handle : Handle) (payload : Bytes)
    (calm : ∀ other, gateway.IsAttached other →
      (desk.act gateway (.clear handle payload)).2.isOpen other = true) (identity : Identity) :
    Move.Leads (desk.move? taken gateway (.clear handle payload) identity)
      (gateway.holding identity)
      ((desk.act gateway (.clear handle payload)).2.holding identity) := by
  cases found : gateway.idOf? handle with
  | none =>
      simp only [move?, act, Gateway.attend_of_absent found]
      exact rfl
  | some id =>
      have known : gateway.Knows ⟨handle, id⟩ := found
      have effect := desk.effect_handleClear ⟨handle, id⟩ gateway payload
      simp only [move?, act, Gateway.attend_of_knows known, Option.elim_some] at calm ⊢
      generalize (desk.handleClear ⟨handle, id⟩ payload).run gateway = result at effect calm ⊢
      cases effect with
      | @idle outcome after quiet drifts =>
          have same := Gateway.holding_of_drifts drifts calm identity
          cases outcome with
          | activated => exact absurd rfl quiet.1
          | deleted => exact absurd rfl quiet.2
          | rejected | application => exact same
      | activated first staged inTime last =>
          dsimp only
          rw [found]
          exact Gateway.leads_promote first staged inTime last calm identity
      | deleted first active last =>
          dsimp only
          rw [found]
          exact Gateway.leads_deactivate first active last calm identity

/-- Handling the request of an encrypted channel moves the keys of its target alone. -/
theorem leads_encrypted (taken : List Party) {gateway : Gateway}
    (positive : 0 < gateway.staged.expiry) (handle : Handle) (payload : Bytes)
    (calm : ∀ other, gateway.IsAttached other →
      (desk.act gateway (.encrypted handle payload)).2.isOpen other = true) (identity : Identity) :
    Move.Leads (desk.move? taken gateway (.encrypted handle payload) identity)
      (gateway.holding identity)
      ((desk.act gateway (.encrypted handle payload)).2.holding identity) := by
  cases found : gateway.idOf? handle with
  | none =>
      simp only [move?, act, Gateway.attend_of_absent found]
      exact rfl
  | some id =>
      have known : gateway.Knows ⟨handle, id⟩ := found
      have effect := desk.effect_handleEncrypted ⟨handle, id⟩ payload gateway known
      simp only [move?, act, Gateway.attend_of_knows known, Option.elim_some] at calm ⊢
      generalize (desk.handleEncrypted ⟨handle, id⟩ payload).run gateway = result at effect calm ⊢
      cases effect with
      | @idle outcome after failure drifts =>
          have same := Gateway.holding_of_drifts drifts calm identity
          cases outcome with
          | keyIssued | keyDeleted => cases failure
          | rejected | dropped => exact same
      | @issued middle after target requested size key entropy asked _ first _ _ last =>
          have about : desk.target? payload = some target := by
            simp only [target?, asked, KeyRequest.newKey]
          dsimp only
          rw [about]
          exact Gateway.leads_stageNew first positive last calm identity
      | @deleted middle after target requested key asked first active last =>
          have about : desk.target? payload = some target := by
            simp only [target?, asked]
          dsimp only
          rw [about]
          exact Gateway.leads_deactivate first active last calm identity

theorem holding_run_attach {gateway : Gateway} {party : Party}
    (keyless : gateway.isOpen party.handle = false → gateway.Keyless party.id)
    (calm : ∀ handle, gateway.isOpen handle = true →
      ((desk.attach party).run gateway).2.isOpen handle = true) (identity : Identity) :
    ((desk.attach party).run gateway).2.holding identity = gateway.holding identity := by
  rw [attach, Script.setClear] at calm ⊢
  simp only [Script.run_bind] at calm ⊢
  have paired := gateway.holding_occupy identity desk.family party.id .clear party
  have same_open := gateway.isOpen_occupy desk.family party.id .clear party
  have still_keyless (closed : gateway.isOpen party.handle = false) :=
    (keyless closed).occupy desk.family party.id .clear party
  generalize ((Script.occupy desk.family party.id .clear party).run gateway).2 = entered at *
  rw [← same_open] at still_keyless calm
  -- On a closed connection the hook runs at once, and finds no key to drop.
  have registered := Gateway.holding_onClose_dropKeys still_keyless identity
  have registered_open := entered.isOpen_onClose party.handle (.dropKeys party.id)
  have welcomed := (Gateway.drifts_run (desk.plain_reply party (.welcome party.id))
    (entered.onClose party.handle (.dropKeys party.id))).spares
  rw [← registered_open] at calm
  have kept := welcomed.keys (fun handle attached =>
    welcomed.kept handle attached (calm handle attached.isOpen)) identity
  exact kept.trans (registered.trans paired)

/-- Taking a connection in changes nothing about what anybody holds, for a closed one has no keys.
-/
theorem holding_attach {gateway : Gateway} {ids : List Identity} {expiry : Nat}
    (reached : gateway.Reached ids expiry) (distinct : ids.Nodup) (handle : Handle)
    (calm : ∀ other, gateway.isOpen other = true →
      (desk.act gateway (.attach handle)).2.isOpen other = true) (identity : Identity) :
    (desk.act gateway (.attach handle)).2.holding identity = gateway.holding identity := by
  cases found : gateway.idOf? handle with
  | none => simp only [act, Gateway.attend_of_absent found]
  | some id =>
      have known : gateway.Knows ⟨handle, id⟩ := found
      simp only [act, Gateway.attend_of_knows known] at calm ⊢
      exact desk.holding_run_attach (reached.keyless_of_closed distinct known) calm identity

variable {taken : List Party} {gateway : Gateway}

/-- Just the connections that were taken in and are open drop keys when they close. -/
def Drops (taken : List Party) (gateway : Gateway) : Prop :=
  ∀ party : Party, gateway.Waits party.handle (.dropKeys party.id) ↔
    party ∈ taken ∧ gateway.isOpen party.handle = true

theorem leads_closes (own : gateway.OwnHooks) (drops : Drops taken gateway) (handle : Handle)
    (identity : Identity) :
    Move.Leads (desk.move? taken gateway (.occurs (.closes handle)) identity)
      (gateway.holding identity) ((gateway.close handle).holding identity) := by
  have waits_iff : gateway.Waits handle (.dropKeys identity) ↔
      ⟨handle, identity⟩ ∈ taken ∧ gateway.isOpen handle = true := drops ⟨handle, identity⟩
  simp only [move?, ← waits_iff]
  split
  · next waits =>
      rw [Gateway.holding_of_keyless (Gateway.keyless_close waits)]
      exact .drop _
  · next spared => exact Gateway.holding_close_of_not_waits own spared

/-- As time passes an identity loses its staged key exactly at the deadline. -/
theorem leads_passes (duration : Nat) (identity : Identity) :
    Move.Leads (desk.move? taken gateway (.occurs (.passes duration)) identity)
      (gateway.holding identity) ((gateway.advance duration).holding identity) := by
  simp only [move?, Gateway.holding, Gateway.advance, StagedKeys.live]
  cases gateway.staged.entries.get? identity with
  | none => simp [Move.Leads]
  | some staging =>
      simp only [Option.mem_some_iff, exists_eq_left', Option.filter_some, Staging.isLive,
        decide_eq_true_eq]
      rcases Nat.lt_or_ge gateway.now staging.deadline with inTime | overdue
      · rcases Nat.lt_or_ge (gateway.now + duration) staging.deadline with still | late
        · rw [if_neg fun lapses => Nat.not_le.2 still lapses.2, if_pos inTime, if_pos still]
          exact rfl
        · rw [if_pos ⟨inTime, late⟩, if_pos inTime, if_neg (Nat.not_lt.2 late)]
          exact .lapse rfl
      · rw [if_neg fun lapses => Nat.not_lt.2 overdue lapses.1, if_neg (Nat.not_lt.2 overdue),
          if_neg (Nat.not_lt.2 (Nat.le_add_right_of_le overdue))]
        exact rfl

theorem holding_undergo_rings (other : Identity) (generation : Nat) (identity : Identity) :
    (gateway.undergo (.rings other generation)).holding identity = gateway.holding identity := by
  rcases gateway.staged.ring_eq gateway.now other generation with same | same
  · simp only [Gateway.undergo, same]
  · simp only [Gateway.undergo, same, Gateway.holding, StagedKeys.live_expireDue]

theorem leads_undergo (own : gateway.OwnHooks) (drops : Drops taken gateway)
    (occurrence : Occurrence) (identity : Identity) :
    Move.Leads (desk.move? taken gateway (.occurs occurrence) identity) (gateway.holding identity)
      ((gateway.undergo occurrence).holding identity) := by
  cases occurrence with
  | opens id secure remote outlet => exact rfl
  | outlet handle outlet => exact rfl
  | closes handle => exact desk.leads_closes own drops handle identity
  | passes duration => exact desk.leads_passes duration identity
  | rings other generation => exact holding_undergo_rings other generation identity

/-- Every act leads along its move, between the acts of a run with distinct identities. -/
theorem leads_act {ids : List Identity} {expiry : Nat} (reached : gateway.Reached ids expiry)
    (drops : Drops taken gateway) (positive : 0 < expiry) (distinct : ids.Nodup) (act : Act)
    (apart : ∀ handle payload, act = .encrypted handle payload → ¬ gateway.IsAttached handle)
    (calm : desk.Calm gateway act) (identity : Identity) :
    Move.Leads (desk.move? taken gateway act identity) (gateway.holding identity)
      ((desk.act gateway act).2.holding identity) := by
  cases act with
  | occurs occurrence => exact desk.leads_undergo reached.sound.own drops occurrence identity
  | shutdown =>
      have keyless : (gateway.dropState desk.family).Keyless identity := by
        simp [Gateway.Keyless, Gateway.dropState, StagedKeys.clear]
      have dropped := Gateway.holding_of_keyless keyless
      simp only [move?, Desk.act, dropped]
      exact .drop _
  | attach handle =>
      refine desk.holding_attach reached distinct handle ?_ identity
      intro other isOpen
      rcases calm other isOpen with still | ⟨⟨⟩⟩ | ⟨payload, ⟨⟩⟩
      exact still
  | clear handle payload =>
      refine desk.leads_clear taken handle payload ?_ identity
      intro other attached
      rcases calm other attached.isOpen with still | ⟨⟨⟩⟩ | ⟨payload, ⟨⟩⟩
      exact still
  | encrypted handle payload =>
      refine desk.leads_encrypted taken (reached.expiry ▸ positive) handle payload ?_ identity
      intro other attached
      rcases calm other attached.isOpen with still | ⟨⟨⟩⟩ | ⟨other_payload, equal⟩
      · exact still
      · cases equal
        exact absurd attached (apart _ _ rfl)

/-- How identities move through the exchange, in every run over connections with distinct
identities. An act that makes a move for an identity leads along an edge of the diagram and changes
what the identity holds only as the move says. Every other act leaves the active key and the staged
key in time as they are. The request of an encrypted channel does not come over a connection that
was taken in and is open. -/
theorem keyState_follows_moves (desk : Desk) (entropy : Entropy) {expiry : Nat}
    (positive : 0 < expiry) {acts : List Act} (distinct : (acts.filterMap Act.opened?).Nodup)
    {gateway : Gateway} (reached : desk.run (.fresh entropy expiry) acts = gateway)
    {taken : List Party} (entered : desk.entrants (.fresh entropy expiry) acts = taken) (act : Act)
    (apart : ∀ handle payload, act = .encrypted handle payload →
      ∀ party ∈ taken, party.handle = handle → gateway.isOpen handle = false)
    (calm : desk.Calm gateway act) (identity : Identity) :
    (∀ move, desk.move? taken gateway act identity = some move →
      move.Takes (gateway.holding identity) ((desk.act gateway act).2.holding identity) ∧
      move.Edge (gateway.keyState identity).1 ((desk.act gateway act).2.keyState identity).1) ∧
    (desk.move? taken gateway act identity = none →
      (desk.act gateway act).2.holding identity = gateway.holding identity ∧
      ((desk.act gateway act).2.keyState identity).1 = (gateway.keyState identity).1) := by
  subst reached entered
  have drops : Drops _ _ := desk.waits_run_iff entropy expiry acts
  have unattached (handle : Handle) (payload : Bytes) (encrypted : act = .encrypted handle payload)
      (attached : (desk.run (.fresh entropy expiry) acts).IsAttached handle) : False := by
    obtain ⟨⟨party, member, same⟩, isOpen⟩ :=
      (desk.isAttached_run_iff entropy expiry acts handle).1 attached
    rw [apart handle payload encrypted party member same] at isOpen
    cases isOpen
  have leads := desk.leads_act (desk.reached_run entropy expiry acts) drops positive distinct act
    unattached calm identity
  rw [Gateway.keyState_fst, Gateway.keyState_fst]
  constructor
  · intro move made
    rw [made] at leads
    exact ⟨leads, leads.edge⟩
  · intro made
    rw [made] at leads
    have same : (desk.act _ act).2.holding identity = _ := leads
    rw [same]
    exact ⟨rfl, rfl⟩

/-- The acknowledgement of the sample run makes a move. -/
theorem sample_ack_activates :
    Desk.move? {} [⟨0, 1⟩] (Desk.run {} Sample.start (Sample.acts.take 4)) (.clear 0 Sample.ack) 1 =
        some .activate ∧
      Move.Edge .activate
        ((Desk.run {} Sample.start (Sample.acts.take 4)).keyState 1).1
        ((Desk.act {} (Desk.run {} Sample.start (Sample.acts.take 4))
          (.clear 0 Sample.ack)).2.keyState 1).1 := by
  have made : Desk.move? {} [⟨0, 1⟩] (Desk.run {} Sample.start (Sample.acts.take 4))
      (.clear 0 Sample.ack) 1 = some .activate := by
    decide +kernel
  have entered : Desk.entrants {} (.fresh (.arithmetic 1 1) 30) (Sample.acts.take 4) =
      [⟨0, 1⟩] := by
    decide +kernel
  have still_open : ∀ entry ∈ (Desk.run {} Sample.start (Sample.acts.take 4)).connections.entries,
      entry.2.isOpen = true → (Desk.act {} (Desk.run {} Sample.start (Sample.acts.take 4))
        (.clear 0 Sample.ack)).2.isOpen entry.1 = true := by
    decide +kernel
  have calm : Desk.Calm {} (Desk.run {} Sample.start (Sample.acts.take 4))
      (.clear 0 Sample.ack) := by
    intro handle isOpen
    rw [Gateway.isOpen, Option.any_eq_true] at isOpen
    obtain ⟨connection, found, isOpen⟩ := isOpen
    have listed := (Table.get?_eq_some_iff _ _ _).1 found
    exact .inl (still_open (handle, connection) listed isOpen)
  have leads := (keyState_follows_moves {} (.arithmetic 1 1) (by decide : 0 < 30) (by decide) rfl
    entered (.clear 0 Sample.ack) (fun _ _ encrypted => absurd encrypted Act.noConfusion) calm
    1).1 .activate made
  exact ⟨made, leads.2⟩

end Desk

end PadRelay
