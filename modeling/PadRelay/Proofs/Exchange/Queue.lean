import PadRelay.Proofs.Exchange.Fetch
import PadRelay.Proofs.Exchange.Phases
import PadRelay.Proofs.Exchange.Reading

/-!
# Messages in flight

A client switches keys when it sends, the gateway when it receives, and in between any number of
messages sealed under different keys are in flight. As they arrive in the order in which they were
sent, replaying them on the keys of the gateway gives the keys of the client: so each is read as it
was meant, and once all have arrived both sides hold the same keys.
-/

namespace PadRelay

/-! ### What one side holds -/

/-- The keys that one side holds. -/
structure Stock where
  staged : Option Key
  active : Option Key
deriving DecidableEq

def Client.stock (client : Client) : Stock := ⟨client.staged, client.active⟩

def Gateway.stock (gateway : Gateway) (identity : Identity) : Stock :=
  ⟨(gateway.holding identity).staged.map StagedKey.key, (gateway.holding identity).active⟩

/-- A payload sealed with the active key, or as it is if there is none. -/
def Stock.wrap (stock : Stock) (payload : Bytes) : Bytes :=
  match stock.active with
  | some key => Cipher.transform key payload
  | none => payload

theorem Stock.wrap_wrap (stock : Stock) (payload : Bytes) :
    stock.wrap (stock.wrap payload) = payload := by
  rw [wrap, wrap]
  cases stock.active with
  | some key => exact Cipher.transform_transform key payload
  | none => rfl

theorem Client.sealBytes_eq_wrap (client : Client) (payload : Bytes) :
    client.sealBytes payload = client.stock.wrap payload := rfl

/-! ### Letters -/

/-- Whether bytes are no message of ours at all, so that they belong to the application. -/
def Codec.IsForeign (codec : Codec) (plain : Bytes) : Prop :=
  (∃ reason, codec.decode plain = .error (.undecodable reason)) ∨
    ∃ tag, codec.decode plain = .error (.unknownType tag)

/-- What a client puts on its clear channel, and the outcome that it should have. -/
structure Letter where
  meant : ClearOutcome
  payload : Bytes

/-- What sending or receiving a letter does to the keys of a side. -/
inductive Letter.Turns (codec : Codec) (identity : Identity) : Letter → Stock → Stock → Prop
  /-- An acknowledgement is sealed with the staged key and switches to it. -/
  | acknowledgement (key : Key) (active : Option Key) :
      Turns codec identity
        ⟨.activated, Cipher.transform key (codec.encode (.keyAck identity))⟩
        ⟨some key, active⟩ ⟨none, some key⟩
  /-- A deletion is sealed with the active key and ends it. -/
  | deletion (staged : Option Key) (key : Key) :
      Turns codec identity
        ⟨.deleted, Cipher.transform key (codec.encode (.keyRequest (.deleteKey identity)))⟩
        ⟨staged, some key⟩ ⟨staged, none⟩
  /-- An application payload is sealed with the active key, if there is one, and changes nothing. -/
  | application {plain : Bytes} (foreign : codec.IsForeign plain) (stock : Stock) :
      Turns codec identity ⟨.application plain, stock.wrap plain⟩ stock stock

/-- What replaying letters in order does to the keys of a side. -/
inductive Replays (codec : Codec) (identity : Identity) : List Letter → Stock → Stock → Prop
  | nil (stock : Stock) : Replays codec identity [] stock stock
  | cons {letter : Letter} {letters : List Letter} {first second last : Stock}
      (turns : letter.Turns codec identity first second)
      (rest : Replays codec identity letters second last) :
      Replays codec identity (letter :: letters) first last

namespace Replays

variable {codec : Codec} {identity : Identity} {letters : List Letter} {first last : Stock}

theorem snoc (replays : Replays codec identity letters first last) {letter : Letter}
    {next : Stock} (turns : letter.Turns codec identity last next) :
    Replays codec identity (letters ++ [letter]) first next := by
  induction replays with
  | nil stock => exact .cons turns (.nil next)
  | cons one _ induction => exact .cons one (induction turns)

/-- Without an acknowledgement in flight, any other key may be staged on both sides. -/
theorem restage (replays : Replays codec identity letters first last)
    (unacknowledged : ∀ letter ∈ letters, letter.meant ≠ .activated) (staged : Option Key) :
    Replays codec identity letters ⟨staged, first.active⟩ ⟨staged, last.active⟩ := by
  induction replays with
  | nil stock => exact .nil _
  | cons turns rest induction =>
      have others := induction fun letter member =>
        unacknowledged letter (List.mem_cons_of_mem _ member)
      cases turns with
      -- An acknowledgement still has to find the very key that was staged when it was sent.
      | acknowledgement key active => exact absurd rfl (unacknowledged _ List.mem_cons_self)
      | deletion kept key => exact .cons (.deletion staged key) others
      | application foreign stock => exact .cons (.application foreign ⟨staged, _⟩) others

end Replays

/-! ### How letters are read -/

namespace Desk

variable {desk : Desk} {identity : Identity} {ring : KeyRing} {payload : Bytes}

/-- A payload that acknowledges neither the staged nor the retired key is read under the active one.
-/
theorem verdict_of_unread (staged : desk.ackUnder? ring.staged payload = none)
    (retired : desk.ackUnder? ring.retired payload = none) :
    desk.verdict identity ring payload =
      desk.plainVerdict identity ring.active.isSome (ring.unseal payload) := by
  rw [verdict, staged, retired]

theorem plainVerdict_deletion (desk : Desk) (identity : Identity) :
    desk.plainVerdict identity true (desk.codec.encode (.keyRequest (.deleteKey identity))) =
      .deleted := by
  have read := Codec.decode_encode (desk.codec.carries_keyRequest (.deleteKey identity))
  rw [plainVerdict, read]
  simp [KeyRequest.deleteKey]

theorem plainVerdict_of_isForeign {plain : Bytes} (foreign : desk.codec.IsForeign plain)
    (keyed : Bool) : desk.plainVerdict identity keyed plain = .application plain := by
  rcases foreign with ⟨reason, read⟩ | ⟨tag, read⟩
  · simp [plainVerdict, read, FormatError.isViolation]
  · simp [plainVerdict, read, FormatError.isViolation]

/-- A letter that turns the keys under which it is read is read as it was meant, if only an
acknowledgement reads as one. -/
theorem verdict_eq_meant {letter : Letter} {after : Stock}
    (turns : letter.Turns desk.codec identity ⟨ring.staged, ring.active⟩ after)
    (clear : letter.meant ≠ .activated → desk.ackUnder? ring.staged letter.payload = none ∧
      desk.ackUnder? ring.retired letter.payload = none) :
    desk.verdict identity ring letter.payload = letter.meant := by
  obtain ⟨staged, retired, active⟩ := ring
  cases turns with
  | acknowledgement key active =>
      exact verdict_eq_activated_iff.2 (desk.ackUnder?_acknowledgement key identity)
  | deletion staged key =>
      obtain ⟨unstaged, unretired⟩ := clear ClearOutcome.noConfusion
      rw [verdict_of_unread unstaged unretired]
      simp only [KeyRing.unseal, Cipher.transform_transform]
      exact desk.plainVerdict_deletion identity
  | application foreign stock =>
      obtain ⟨unstaged, unretired⟩ := clear ClearOutcome.noConfusion
      rw [verdict_of_unread unstaged unretired]
      cases active with
      | none => exact plainVerdict_of_isForeign foreign _
      | some key =>
          simp only [KeyRing.unseal, Stock.wrap, Cipher.transform_transform]
          exact plainVerdict_of_isForeign foreign _

end Desk

/-! ### What the gateway holds after each step -/

namespace Gateway

variable {before dialed after : Gateway} {identity : Identity}

theorem stock_of_drifts (drifts : before.Drifts after)
    (calm : ∀ handle, before.IsAttached handle → after.isOpen handle = true) :
    after.stock identity = before.stock identity := by
  rw [stock, holding_of_drifts drifts calm identity, stock]

/-- What happens around the handlers leaves the keys of an identity whose channel stays open, if
none is overdue before or after. -/
theorem stock_undergo (own : before.OwnHooks) {occurrence : Occurrence}
    (spared : ∀ handle, occurrence = .closes handle → ¬ before.Waits handle (.dropKeys identity))
    (inTime : before.staged.IsTidy before.now identity)
    (still : (before.undergo occurrence).staged.IsTidy (before.undergo occurrence).now identity) :
    (before.undergo occurrence).stock identity = before.stock identity := by
  cases occurrence with
  | opens | outlet => rfl
  | rings other generation =>
      rw [stock, Desk.holding_undergo_rings other generation identity, stock]
  | closes handle =>
      have same : (before.undergo (.closes handle)).holding identity = before.holding identity :=
        holding_close_of_not_waits own (spared handle rfl)
      rw [stock, same, stock]
  | passes duration =>
      have same : (before.undergo (.passes duration)).holding identity =
          before.holding identity := by
        rw [holding, holding, StagedKeys.live_of_isTidy inTime, StagedKeys.live_of_isTidy still]
        rfl
      rw [stock, same, stock]

end Gateway

theorem Desk.isAttached_of_clear {desk : Desk} {gateway : Gateway} {handle other : Handle}
    {payload : Bytes} (attached : (desk.act gateway (.clear handle payload)).2.IsAttached other) :
    gateway.IsAttached other := by
  revert attached
  exact Gateway.attend_cases (motive := fun after => after.IsAttached other → _) handle
    (fun party => desk.handleClear party payload) id fun party _ _ attached =>
      (desk.effect_handleClear party gateway payload).attached attached

namespace Client.Fetched

variable {client asked : Client} {dialed after : Gateway}

theorem same (fetched : client.Fetched dialed (asked, after)) :
    asked.identity = client.identity ∧ asked.codec = client.codec := by
  cases fetched <;> exact ⟨rfl, rfl⟩

theorem attached (fetched : client.Fetched dialed (asked, after)) {handle : Handle}
    (attached : after.IsAttached handle) : dialed.IsAttached handle := by
  cases fetched with
  | refused drifts => exact drifts.spares.attached handle attached
  | issued first last =>
      have staged := last.spares.attached handle attached
      exact first.spares.attached handle ((Gateway.isAttached_congr rfl handle).1 staged)

/-- While the attached channels stay open, the same key is staged on both sides or on neither, and
active keys stay. -/
theorem stock (fetched : client.Fetched dialed (asked, after))
    (positive : 0 < dialed.staged.expiry)
    (calm : ∀ handle, dialed.IsAttached handle → after.isOpen handle = true) :
    (asked.stock = client.stock ∧
        after.stock client.identity = dialed.stock client.identity) ∨
      ∃ key, asked.stock = ⟨some key, client.stock.active⟩ ∧
        after.stock client.identity = ⟨some key, (dialed.stock client.identity).active⟩ := by
  cases fetched with
  | refused drifts => exact .inl ⟨rfl, Gateway.stock_of_drifts drifts calm⟩
  | @issued middle _ key entropy first last =>
      obtain ⟨before, kept⟩ := Gateway.holding_of_spares first.spares last.spares rfl calm
        client.identity
      have lives : 0 < middle.staged.expiry := first.sheds.expiry ▸ positive
      refine .inr ⟨key, rfl, ?_⟩
      rw [Gateway.stock, kept, middle.holding_stageNew client.identity client.identity lives,
        if_pos rfl, before]
      rfl

end Client.Fetched

/-- A letter that was read as it was meant turns the keys that the gateway holds. -/
theorem Desk.stock_clear {desk : Desk} {gateway : Gateway} {handle : Handle} {identity : Identity}
    (known : gateway.Knows ⟨handle, identity⟩) {letter : Letter} {next : Stock}
    (calm : ∀ other, gateway.IsAttached other →
      (desk.act gateway (.clear handle letter.payload)).2.isOpen other = true)
    (turns : letter.Turns desk.codec identity (gateway.stock identity) next)
    (report : (desk.act gateway (.clear handle letter.payload)).1 = .clear letter.meant) :
    (desk.act gateway (.clear handle letter.payload)).2.stock identity = next := by
  have same : gateway.idOf? handle = some identity := known
  have leads := desk.leads_clear [] handle letter.payload calm identity
  generalize held : gateway.stock identity = stock at turns
  simp only [Desk.move?, report] at leads
  rw [Gateway.stock] at held ⊢
  generalize (desk.act gateway (.clear handle letter.payload)).2.holding identity = after at leads ⊢
  cases turns with
  | acknowledgement key active =>
      simp only [if_pos same] at leads
      cases leads with
      | activate staged =>
          rw [Stock.mk.injEq, staged, Option.map_some, Option.some.injEq] at held
          rw [held.1]
          rfl
  | deletion staged key =>
      simp only [if_pos same] at leads
      cases leads with
      | delete active =>
          rw [Stock.mk.injEq] at held
          rw [held.1]
  | application foreign stock => rw [show after = _ from leads, held]

/-! ### Dialogues -/

/-- A client, the gateway, and what is in flight on the clear channel between them. -/
structure Dialogue where
  gateway : Gateway
  handle : Handle
  client : Client
  queue : List Letter := []
  sent : List ClearOutcome := []
  arrived : List Report := []

/-- What happens in a dialogue. -/
inductive Beat where
  /-- The client asks for a key over a connection that is made for the request, unless an
  acknowledgement is in flight. -/
  | asks (id : Identity) (secure : Bool) (remote : SocketAddress) (size : Option UInt32)
  /-- The client acknowledges its staged key. -/
  | acknowledges
  /-- The client sends a payload of the application. -/
  | speaks (plain : Bytes)
  /-- The client ends its active key, and forgets it at once. -/
  | ends
  /-- The oldest letter arrives. -/
  | arrives
  /-- Connections are made and closed, outlets change, time passes and timers go off. -/
  | occurs (occurrence : Occurrence)

namespace Dialogue

/-- A letter is sent by the client, which changes. -/
def post (dialogue : Dialogue) (client : Client) (letter : Letter) : Dialogue :=
  { dialogue with
    client
    queue := dialogue.queue ++ [letter]
    sent := dialogue.sent ++ [letter.meant] }

/-- Whether an acknowledgement is in flight. -/
def awaits (dialogue : Dialogue) : Bool :=
  dialogue.queue.any fun letter => letter.meant = .activated

end Dialogue

namespace Desk

variable (desk : Desk)

/-- The dialogue after something happened in it. -/
def proceed (dialogue : Dialogue) : Beat → Dialogue
  | .asks id secure remote size =>
      if dialogue.awaits then dialogue
      else
        let (client, gateway) := desk.fetch dialogue.gateway dialogue.client id secure remote size
        { dialogue with client, gateway }
  | .acknowledges =>
      match dialogue.client.acknowledge with
      | .error _ => dialogue
      | .ok (payload, client) => dialogue.post client ⟨.activated, payload⟩
  | .speaks plain =>
      match desk.codec.decode plain with
      | .error (.undecodable _) | .error (.unknownType _) =>
          dialogue.post dialogue.client ⟨.application plain, dialogue.client.sealBytes plain⟩
      | _ => dialogue
  | .ends =>
      if dialogue.client.active.isSome then
        dialogue.post dialogue.client.forget
          ⟨.deleted, dialogue.client.sealBytes dialogue.client.deleteRequest⟩
      else dialogue
  | .arrives =>
      match dialogue.queue with
      | [] => dialogue
      | letter :: queue =>
          let (report, gateway) := desk.act dialogue.gateway (.clear dialogue.handle letter.payload)
          { dialogue with gateway, queue, arrived := dialogue.arrived ++ [report] }
  | .occurs occurrence => { dialogue with gateway := dialogue.gateway.undergo occurrence }

/-- The channel is open, no staged key is overdue, and the oldest letter in flight reads as an
acknowledgement under the staged or the retired key only if it is one. -/
structure Calms (dialogue : Dialogue) : Prop where
  isOpen : dialogue.gateway.isOpen dialogue.handle = true
  inTime : dialogue.gateway.staged.IsTidy dialogue.gateway.now dialogue.client.identity
  plain : ∀ letter, dialogue.queue.head? = some letter → letter.meant ≠ .activated →
    let ring := dialogue.gateway.keyRing dialogue.client.identity
    desk.ackUnder? ring.staged letter.payload = none ∧
      desk.ackUnder? ring.retired letter.payload = none

instance (dialogue : Dialogue) : Decidable (desk.Calms dialogue) :=
  decidable_of_iff (dialogue.gateway.isOpen dialogue.handle = true ∧
      (∀ staging ∈ dialogue.gateway.staged.entries.get? dialogue.client.identity,
        staging.isLive dialogue.gateway.now = true) ∧
      ∀ letter ∈ dialogue.queue.head?, letter.meant ≠ .activated →
        let ring := dialogue.gateway.keyRing dialogue.client.identity
        desk.ackUnder? ring.staged letter.payload = none ∧
          desk.ackUnder? ring.retired letter.payload = none)
    ⟨fun calms => ⟨calms.1, calms.2.1, calms.2.2⟩,
      fun calms => ⟨calms.isOpen, calms.inTime, calms.plain⟩⟩

/-- Whether every state of a run is calm. -/
def AllCalm (dialogue : Dialogue) : List Beat → Prop
  | [] => desk.Calms dialogue
  | beat :: beats => desk.Calms dialogue ∧ AllCalm (desk.proceed dialogue beat) beats

instance decidableAllCalm (dialogue : Dialogue) : (beats : List Beat) →
    Decidable (desk.AllCalm dialogue beats)
  | [] => inferInstanceAs (Decidable (desk.Calms dialogue))
  | beat :: beats =>
      have := decidableAllCalm (desk.proceed dialogue beat) beats
      inferInstanceAs (Decidable (desk.Calms dialogue ∧
        desk.AllCalm (desk.proceed dialogue beat) beats))

theorem AllCalm.head {desk : Desk} {dialogue : Dialogue} {beats : List Beat}
    (calm : desk.AllCalm dialogue beats) : desk.Calms dialogue := by
  cases beats with
  | nil => exact calm
  | cons beat beats => exact calm.1

/-- The gateway is fresh and takes in the clear channel of a client; neither side has a key. -/
def greet (entropy : Entropy) (expiry : Nat) (id : Identity) (secure : Bool)
    (remote : SocketAddress) (outlet : Outlet) : Dialogue where
  gateway := desk.run (.fresh entropy expiry) [.occurs (.opens id secure remote outlet), .attach 0]
  handle := 0
  client := { codec := desk.codec, identity := id }

end Desk

/-- Replaying what is in flight on the keys of the gateway gives the keys of the client, and what
has arrived was read as it was meant. -/
structure Dialogue.InOrder (dialogue : Dialogue) (desk : Desk) (expiry : Nat) : Prop where
  reached : ∃ ids, dialogue.gateway.Reached ids expiry
  known : dialogue.gateway.Knows ⟨dialogue.handle, dialogue.client.identity⟩
  spoken : dialogue.client.codec = desk.codec
  sole : ∀ handle, dialogue.gateway.IsAttached handle → handle = dialogue.handle
  replays : Replays desk.codec dialogue.client.identity dialogue.queue
    (dialogue.gateway.stock dialogue.client.identity) dialogue.client.stock
  history : dialogue.arrived ++ dialogue.queue.map (fun letter => .clear letter.meant) =
    dialogue.sent.map .clear

namespace Dialogue.InOrder

variable {dialogue : Dialogue} {desk : Desk} {expiry : Nat}

/-- The client sends a letter that turns its own keys. -/
theorem post (ordered : dialogue.InOrder desk expiry) {client : Client} {letter : Letter}
    (identity : client.identity = dialogue.client.identity)
    (codec : client.codec = dialogue.client.codec)
    (turns : letter.Turns desk.codec dialogue.client.identity dialogue.client.stock client.stock) :
    (dialogue.post client letter).InOrder desk expiry where
  reached := ordered.reached
  known := by
    rw [Dialogue.post, identity]
    exact ordered.known
  spoken := codec.trans ordered.spoken
  sole := ordered.sole
  replays := by
    simp only [Dialogue.post, identity]
    exact ordered.replays.snoc turns
  history := by
    simp only [Dialogue.post, List.map_append, List.map_cons, List.map_nil, ← List.append_assoc,
      ordered.history]

theorem calm (ordered : dialogue.InOrder desk expiry) {after : Gateway}
    (isOpen : after.isOpen dialogue.handle = true) (handle : Handle)
    (attached : dialogue.gateway.IsAttached handle) : after.isOpen handle = true :=
  ordered.sole handle attached ▸ isOpen

theorem acknowledges (ordered : dialogue.InOrder desk expiry) :
    (desk.proceed dialogue .acknowledges).InOrder desk expiry := by
  simp only [Desk.proceed, Client.acknowledge]
  cases staged : dialogue.client.staged with
  | none => exact ordered
  | some key =>
      refine ordered.post rfl rfl ?_
      rw [Client.stock, staged, ordered.spoken]
      exact .acknowledgement key dialogue.client.active

theorem speaks (ordered : dialogue.InOrder desk expiry) (plain : Bytes) :
    (desk.proceed dialogue (.speaks plain)).InOrder desk expiry := by
  have posted (foreign : desk.codec.IsForeign plain) :
      (dialogue.post dialogue.client
        ⟨.application plain, dialogue.client.sealBytes plain⟩).InOrder desk expiry :=
    ordered.post rfl rfl (.application foreign dialogue.client.stock)
  rw [Desk.proceed]
  split
  · next reason read => exact posted (.inl ⟨reason, read⟩)
  · next tag read => exact posted (.inr ⟨tag, read⟩)
  · exact ordered

theorem ends (ordered : dialogue.InOrder desk expiry) :
    (desk.proceed dialogue .ends).InOrder desk expiry := by
  rw [Desk.proceed]
  cases active : dialogue.client.active with
  | none => exact ordered
  | some key =>
      refine ordered.post rfl rfl ?_
      rw [Client.sealBytes_eq_wrap, Client.stock, active, Client.deleteRequest, ordered.spoken]
      exact .deletion dialogue.client.staged key

theorem arrives (ordered : dialogue.InOrder desk expiry) (before : desk.Calms dialogue)
    (after : desk.Calms (desk.proceed dialogue .arrives)) :
    (desk.proceed dialogue .arrives).InOrder desk expiry := by
  have replays := ordered.replays
  have history := ordered.history
  have plain := before.plain
  simp only [Desk.proceed] at after ⊢
  cases waiting : dialogue.queue with
  | nil => exact ordered
  | cons letter queue =>
      rw [waiting] at replays history plain after
      cases replays with
      | cons turns rest =>
          -- The oldest letter turns the keys of the gateway as they are, so it is read under those
          -- under which it was sealed.
          have report := desk.report_clear ordered.known letter.payload
          rw [Desk.verdict_eq_meant turns (plain letter rfl)] at report
          have calm := ordered.calm after.isOpen
          obtain ⟨ids, reached⟩ := ordered.reached
          refine ⟨⟨_, desk.reached_act reached (.clear dialogue.handle letter.payload)⟩,
            desk.knows_act reached _ ordered.known, ordered.spoken, ?_, ?_, ?_⟩
          · exact fun handle attached => ordered.sole handle (Desk.isAttached_of_clear attached)
          · dsimp only
            rw [Desk.stock_clear ordered.known calm turns report]
            exact rest
          · simpa [report] using history

theorem occurs (ordered : dialogue.InOrder desk expiry) (before : desk.Calms dialogue)
    {occurrence : Occurrence} (after : desk.Calms (desk.proceed dialogue (.occurs occurrence))) :
    (desk.proceed dialogue (.occurs occurrence)).InOrder desk expiry := by
  obtain ⟨ids, reached⟩ := ordered.reached
  have stock : (dialogue.gateway.undergo occurrence).stock dialogue.client.identity =
      dialogue.gateway.stock dialogue.client.identity := by
    refine Gateway.stock_undergo reached.sound.own ?_ before.inTime after.inTime
    rintro handle rfl waits
    -- The channel whose close would drop the keys is the only one, and is still open.
    obtain rfl := ordered.sole handle waits.isAttached
    have isOpen : (dialogue.gateway.close dialogue.handle).isOpen dialogue.handle = true :=
      after.isOpen
    rw [Gateway.isOpen_close] at isOpen
    cases isOpen
  exact
    { reached := ⟨_, desk.reached_act reached (.occurs occurrence)⟩
      known := desk.knows_act reached (.occurs occurrence) ordered.known
      spoken := ordered.spoken
      sole := fun handle attached => ordered.sole handle (Gateway.isAttached_of_undergo attached)
      replays := by
        simp only [Desk.proceed, stock]
        exact ordered.replays
      history := ordered.history }

theorem asks (ordered : dialogue.InOrder desk expiry) (positive : 0 < expiry)
    (wordSized : desk.policy.maximum < UInt64.size) (id : Identity) (secure : Bool)
    (remote : SocketAddress) (size : Option UInt32)
    (after : desk.Calms (desk.proceed dialogue (.asks id secure remote size))) :
    (desk.proceed dialogue (.asks id secure remote size)).InOrder desk expiry := by
  obtain ⟨ids, reached⟩ := ordered.reached
  simp only [Desk.proceed] at after ⊢
  split
  · exact ordered
  · next unawaited =>
      rw [if_neg unawaited] at after
      have unacknowledged : ∀ letter ∈ dialogue.queue, letter.meant ≠ .activated := by
        simpa [Dialogue.awaits] using unawaited
      have fetched := desk.fetched wordSized dialogue.gateway ordered.spoken id secure remote size
      obtain ⟨served, knows⟩ := desk.reached_fetch reached dialogue.client id secure remote size
      generalize desk.fetch dialogue.gateway dialogue.client id secure remote size = result
        at fetched served knows after ⊢
      obtain ⟨client, gateway⟩ := result
      obtain ⟨identity, codec⟩ := fetched.same
      have attached (handle : Handle) (attached : gateway.IsAttached handle) :
          dialogue.gateway.IsAttached handle :=
        Gateway.isAttached_of_undergo (fetched.attached attached)
      have replays : Replays desk.codec dialogue.client.identity dialogue.queue
          (gateway.stock dialogue.client.identity) client.stock := by
        rcases fetched.stock (reached.expiry ▸ positive) fun handle attached =>
            ordered.calm after.isOpen handle (Gateway.isAttached_of_undergo attached) with
          ⟨kept, same⟩ | ⟨key, staged, waiting⟩
        · rw [kept, same]
          exact ordered.replays
        · rw [staged, waiting]
          exact ordered.replays.restage unacknowledged (some key)
      exact
        { reached := ⟨_, served⟩
          known := by
            dsimp only
            rw [identity]
            exact knows _ ordered.known
          spoken := codec.trans ordered.spoken
          sole := fun handle still => ordered.sole handle (attached handle still)
          replays := by
            dsimp only
            rw [identity]
            exact replays
          history := ordered.history }

theorem proceed (ordered : dialogue.InOrder desk expiry) (positive : 0 < expiry)
    (wordSized : desk.policy.maximum < UInt64.size) (beat : Beat) (before : desk.Calms dialogue)
    (after : desk.Calms (desk.proceed dialogue beat)) :
    (desk.proceed dialogue beat).InOrder desk expiry := by
  cases beat with
  | asks id secure remote size => exact ordered.asks positive wordSized id secure remote size after
  | acknowledges => exact ordered.acknowledges
  | speaks plain => exact ordered.speaks plain
  | ends => exact ordered.ends
  | arrives => exact ordered.arrives before after
  | occurs occurrence => exact ordered.occurs before after

theorem foldl (ordered : dialogue.InOrder desk expiry) (positive : 0 < expiry)
    (wordSized : desk.policy.maximum < UInt64.size) {beats : List Beat}
    (calm : desk.AllCalm dialogue beats) :
    (beats.foldl desk.proceed dialogue).InOrder desk expiry := by
  induction beats generalizing dialogue with
  | nil => exact ordered
  | cons beat beats induction =>
      exact induction (ordered.proceed positive wordSized beat calm.1 calm.2.head) calm.2

theorem greet (desk : Desk) (entropy : Entropy) (expiry : Nat) (id : Identity) (secure : Bool)
    (remote : SocketAddress) (outlet : Outlet)
    (calm : desk.Calms (desk.greet entropy expiry id secure remote outlet)) :
    (desk.greet entropy expiry id secure remote outlet).InOrder desk expiry := by
  have opened := desk.reached_run entropy expiry [.occurs (.opens id secure remote outlet)]
  have reached := desk.reached_act opened (.attach 0)
  have only {gateway : Gateway} (lists : gateway.Lists [id]) {handle : Handle}
      {connection : Connection Hook} (found : gateway.connections.get? handle = some connection) :
      handle = 0 := by
    have listed := lists.idOf? handle
    rw [Gateway.idOf?, found] at listed
    have bounded := (List.getElem?_eq_some_iff.1 listed.symm).1
    exact Nat.lt_one_iff.1 bounded
  have kept := desk.holding_attach opened (List.pairwise_singleton _ id) 0 (fun other isOpen => by
    rw [Gateway.isOpen, Option.any_eq_true] at isOpen
    obtain ⟨connection, found, -⟩ := isOpen
    rw [only opened.lists found]
    exact calm.isOpen) id
  replace kept : (desk.greet entropy expiry id secure remote outlet).gateway.holding id =
    ⟨none, none⟩ := kept
  have stock : (desk.greet entropy expiry id secure remote outlet).gateway.stock id =
      ⟨none, none⟩ := by
    rw [Gateway.stock, kept]
    rfl
  exact
    { reached := ⟨_, reached⟩
      known := reached.lists.idOf? 0
      spoken := rfl
      sole := by
        rintro handle ⟨connection, identity, found, -⟩
        exact only reached.lists found
      replays := by
        rw [show (desk.greet entropy expiry id secure remote outlet).client.identity = id from rfl,
          stock]
        exact .nil ⟨none, none⟩
      history := rfl }

end Dialogue.InOrder

/-- However a client asks, acknowledges, speaks and ends keys while its messages are in flight, each
that arrives is read as it was meant, in the order in which they were sent; and once all have
arrived, client and gateway hold the same keys. -/
theorem Desk.read_as_meant (desk : Desk) (wordSized : desk.policy.maximum < UInt64.size)
    (entropy : Entropy) {expiry : Nat} (positive : 0 < expiry) (id : Identity) (secure : Bool)
    (remote : SocketAddress) (outlet : Outlet) {beats : List Beat}
    (calm : desk.AllCalm (desk.greet entropy expiry id secure remote outlet) beats) :
    let dialogue := beats.foldl desk.proceed (desk.greet entropy expiry id secure remote outlet)
    dialogue.arrived ++ dialogue.queue.map (fun letter => .clear letter.meant) =
        dialogue.sent.map .clear ∧
      (dialogue.queue = [] →
        dialogue.gateway.stock dialogue.client.identity = dialogue.client.stock) := by
  have greeted := Dialogue.InOrder.greet desk entropy expiry id secure remote outlet calm.head
  have ordered := greeted.foldl positive wordSized calm
  refine ⟨ordered.history, fun done => ?_⟩
  have replays := ordered.replays
  rw [done] at replays
  generalize Gateway.stock _ _ = first at replays ⊢
  cases replays
  rfl

namespace Sample

/-- A client with a fresh gateway. -/
def greeted : Dialogue := Desk.greet {} (.arithmetic 1 1) 30 1 false remote (.record [] false)

/-- A client asks for a key, acknowledges it and speaks; while it is heard it asks for another key,
acknowledges that, speaks, ends it and speaks again before any of this arrives. -/
def beats : List Beat :=
  [.asks 2 true remote (some 1), .acknowledges, .speaks [255], .arrives,
    .asks 3 true remote (some 2), .acknowledges, .speaks [254], .ends, .speaks [253],
    .arrives, .arrives, .arrives, .arrives, .arrives]

def dialogue : Dialogue := beats.foldl (Desk.proceed {}) greeted

theorem dialogue_eq : dialogue = beats.foldl (Desk.proceed {})
    (Desk.greet {} (.arithmetic 1 1) 30 1 false remote (.record [] false)) := rfl

end Sample

/-- Six letters that are sealed under two keys, or not at all, arrive as they were meant. -/
theorem Desk.sample_letters_arrive :
    Sample.dialogue.arrived = [.activated, .application [255], .activated, .application [254],
        .deleted, .application [253]].map .clear ∧
      Sample.dialogue.gateway.stock 1 = Sample.dialogue.client.stock := by
  have wordSized : SizePolicy.standard.maximum < UInt64.size := by decide
  have calm : Desk.AllCalm {} Sample.greeted Sample.beats := by decide +kernel
  have state : (Sample.dialogue.queue.isEmpty, Sample.dialogue.client.identity,
      Sample.dialogue.sent) = (true, 1, [.activated, .application [255], .activated,
        .application [254], .deleted, .application [253]]) := by
    decide +kernel
  rw [Prod.mk.injEq, Prod.mk.injEq, List.isEmpty_iff] at state
  obtain ⟨done, identity, sent⟩ := state
  have read := Desk.read_as_meant {} wordSized (.arithmetic 1 1) (by decide : 0 < 30) 1 false
    Sample.remote (.record [] false) calm
  dsimp only at read
  rw [← Sample.dialogue_eq] at read
  rw [done, sent, identity, List.map_nil, List.append_nil] at read
  exact ⟨read.1, read.2 rfl⟩

end PadRelay
