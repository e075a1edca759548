import PadRelay.Proofs.Exchange.Fading
import PadRelay.Proofs.Exchange.Fetch

/-!
# Clients and the gateway agree on their keys

Any number of clients ask for keys, acknowledge and delete them, while anything else may come over
any channel, connections close, time passes, and timers go off or do not. As long as nobody else
asks for a client's key or acknowledges it, an active key that both sides hold is the same, and a
key that the gateway has staged and that is in time is the one that the client has staged.
-/

namespace PadRelay

/-- A client and the gateway agree: active keys that both hold are the same, and a key that the
gateway has staged and that is in time is the one that the client has staged. -/
structure Client.Suits (client : Client) (gateway : Gateway) : Prop where
  active : ∀ mine theirs, client.active = some mine →
    gateway.active.get? client.identity = some theirs → mine = theirs
  staged : ∀ held, gateway.staged.live gateway.now client.identity = some held →
    client.staged = some held.key

namespace Client.Suits

variable {client : Client} {before after : Gateway}

theorem fades (suits : client.Suits before) (fades : before.Fades after client.identity) :
    client.Suits after where
  active mine theirs held found := suits.active mine theirs held (fades.active theirs found)
  staged held found := suits.staged held (fades.staged held found)

theorem forget (suits : client.Suits before) : client.forget.Suits before where
  active mine theirs held := by cases held
  staged := suits.staged

theorem of_keyless (keyless : before.Keyless client.identity) : client.Suits before where
  active mine theirs held found := by
    rw [keyless.1] at found
    cases found
  staged held found := by
    rw [StagedKeys.live_of_absent keyless.2.1] at found
    cases found

theorem stageNew (suits : client.Suits before) (key : Key) (entropy : Entropy) :
    Client.Suits { client with staged := some key }
      (before.stageNew client.identity key entropy) where
  active := suits.active
  staged held found := by
    have entry := before.staged.get?_entries_put before.now client.identity client.identity key
    rw [if_pos rfl] at entry
    simp only [Gateway.stageNew, StagedKeys.live, entry, Option.map_eq_some_iff,
      Option.filter_eq_some_iff, Option.some.injEq] at found
    obtain ⟨staging, ⟨rfl, -⟩, rfl⟩ := found
    rfl

/-- A key that was staged on both sides and is now active on both. -/
theorem promote (client : Client) {staging : Staging} {key : Key}
    (same : staging.held.key = key) :
    Client.Suits { client with active := some key, staged := none }
      (before.promote client.identity staging) where
  active mine theirs held found := by
    simp only [Gateway.promote, Table.get?_insert_self, Option.some.injEq] at found
    cases held
    rw [← found, same]
  staged held found := by
    have gone : (before.promote client.identity staging).staged.entries.get? client.identity =
        none := Table.get?_erase_self _ _
    rw [StagedKeys.live_of_absent gone] at found
    cases found

end Client.Suits

/-- What a client that agrees with the gateway has done leaves it agreeing, and no other identity
with a key that it did not have. -/
structure Client.Proceeds (client : Client) (before : Gateway) (expiry : Nat)
    (result : Client × Gateway) : Prop where
  identity : result.1.identity = client.identity
  codec : result.1.codec = client.codec
  settled : result.2.Settled expiry
  knows : ∀ party, before.Knows party → result.2.Knows party
  suits : result.1.Suits result.2
  fades : ∀ other, other ≠ client.identity → before.Fades result.2 other

namespace Desk

variable (desk : Desk)

/-- A client acknowledges its staged key. It has switched to that key, and switches back to plain
text if the answer is not that the gateway has, too. -/
def confirm (gateway : Gateway) (handle : Handle) (client : Client) : Client × Gateway :=
  match client.acknowledge with
  | .error _ => (client, gateway)
  | .ok (payload, switched) =>
      let (report, after) := desk.act gateway (.clear handle payload)
      (if report = .clear .activated then switched else switched.forget, after)

/-- A client ends its active key over its clear channel. -/
def relinquish (gateway : Gateway) (handle : Handle) (client : Client) : Client × Gateway :=
  let (report, after) := desk.act gateway
    (.clear handle (client.sealBytes client.deleteRequest))
  (if report = .clear .deleted then client.forget else client, after)

/-- A client ends its active key over a connection that is made for the request. -/
def relinquishOver (gateway : Gateway) (client : Client) (id : Identity) (secure : Bool)
    (remote : SocketAddress) : Client × Gateway :=
  (client.forget, (desk.act (gateway.dial id secure remote)
    (.encrypted gateway.connections.size client.deleteRequest)).2)

variable {desk} {gateway : Gateway} {handle : Handle} {client : Client} {expiry : Nat}

/-- A connection for a request is made, and the request comes. -/
theorem settled_dialed (desk : Desk) (settled : gateway.Settled expiry) {id : Identity}
    (unused : gateway.Unused id) (secure : Bool) (remote : SocketAddress) (payload : Bytes) :
    (desk.act (gateway.dial id secure remote)
        (.encrypted gateway.connections.size payload)).2.Settled expiry ∧
      ∀ party, gateway.Knows party → (desk.act (gateway.dial id secure remote)
        (.encrypted gateway.connections.size payload)).2.Knows party := by
  obtain ⟨dialed, still⟩ := settled.act desk
    (.occurs (.opens id secure remote (.record [] false))) fun other same => by
      cases same
      exact unused
  obtain ⟨after, known⟩ := dialed.act desk
    (.encrypted gateway.connections.size payload) fun _ impossible => by cases impossible
  exact ⟨after, fun party before => known party (still party before)⟩

theorem proceeds_fetch (wordSized : desk.policy.maximum < UInt64.size)
    (settled : gateway.Settled expiry) (spoken : client.codec = desk.codec)
    (suits : client.Suits gateway) {id : Identity} (unused : gateway.Unused id) (secure : Bool)
    (remote : SocketAddress) (size : Option UInt32) :
    client.Proceeds gateway expiry (desk.fetch gateway client id secure remote size) := by
  have fetched := desk.fetched wordSized gateway spoken id secure remote size
  obtain ⟨after, knows⟩ := settled_dialed desk settled unused secure remote
    (client.newKeyRequest size)
  have dialed (identity : Identity) : gateway.Fades (gateway.dial id secure remote) identity :=
    desk.fades_occurs gateway _ identity
  replace after : (desk.fetch gateway client id secure remote size).2.Settled expiry := after
  replace knows : ∀ party, gateway.Knows party →
    (desk.fetch gateway client id secure remote size).2.Knows party := knows
  generalize desk.fetch gateway client id secure remote size = result at fetched after knows ⊢
  cases fetched with
  | refused drifts =>
      have fades (identity : Identity) := (dialed identity).trans (.of_sheds drifts.sheds)
      exact ⟨rfl, rfl, after, knows, suits.fades (fades _), fun other _ => fades other⟩
  | @issued middle _ key entropy first last =>
      have before (identity : Identity) := (dialed identity).trans (.of_sheds first.sheds)
      refine ⟨rfl, rfl, after, knows, ?_, fun other different => ?_⟩
      · exact ((suits.fades (before _)).stageNew key entropy).fades (.of_sheds last.sheds)
      · exact ((before other).trans (.stageNew_of_ne different key entropy)).trans
          (.of_sheds last.sheds)

/-- The acknowledgement of a client that agrees with the gateway activates the key that both have
staged, or comes too late and leaves both without it. -/
theorem proceeds_confirm (settled : gateway.Settled expiry)
    (known : gateway.Knows ⟨handle, client.identity⟩) (spoken : client.codec = desk.codec)
    (suits : client.Suits gateway) :
    client.Proceeds gateway expiry (desk.confirm gateway handle client) := by
  obtain ⟨codec, identity, active, staged⟩ := client
  subst spoken
  cases staged with
  | none =>
      exact ⟨rfl, rfl, settled, fun _ same => same, suits, fun _ _ => .of_sheds (.refl gateway)⟩
  | some key =>
      obtain ⟨after, knows⟩ := settled.act desk
        (.clear handle (Cipher.transform key (desk.codec.encode (.keyAck identity))))
        fun _ impossible => by cases impossible
      have answered := desk.report_clear known
        (Cipher.transform key (desk.codec.encode (.keyAck identity)))
      simp only [confirm, Client.acknowledge, answered, Report.clear.injEq,
        verdict_eq_activated_iff]
      cases live : gateway.staged.live gateway.now identity with
      | none =>
          have unread : desk.ackUnder? (gateway.keyRing identity).staged
              (Cipher.transform key (desk.codec.encode (.keyAck identity))) ≠ some identity := by
            rw [Gateway.keyRing, live]
            rintro ⟨⟩
          have fades := desk.fades_clear gateway fun id same => by
            cases known.symm.trans same
            exact unread
          have fewer : Client.Suits ⟨desk.codec, identity, none, some key⟩ gateway := suits.forget
          rw [if_neg unread]
          refine ⟨rfl, rfl, after, knows, ⟨(fewer.fades (fades identity)).active,
            fun held found => ?_⟩, fun other _ => fades other⟩
          have before := (fades identity).staged held found
          rw [live] at before
          cases before
      | some held =>
          have same : some key = some held.key := suits.staged held live
          have read : desk.ackUnder? (gateway.keyRing identity).staged
              (Cipher.transform key (desk.codec.encode (.keyAck identity))) = some identity := by
            rw [Gateway.keyRing, live, Option.map_some, ← same]
            exact desk.ackUnder?_acknowledgement key identity
          obtain ⟨middle, staging, found, first, last⟩ := promotes_clear known read
          rw [live, Option.some.injEq] at found
          rw [found, Option.some.injEq] at same
          have promoted : Client.Suits ⟨desk.codec, identity, some key, none⟩
              (middle.promote identity staging) :=
            Client.Suits.promote ⟨desk.codec, identity, active, some key⟩ same.symm
          rw [if_pos read]
          refine ⟨rfl, rfl, after, knows, promoted.fades (.of_sheds last),
            fun other different => ?_⟩
          exact ((Gateway.Fades.of_sheds first).trans (.promote_of_ne different staging)).trans
            (.of_sheds last)

theorem proceeds_relinquish (settled : gateway.Settled expiry)
    (known : gateway.Knows ⟨handle, client.identity⟩) (suits : client.Suits gateway)
    (unread : desk.ackUnder? (gateway.keyRing client.identity).staged
      (client.sealBytes client.deleteRequest) = none) :
    client.Proceeds gateway expiry (desk.relinquish gateway handle client) := by
  obtain ⟨after, knows⟩ := settled.act desk
    (.clear handle (client.sealBytes client.deleteRequest))
    fun _ impossible => by cases impossible
  have fades (identity : Identity) : gateway.Fades (desk.act gateway
      (.clear handle (client.sealBytes client.deleteRequest))).2 identity := by
    refine desk.fades_clear gateway (fun id same => ?_) identity
    cases known.symm.trans same
    rw [unread]
    rintro ⟨⟩
  unfold relinquish
  dsimp only
  split
  · exact ⟨rfl, rfl, after, knows, suits.forget.fades (fades _), fun other _ => fades other⟩
  · exact ⟨rfl, rfl, after, knows, suits.fades (fades _), fun other _ => fades other⟩

theorem proceeds_relinquishOver (settled : gateway.Settled expiry)
    (spoken : client.codec = desk.codec) (suits : client.Suits gateway) {id : Identity}
    (unused : gateway.Unused id) (secure : Bool) (remote : SocketAddress) :
    client.Proceeds gateway expiry (desk.relinquishOver gateway client id secure remote) := by
  obtain ⟨after, knows⟩ := settled_dialed desk settled unused secure remote
    client.deleteRequest
  have read : desk.codec.decode client.deleteRequest =
      .ok (.keyRequest (.deleteKey client.identity)) := by
    rw [Client.deleteRequest, spoken]
    exact Codec.decode_encode (desk.codec.carries_keyRequest _)
  have fades (identity : Identity) :
      gateway.Fades (desk.relinquishOver gateway client id secure remote).2 identity := by
    refine (desk.fades_occurs gateway _ identity).trans (fades_encrypted fun requested asked => ?_)
    rw [read] at asked
    cases asked
  exact ⟨rfl, rfl, after, knows, suits.forget.fades (fades _), fun other _ => fades other⟩

end Desk

/-- The gateway and its clients, each under the handle of its clear channel. -/
structure Company where
  gateway : Gateway
  clients : Table Handle Client := ∅

/-- What happens in a company. -/
inductive Deed where
  /-- A client connects, is taken in and welcomed. -/
  | joins (id : Identity) (secure : Bool) (remote : SocketAddress) (outlet : Outlet)
  /-- A client asks for a key over a connection that is made for the request. -/
  | asks (handle : Handle) (id : Identity) (secure : Bool) (remote : SocketAddress)
      (size : Option UInt32)
  /-- A client acknowledges its staged key. -/
  | acknowledges (handle : Handle)
  /-- A client ends its active key over its clear channel. -/
  | ends (handle : Handle)
  /-- A client ends its active key over a connection that is made for the request. -/
  | revokes (handle : Handle) (id : Identity) (secure : Bool) (remote : SocketAddress)
  /-- Anything comes over a clear channel. -/
  | clear (handle : Handle) (payload : Bytes)
  /-- Anything comes over a connection as the request of an encrypted channel. -/
  | encrypted (handle : Handle) (payload : Bytes)
  /-- Connections are made and closed, outlets change, time passes and timers go off. -/
  | occurs (occurrence : Occurrence)

/-- The company after the client under a handle, if there is one, has done something. -/
def Company.consult (company : Company) (handle : Handle) (work : Client → Client × Gateway) :
    Company :=
  match company.clients.get? handle with
  | none => company
  | some client =>
      let (client, gateway) := work client
      { gateway, clients := company.clients.insert handle client }

namespace Desk

variable (desk : Desk)

/-- The company after a deed. -/
def carryOut (company : Company) : Deed → Company
  | .joins id secure remote outlet =>
      let handle := company.gateway.connections.size
      { gateway :=
          desk.run company.gateway [.occurs (.opens id secure remote outlet), .attach handle]
        clients := company.clients.insert handle { codec := desk.codec, identity := id } }
  | .asks handle id secure remote size => company.consult handle fun client =>
      desk.fetch company.gateway client id secure remote size
  | .acknowledges handle => company.consult handle (desk.confirm company.gateway handle)
  | .ends handle => company.consult handle (desk.relinquish company.gateway handle)
  | .revokes handle id secure remote => company.consult handle fun client =>
      desk.relinquishOver company.gateway client id secure remote
  | .clear handle payload =>
      { company with gateway := (desk.act company.gateway (.clear handle payload)).2 }
  | .encrypted handle payload =>
      { company with gateway := (desk.act company.gateway (.encrypted handle payload)).2 }
  | .occurs occurrence => { company with gateway := company.gateway.undergo occurrence }

/-- Nobody but a client itself asks for its key or acknowledges it, and new connections have
identities that were never used. The deletion by which a client ends its key must not read as an
acknowledgement either. -/
def Fair (company : Company) : Deed → Prop
  | .joins id _ _ _ | .asks _ id _ _ _ | .revokes _ id _ _ => company.gateway.Unused id
  | .acknowledges _ => True
  | .ends handle =>
      ∀ client, company.clients.get? handle = some client →
        desk.ackUnder? (company.gateway.keyRing client.identity).staged
          (client.sealBytes client.deleteRequest) = none
  | .clear handle payload =>
      ∀ id, company.gateway.idOf? handle = some id →
        desk.ackUnder? (company.gateway.keyRing id).staged payload = none
  | .encrypted _ payload =>
      ∀ handle client, company.clients.get? handle = some client → ∀ requested,
        desk.codec.decode payload ≠ .ok (.keyRequest (.newKey client.identity requested))
  | .occurs occurrence => ∀ id, occurrence.opened? = some id → company.gateway.Unused id

/-- Whether every deed of a run is fair. -/
def AllFair (company : Company) : List Deed → Prop
  | [] => True
  | deed :: deeds => desk.Fair company deed ∧ AllFair (desk.carryOut company deed) deeds

end Desk

/-- Every client is known under its handle and agrees with the gateway. -/
structure Company.Agrees (company : Company) (desk : Desk) (expiry : Nat) : Prop where
  settled : company.gateway.Settled expiry
  knows : ∀ handle client, company.clients.get? handle = some client →
    company.gateway.Knows ⟨handle, client.identity⟩
  spoken : ∀ handle client, company.clients.get? handle = some client → client.codec = desk.codec
  suits : ∀ handle client, company.clients.get? handle = some client →
    client.Suits company.gateway

namespace Company.Agrees

variable {company : Company} {desk : Desk} {expiry : Nat}

/-- Whatever happens on the gateway, if it stages and activates no client's key. -/
theorem of_fades (agrees : company.Agrees desk expiry) {after : Gateway}
    (settled : after.Settled expiry)
    (knows : ∀ party, company.gateway.Knows party → after.Knows party)
    (fades : ∀ handle client, company.clients.get? handle = some client →
      company.gateway.Fades after client.identity) :
    Company.Agrees ⟨after, company.clients⟩ desk expiry where
  settled := settled
  knows handle client found := knows _ (agrees.knows handle client found)
  spoken := agrees.spoken
  suits handle client found := (agrees.suits handle client found).fades (fades handle client found)

/-- One client changes, and no other client's key is staged or activated. -/
theorem insert (agrees : company.Agrees desk expiry) {after : Gateway}
    (settled : after.Settled expiry)
    (knows : ∀ party, company.gateway.Knows party → after.Knows party) {handle : Handle}
    {client : Client} (known : after.Knows ⟨handle, client.identity⟩)
    (spoken : client.codec = desk.codec) (suits : client.Suits after)
    (fades : ∀ other, other ≠ client.identity → company.gateway.Fades after other) :
    Company.Agrees ⟨after, company.clients.insert handle client⟩ desk expiry where
  settled := settled
  knows other held found := by
    rw [Table.get?_insert] at found
    split at found
    · next same =>
        cases found
        exact same ▸ known
    · exact knows _ (agrees.knows other held found)
  spoken other held found := by
    rw [Table.get?_insert] at found
    split at found
    · cases found
      exact spoken
    · exact agrees.spoken other held found
  suits other held found := by
    rw [Table.get?_insert] at found
    split at found
    · cases found
      exact suits
    · next different =>
        refine (agrees.suits other held found).fades (fades _ fun same => different ?_)
        have there := knows _ (agrees.knows other held found)
        rw [same] at there
        exact settled.handle_eq there known

/-- A client does something that leaves it with its identity. -/
theorem consult (agrees : company.Agrees desk expiry) (handle : Handle)
    {work : Client → Client × Gateway}
    (step : ∀ client, company.clients.get? handle = some client →
      client.Proceeds company.gateway expiry (work client)) :
    (company.consult handle work).Agrees desk expiry := by
  rw [Company.consult]
  cases found : company.clients.get? handle with
  | none => exact agrees
  | some client =>
      have proceeds := step client found
      refine agrees.insert proceeds.settled proceeds.knows ?_
        (proceeds.codec.trans (agrees.spoken handle client found)) proceeds.suits
        (proceeds.identity.symm ▸ proceeds.fades)
      rw [proceeds.identity]
      exact proceeds.knows _ (agrees.knows handle client found)

/-- A fair deed leaves every client agreeing with the gateway. -/
theorem carryOut (agrees : company.Agrees desk expiry)
    (wordSized : desk.policy.maximum < UInt64.size) {deed : Deed} (fair : desk.Fair company deed) :
    (desk.carryOut company deed).Agrees desk expiry := by
  have settled := agrees.settled
  cases deed with
  | joins id secure remote outlet =>
      have unused : company.gateway.Unused id := fair
      obtain ⟨opened, still⟩ := settled.act desk
        (.occurs (.opens id secure remote outlet)) fun other same => by
          cases same
          exact unused
      obtain ⟨after, known⟩ := opened.act desk (.attach company.gateway.connections.size)
        fun _ impossible => by cases impossible
      have fades (identity : Identity) := (desk.fades_occurs company.gateway
        (.opens id secure remote outlet) identity).trans
          (desk.fades_attach _ company.gateway.connections.size identity)
      have here : (company.gateway.undergo (.opens id secure remote outlet)).Knows
          ⟨company.gateway.connections.size, id⟩ := by
        simp [Gateway.Knows, Gateway.idOf?, Gateway.undergo, Gateway.enroll]
      have suits : Client.Suits { codec := desk.codec, identity := id } company.gateway :=
        .of_keyless (settled.keyless unused)
      exact agrees.insert after (fun party before => known party (still party before))
        (known _ here) rfl (suits.fades (fades id)) fun other _ => fades other
  | asks handle id secure remote size =>
      exact agrees.consult handle fun client found =>
        Desk.proceeds_fetch wordSized settled (agrees.spoken handle client found)
          (agrees.suits handle client found) fair secure remote size
  | acknowledges handle =>
      exact agrees.consult handle fun client found =>
        Desk.proceeds_confirm settled (agrees.knows handle client found)
          (agrees.spoken handle client found) (agrees.suits handle client found)
  | ends handle =>
      exact agrees.consult handle fun client found =>
        Desk.proceeds_relinquish settled (agrees.knows handle client found)
          (agrees.suits handle client found) (fair client found)
  | revokes handle id secure remote =>
      exact agrees.consult handle fun client found =>
        Desk.proceeds_relinquishOver settled (agrees.spoken handle client found)
          (agrees.suits handle client found) fair secure remote
  | clear handle payload =>
      obtain ⟨after, knows⟩ := settled.act desk (.clear handle payload)
        fun _ impossible => by cases impossible
      refine agrees.of_fades after knows fun _ client _ =>
        desk.fades_clear company.gateway (fun id same => ?_) _
      rw [fair id same]
      rintro ⟨⟩
  | encrypted handle payload =>
      obtain ⟨after, knows⟩ := settled.act desk (.encrypted handle payload)
        fun _ impossible => by cases impossible
      exact agrees.of_fades after knows fun other client found =>
        Desk.fades_encrypted (fair other client found)
  | occurs occurrence =>
      obtain ⟨after, knows⟩ := settled.act desk (.occurs occurrence) fair
      exact agrees.of_fades after knows fun _ client _ => desk.fades_occurs _ occurrence _

end Company.Agrees

/-- Every run of fair deeds leaves every client agreeing with the gateway. -/
theorem Desk.agrees_of_allFair {desk : Desk} (wordSized : desk.policy.maximum < UInt64.size)
    {expiry : Nat} {deeds : List Deed} {company : Company} (agrees : company.Agrees desk expiry)
    (fair : desk.AllFair company deeds) :
    (deeds.foldl desk.carryOut company).Agrees desk expiry := by
  induction deeds generalizing company with
  | nil => exact agrees
  | cons deed deeds induction => exact induction (agrees.carryOut wordSized fair.1) fair.2

/-- After every run of fair deeds, an active key that a client and the gateway both hold is the
same, and a staged key in time is the one that the client has staged. -/
theorem Desk.clients_agree (desk : Desk) (wordSized : desk.policy.maximum < UInt64.size)
    (entropy : Entropy) (expiry : Nat) {deeds : List Deed}
    (fair : desk.AllFair { gateway := .fresh entropy expiry } deeds) {handle : Handle}
    {client : Client}
    (found : (deeds.foldl desk.carryOut { gateway := .fresh entropy expiry }).clients.get? handle =
      some client) :
    let gateway := (deeds.foldl desk.carryOut { gateway := .fresh entropy expiry }).gateway
    (∀ mine theirs, client.active = some mine →
        gateway.active.get? client.identity = some theirs → mine = theirs) ∧
      ∀ held, gateway.staged.live gateway.now client.identity = some held →
        client.staged = some held.key := by
  have start : Company.Agrees { gateway := .fresh entropy expiry } desk expiry :=
    ⟨.fresh entropy expiry, (fun _ _ found => by cases found), (fun _ _ found => by cases found),
      (fun _ _ found => by cases found)⟩
  have suits := (agrees_of_allFair wordSized start fair).suits handle client found
  exact ⟨suits.active, suits.staged⟩

namespace Sample

/-- A client joins, asks for a key of one byte over a second connection, and acknowledges it. -/
def deeds : List Deed :=
  [.joins 1 false remote (.record [] false), .asks 0 2 true remote (some 1), .acknowledges 0]

end Sample

/-- The client of the sample run and the gateway hold the same active key. -/
theorem Desk.sample_client_agrees :
    ∃ client theirs,
      (Sample.deeds.foldl (Desk.carryOut {}) { gateway := Sample.start }).clients.get? 0 =
          some client ∧
        (Sample.deeds.foldl (Desk.carryOut {}) { gateway := Sample.start }).gateway.active.get?
          client.identity = some theirs ∧ client.active = some theirs := by
  have unused {gateway : Gateway} {id : Identity}
      (absent : ∀ entry ∈ gateway.connections.entries, entry.2.id ≠ id) : gateway.Unused id := by
    intro handle same
    rw [Gateway.idOf?, Option.map_eq_some_iff] at same
    obtain ⟨connection, found, owner⟩ := same
    exact absent _ ((Table.get?_eq_some_iff _ _ _).1 found) owner
  have fair : Desk.AllFair {} { gateway := Sample.start } Sample.deeds :=
    And.intro (unused (by decide +kernel))
      (And.intro (unused (by decide +kernel)) (And.intro trivial trivial))
  have wordSized : SizePolicy.standard.maximum < UInt64.size := by decide
  have client_state : ((Sample.deeds.foldl (Desk.carryOut {})
      { gateway := Sample.start }).clients.get? 0).map (fun client =>
        (client.identity, client.active)) = some (1, some Sample.key) := by
    decide +kernel
  have gateway_state : ((Sample.deeds.foldl (Desk.carryOut {})
      { gateway := Sample.start }).gateway.active.get? 1).isSome = true := by
    decide +kernel
  obtain ⟨client, found, same⟩ := Option.map_eq_some_iff.1 client_state
  obtain ⟨theirs, active⟩ := Option.isSome_iff_exists.1 gateway_state
  obtain ⟨owner, mine⟩ := Prod.mk.inj same
  rw [← owner] at active
  have equal := (Desk.clients_agree {} wordSized (.arithmetic 1 1) 30 fair found).1 _ _ mine active
  exact ⟨client, theirs, found, active, equal ▸ mine⟩

end PadRelay
