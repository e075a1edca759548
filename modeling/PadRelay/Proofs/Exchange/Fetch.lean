import PadRelay.Proofs.Client
import PadRelay.Proofs.Exchange.Issuing
import PadRelay.Proofs.Exchange.Run

/-!
# How a client comes by a key

A client asks for a key over a connection that is made for the request, and hears the last payload
that was handed to it. It stages a key exactly if the gateway has staged that very key for it.
-/

namespace PadRelay

/-- An open recording connection keeps whatever it is handed. -/
theorem Mouth.pushAll_record (sent payloads : List Bytes) :
    Mouth.pushAll ⟨.record sent false, true⟩ payloads =
      ⟨.record (sent ++ payloads) false, true⟩ := by
  induction payloads generalizing sent with
  | nil => simp [pushAll]
  | cons payload payloads induction => simpa [pushAll, push] using induction (sent ++ [payload])

namespace Gateway

/-- The payload that a recording connection was handed last. -/
def lastSent? (gateway : Gateway) (handle : Handle) : Option Bytes :=
  (gateway.connections.get? handle).bind fun connection => connection.sent.getLast?

theorem lastSent?_of_mouthOf? {gateway : Gateway} {handle : Handle} {sent : List Bytes}
    {failing isOpen : Bool}
    (mouth : gateway.mouthOf? handle = some ⟨.record sent failing, isOpen⟩) :
    gateway.lastSent? handle = sent.getLast? := by
  rw [mouthOf?, Option.map_eq_some_iff] at mouth
  obtain ⟨connection, found, shape⟩ := mouth
  simp only [Connection.mouth, Mouth.mk.injEq] at shape
  simp [lastSent?, found, Connection.sent, shape.1]

/-- A recording connection is made. -/
def dial (gateway : Gateway) (id : Identity) (secure : Bool) (remote : SocketAddress) : Gateway :=
  gateway.undergo (.opens id secure remote (.record [] false))

variable (gateway : Gateway) (id : Identity) (secure : Bool) (remote : SocketAddress)

theorem knows_dial : (gateway.dial id secure remote).Knows ⟨gateway.connections.size, id⟩ := by
  simp [Knows, idOf?, dial, undergo, enroll]

theorem mouthOf?_dial : (gateway.dial id secure remote).mouthOf? gateway.connections.size =
    some ⟨.record [] false, true⟩ := by
  simp [mouthOf?, dial, undergo, enroll]
  rfl

end Gateway

theorem SizePolicy.isWord_of_resolve {policy : SizePolicy} {requested : Option UInt32} {size : Nat}
    (wordSized : policy.maximum < UInt64.size) (resolved : policy.resolve requested = .ok size) :
    size < UInt64.size := by
  have valid := SizePolicy.validate_of_resolve resolved
  exact Nat.lt_of_le_of_lt ((SizePolicy.validate_eq_ok_iff _ _ _).1 valid).2.2 wordSized

/-- What comes of asking for a key, from the gateway on which the connection for it was made. -/
inductive Client.Fetched (client : Client) (dialed : Gateway) : Client × Gateway → Prop
  | refused {after : Gateway} (drifts : dialed.Drifts after) : Fetched client dialed (client, after)
  | issued {middle after : Gateway} {key : Key} {entropy : Entropy} (first : dialed.Drifts middle)
      (last : (middle.stageNew client.identity key entropy).Drifts after) :
      Fetched client dialed ({ client with staged := some key }, after)

namespace Desk

variable (desk : Desk)

/-- A client asks for a key over a connection that is made for the request, and hears what it was
handed. -/
def fetch (gateway : Gateway) (client : Client) (id : Identity) (secure : Bool)
    (remote : SocketAddress) (size : Option UInt32) : Client × Gateway :=
  let channel := gateway.connections.size
  let (_, after) := desk.act (gateway.dial id secure remote)
    (.encrypted channel (client.newKeyRequest size))
  (client.hear (after.lastSent? channel), after)

theorem fetched (wordSized : desk.policy.maximum < UInt64.size) (gateway : Gateway)
    {client : Client} (spoken : client.codec = desk.codec) (id : Identity) (secure : Bool)
    (remote : SocketAddress) (size : Option UInt32) :
    client.Fetched (gateway.dial id secure remote)
      (desk.fetch gateway client id secure remote size) := by
  have known := gateway.knows_dial id secure remote
  have mouth := gateway.mouthOf?_dial id secure remote
  have asks : desk.codec.decode (client.newKeyRequest size) =
      .ok (.keyRequest (.newKey client.identity size)) := by
    rw [Client.newKeyRequest, spoken]
    exact Codec.decode_encode (desk.codec.carries_keyRequest _)
  unfold fetch
  simp only [act, Gateway.attend_of_knows known]
  generalize gateway.dial id secure remote = dialed at known mouth ⊢
  have answer := desk.answer_handleEncrypted ⟨gateway.connections.size, id⟩ dialed
    (client.newKeyRequest size)
  have effect := desk.effect_handleEncrypted ⟨gateway.connections.size, id⟩
    (client.newKeyRequest size) dialed known
  have handed := desk.mouthOf?_handleEncrypted ⟨gateway.connections.size, id⟩ dialed
    (client.newKeyRequest size)
  rw [mouth, Option.map_some, Mouth.pushAll_record, Script.sentTo] at handed
  have heard := Gateway.lastSent?_of_mouthOf? handed
  rw [heard, List.nil_append]
  generalize (desk.handleEncrypted ⟨gateway.connections.size, id⟩
    (client.newKeyRequest size)).written dialed = written at answer
  generalize (desk.handleEncrypted ⟨gateway.connections.size, id⟩
    (client.newKeyRequest size)).sent dialed = sent at answer ⊢
  generalize (desk.handleEncrypted ⟨gateway.connections.size, id⟩
    (client.newKeyRequest size)).run dialed = result at answer effect ⊢
  obtain ⟨outcome, after⟩ := result
  dsimp only at answer ⊢
  cases answer with
  | refused code denied =>
      cases effect with
      | idle failure drifts =>
          simp only [List.filter_cons, decide_true, if_true, List.filter_nil, List.map_cons,
            List.map_nil, List.getLast?_singleton, ← spoken, Client.hear_keyFailure]
          exact .refused drifts
  | dropped code denied =>
      cases effect with
      | idle failure drifts => exact .refused drifts
  | @issued target requested size key rest grants resolved drawn =>
      cases effect with
      | idle failure drifts => cases failure
      | issued asked allowed first attached drawn_later last =>
          cases asks.symm.trans grants.asked
          cases asks.symm.trans asked
          cases resolved.symm.trans allowed
          rw [first.sheds.entropy] at drawn_later
          cases drawn.symm.trans drawn_later
          obtain ⟨other, left, again, sized⟩ := Key.generate_of_resolve resolved dialed.entropy
          cases drawn.symm.trans again
          have short : key.size < UInt64.size :=
            sized ▸ SizePolicy.isWord_of_resolve wordSized resolved
          simp only [List.filter_cons, decide_true, if_true, List.filter_nil, List.map_cons,
            List.map_nil, List.getLast?_singleton, ← spoken, client.hear_issued short]
          exact .issued first last
  | revoked asked other keyless => cases asked.symm.trans asks

theorem reached_fetch {gateway : Gateway} {ids : List Identity} {expiry : Nat}
    (reached : gateway.Reached ids expiry) (client : Client) (id : Identity) (secure : Bool)
    (remote : SocketAddress) (size : Option UInt32) :
    (desk.fetch gateway client id secure remote size).2.Reached (ids ++ [id]) expiry ∧
      ∀ party, gateway.Knows party →
        (desk.fetch gateway client id secure remote size).2.Knows party := by
  let opened : Act := .occurs (.opens id secure remote (.record [] false))
  let asked : Act := .encrypted gateway.connections.size (client.newKeyRequest size)
  have dialed := desk.reached_act reached opened
  constructor
  · rw [← List.append_nil (ids ++ [id])]
    exact desk.reached_act dialed asked
  · exact fun party known => desk.knows_act dialed asked (desk.knows_act reached opened known)

end Desk

end PadRelay
