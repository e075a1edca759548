import PadRelay.Proofs.Exchange.Balance
import PadRelay.Proofs.Gather
import PadRelay.Proofs.Relay.Cleanup

/-!
# What a family reports

As long as every connection is used with one family only, the keys of a family that have become
active or expired are no more than it has issued, and nothing that concerns one family changes the
seven numbers of the other. The number of expired keys that a family reports is not its own, though:
the staged keys are shared, and so is this number.
-/

namespace PadRelay

namespace Desk

open Script (ask)

variable {home : Identity → Family} (desk : Desk) (party : Party) (gateway : Gateway)
  (payload : Bytes)

theorem RelayCall.isSteady {desk : Desk} {request : Call} (call : desk.RelayCall request) :
    request.IsSteady home desk.family := by
  cases call with
  | dress recipient payload => rfl
  | _ => trivial

theorem steady_sendTo (key : ChannelKey) :
    (desk.sendTo key payload).Only (Call.IsSteady home desk.family) :=
  (desk.relayCalls_sendTo key payload).mono fun _ => RelayCall.isSteady

theorem steady_broadcast (group : String) (except : List ChannelKey) :
    (desk.broadcast group payload except).Only (Call.IsSteady home desk.family) :=
  (desk.relayCalls_broadcast group payload except).mono fun _ => RelayCall.isSteady

theorem balances_receive (own : home party.id = desk.family) :
    gateway.Balances home (gateway.lapsing party.id)
      ((desk.receive party payload).run gateway).2 := by
  have handled := desk.balances_handleClear party gateway payload own
  rw [receive, Script.run_bind]
  split
  · rw [Script.run_bind]
    exact handled.calm (.run _ (desk.steady_broadcast _ _ _))
  · exact handled

theorem steady_entryCall {desk : Desk} {party : Party} {request : Call}
    (call : Script.EntryCall desk.family party request) : request.IsSteady home desk.family := by
  cases call <;> trivial

theorem steady_enter (key : ChannelKey) :
    (Script.enter desk.family key party).Only (Call.IsSteady home desk.family) :=
  (Script.entryCalls_enter desk.family party key).mono fun _ => steady_entryCall

theorem steady_join (group : String) :
    (Script.join desk.family group party).Only (Call.IsSteady home desk.family) :=
  (Script.entryCalls_join desk.family party group).mono fun _ => steady_entryCall

theorem steady_accept (own : home party.id = desk.family) :
    (desk.accept party).Only (Call.IsSteady home desk.family) :=
  Script.Only.bind (desk.steady_enter party _) fun _ =>
    Script.Only.bind (desk.steady_join party _) fun _ => desk.steady_attach party own

theorem steady_bind (key : ChannelKey) (identity : Identity) :
    (desk.bind key identity).Only (Call.IsSteady home desk.family) := by
  refine Script.Only.bind (.ask trivial) fun found => ?_
  cases found with
  | some party => exact Script.Only.bind (desk.steady_enter party key) fun _ => trivial
  | none => trivial

theorem countsNothing_receive {family : Family} (different : family ≠ desk.family) :
    (desk.receive party payload).Only (Call.CountsNothing family) := by
  refine Script.Only.bind (desk.countsNothing_handleClear party payload different) fun outcome => ?_
  split
  · exact Script.Only.bind ((desk.steady_broadcast _ _ _).countsNothing different) fun _ => trivial
  · trivial

end Desk

namespace Relay

/-- The family that an act concerns, if it concerns one alone. -/
def Act.family? : Act → Option Family
  | .accept family _ | .receive family _ _ | .request family _ _ | .bind family _ _
  | .sendTo family _ _ | .broadcast family _ _ _ => some family
  | .occurs _ | .shutdown => none

/-- An act uses its connection with the family to which that belongs. -/
def Act.KeepsTo (lane : Handle → Family) : Act → Prop
  | .accept family handle | .receive family handle _ | .request family handle _ =>
      family = lane handle
  | .bind _ _ _ | .sendTo _ _ _ | .broadcast _ _ _ _ | .occurs _ | .shutdown => True

/-- The identities whose keys expire in an act: a message makes the handler look at the staged key of
its channel, and a timer looks at the staging for which it was set. -/
def lapses (gateway : Gateway) : Act → List Identity
  | .receive _ handle _ => (gateway.idOf? handle).toList.flatMap gateway.lapsing
  | .occurs (.rings identity generation) =>
      if gateway.staged.stages identity generation then gateway.lapsing identity else []
  | _ => []

section Step

variable {gateway : Gateway} (policy : SizePolicy)

/-- An act counts nothing of a family that it does not concern. -/
theorem tally_act {family : Family} {act : Act} (apart : act.family? ≠ some family) :
    (Relay.act policy gateway act).tally family = gateway.tally family := by
  have different {other : Family} (concerns : act.family? = some other) : family ≠ other := by
    rintro rfl
    exact apart concerns
  have attended {α : Type} (handle : Handle) {handler : Party → Script α}
      (uncounted : ∀ party, (handler party).Only (Call.CountsNothing family)) :
      (gateway.attend handle handler).2.tally family = gateway.tally family :=
    Gateway.attend_cases (motive := fun after => after.tally family = gateway.tally family) handle
      handler rfl fun party _ _ => gateway.tally_run family (uncounted party)
  cases act with
  | occurs occurrence => exact gateway.tally_undergo occurrence family
  | accept other handle =>
      exact attended handle fun party =>
        ((deskOf policy other).steady_accept party rfl).countsNothing (different rfl)
  | receive other handle payload =>
      exact attended handle fun party =>
        (deskOf policy other).countsNothing_receive party payload (different rfl)
  | request other handle payload =>
      exact attended handle fun party =>
        (deskOf policy other).countsNothing_handleEncrypted party payload (different rfl)
  | bind other key identity =>
      exact gateway.tally_run family
        (((deskOf policy other).steady_bind key identity).countsNothing (different rfl))
  | sendTo other key payload =>
      exact gateway.tally_run family
        (((deskOf policy other).steady_sendTo payload key).countsNothing (different rfl))
  | broadcast other group payload except =>
      exact gateway.tally_run family
        (((deskOf policy other).steady_broadcast payload group except).countsNothing (different rfl))
  | shutdown => exact gateway.tally_shutdown family

/-- Connections are used with the family of their home. -/
def Agree (lane : Handle → Family) (home : Identity → Family) (ids : List Identity) : Prop :=
  ∀ handle identity, ids[handle]? = some identity → home identity = lane handle

/-- Every act balances, with the keys that expire in it. -/
theorem balances_act {home : Identity → Family} {lane : Handle → Family} {ids : List Identity}
    (lists : gateway.Lists ids) (agree : Agree lane home ids) (homed : gateway.Homed home)
    {act : Act} (keeps : act.KeepsTo lane) :
    gateway.Balances home (lapses gateway act) (Relay.act policy gateway act) := by
  have own {family : Family} {party : Party} (known : gateway.Knows party)
      (used : family = lane party.handle) : home party.id = family := by
    have listed : gateway.idOf? party.handle = some party.id := known
    rw [lists.idOf?] at listed
    exact (agree _ _ listed).trans used.symm
  cases act with
  | occurs occurrence =>
      have around : gateway.Balances home (gateway.lapsingIn occurrence)
          (gateway.undergo occurrence) := .undergo gateway occurrence
      cases occurrence <;> exact around
  | accept family handle =>
      refine Gateway.attend_cases (motive := gateway.Balances home []) handle _ (.refl gateway) ?_
      intro party known same
      exact .run gateway ((deskOf policy family).steady_accept party (own known (same ▸ keeps)))
  | receive family handle payload =>
      cases found : gateway.idOf? handle with
      | none =>
          rw [lapses, Relay.act, Gateway.attend_of_absent found, found]
          exact .refl gateway
      | some id =>
          have known : gateway.Knows ⟨handle, id⟩ := found
          rw [lapses, Relay.act, Gateway.attend_of_knows known, found]
          simpa using (deskOf policy family).balances_receive ⟨handle, id⟩ gateway payload
            (own known keeps)
  | request family handle payload =>
      refine Gateway.attend_cases (motive := gateway.Balances home []) handle _ (.refl gateway) ?_
      intro party _ _
      exact (deskOf policy family).balances_handleEncrypted party gateway payload homed
  | bind family key identity =>
      exact .run gateway ((deskOf policy family).steady_bind key identity)
  | sendTo family key payload =>
      exact .run gateway ((deskOf policy family).steady_sendTo payload key)
  | broadcast family group payload except =>
      exact .run gateway ((deskOf policy family).steady_broadcast payload group except)
  | shutdown => exact .shutdown gateway

end Step

section Runs

variable (policy : SizePolicy) (entropy : Entropy) (expiry : Nat) {lane : Handle → Family}
  {acts : List Act}

/-- The identities whose keys expire in a run. -/
def lapsed : Gateway → List Act → List Identity := gather (Relay.act policy) lapses

theorem balances_run {home : Identity → Family}
    (agree : Agree lane home (acts.filterMap Act.opened?))
    (apart : ∀ act ∈ acts, act.KeepsTo lane) :
    (Gateway.fresh entropy expiry).Balances home (lapsed policy (.fresh entropy expiry) acts)
      (run policy (.fresh entropy expiry) acts) := by
  induction acts using List.reverseRecOn with
  | nil => exact .refl _
  | append_singleton acts last induction =>
      have before : Agree lane home (acts.filterMap Act.opened?) := by
        intro handle identity listed
        refine agree handle identity ?_
        rw [List.filterMap_append]
        exact List.getElem?_append_left (List.getElem?_eq_some_iff.1 listed).1 ▸ listed
      have earlier := induction before fun act member => apart act (List.mem_append_left _ member)
      have homed := earlier.homed (Gateway.homed_fresh entropy expiry)
      have lists := (kept_fresh policy entropy expiry acts).lists
      have keeps := apart last (List.mem_append_right _ (List.mem_singleton_self last))
      rw [run_append, lapsed, gather_append]
      exact earlier.trans (balances_act policy lists before homed keeps)

def homeOf (lane : Handle → Family) (acts : List Act) (identity : Identity) : Family :=
  lane ((acts.filterMap Act.opened?).idxOf identity)

theorem agree_homeOf (distinct : (acts.filterMap Act.opened?).Nodup) :
    Agree lane (homeOf lane acts) (acts.filterMap Act.opened?) := by
  intro handle identity listed
  obtain ⟨inside, rfl⟩ := List.getElem?_eq_some_iff.1 listed
  rw [homeOf, distinct.idxOf_getElem]

/-- What the families report, and what an act does to it. -/
structure Metered (lane : Handle → Family) (home : Identity → Family) (lapsed : List Identity)
    (gateway : Gateway) : Prop where
  /-- The keys of a family that became active or have expired are no more than it has issued. -/
  bounded : ∀ family,
    (gateway.metrics family).activated + lapsed.countP (fun identity => home identity = family) ≤
      (gateway.metrics family).issued
  /-- Every family reports the expired keys of both. -/
  expired : ∀ family, (gateway.metrics family).expired = lapsed.length
  /-- Whatever an act stages is issued by the home of its identity. -/
  origin : ∀ act : Act, act.KeepsTo lane → ∀ identity staging,
    (Relay.act policy gateway act).staged.entries.get? identity = some staging →
      gateway.staged.entries.get? identity = some staging ∨
        (gateway.metrics (home identity)).issued <
          ((Relay.act policy gateway act).metrics (home identity)).issued
  /-- An act changes no other number of a family that it does not concern. -/
  own : ∀ (act : Act) (family : Family), act.family? ≠ some family →
    ((Relay.act policy gateway act).metrics family).toTally = (gateway.metrics family).toTally
  /-- A key that expires is counted by every family. -/
  shared : ∀ act : Act, act.KeepsTo lane → ∀ family,
    ((Relay.act policy gateway act).metrics family).expired =
      (gateway.metrics family).expired + (lapses gateway act).length

/-- The families share the number of expired keys, and nothing else. In every run over connections
with distinct identities, each of them used with one family only, the keys of a family that became
active or have expired are no more than it has issued, and nothing that concerns one family changes
the counters of the other, but each reports the expired keys of both. -/
theorem metered_run (distinct : (acts.filterMap Act.opened?).Nodup)
    (apart : ∀ act ∈ acts, act.KeepsTo lane) :
    Metered policy lane (homeOf lane acts) (lapsed policy (.fresh entropy expiry) acts)
      (run policy (.fresh entropy expiry) acts) := by
  have agree : Agree lane (homeOf lane acts) (acts.filterMap Act.opened?) := agree_homeOf distinct
  have balances := balances_run policy entropy expiry agree apart
  have homed := balances.homed (Gateway.homed_fresh entropy expiry)
  have lists := (kept_fresh policy entropy expiry acts).lists
  have step (act : Act) (keeps : act.KeepsTo lane) :=
    balances_act policy lists agree homed keeps
  refine ⟨?_, ?_, ?_, ?_, ?_⟩
  · intro family
    have balance := balances.balance family
    have nothing : ((Gateway.fresh entropy expiry).tally family).activated = 0 ∧
        ((Gateway.fresh entropy expiry).tally family).issued = 0 ∧
        (Gateway.fresh entropy expiry).waiting (homeOf lane acts) family = 0 := by
      cases family <;> exact ⟨rfl, rfl, rfl⟩
    obtain ⟨activated, issued, waiting⟩ := nothing
    rw [activated, issued, waiting] at balance
    simp only [Gateway.metrics, Gateway.tally] at balance ⊢
    omega
  · intro family
    exact balances.expired.trans (Nat.zero_add _)
  · intro act keeps
    exact (step act keeps).origin
  · intro act family different
    exact tally_act policy different
  · intro act keeps family
    exact (step act keeps).expired

end Runs

/-- The client of the sample leaves its key until that expires. -/
def sampleLapse : List Act :=
  sampleActs ++ [.occurs (.passes 30), .occurs (.rings 1 0)]

/-- In the sample the one key that was issued has expired. -/
theorem sample_key_is_metered :
    (sampleLapse.filterMap Act.opened?).Nodup ∧
      (∀ act ∈ sampleLapse, act.KeepsTo fun _ => .socket) ∧
      lapsed .standard Sample.start sampleLapse = [1] ∧
      Metered .standard (fun _ => .socket) (homeOf (fun _ => .socket) sampleLapse) [1]
        (run .standard Sample.start sampleLapse) := by
  have distinct : (sampleLapse.filterMap Act.opened?).Nodup := by decide
  have apart : ∀ act ∈ sampleLapse, act.KeepsTo fun _ => .socket := by
    simp [sampleLapse, sampleActs, Act.KeepsTo]
  have expired : lapsed .standard Sample.start sampleLapse = [1] := by decide +kernel
  exact ⟨distinct, apart, expired,
    expired ▸ metered_run .standard (.arithmetic 1 1) 30 distinct apart⟩

/-- A family that has issued no key reports one that has expired, as soon as the timer of a key of
the other family goes off. -/
theorem exists_foreign_expiry :
    ∃ (lane : Handle → Family) (acts : List Act) (last : Act),
      ((acts ++ [last]).filterMap Act.opened?).Nodup ∧
      (∀ act ∈ acts ++ [last], act.KeepsTo lane) ∧ (∀ handle, lane handle = .socket) ∧
      ((run .standard Sample.start acts).metrics .webSocket).expired = 0 ∧
      ((run .standard Sample.start (acts ++ [last])).metrics .webSocket).expired = 1 ∧
      ((run .standard Sample.start (acts ++ [last])).metrics .webSocket).issued = 0 := by
  refine ⟨fun _ => .socket, sampleActs ++ [.occurs (.passes 30)], .occurs (.rings 1 0), ?_, ?_,
    fun _ => rfl, ?_, ?_, ?_⟩
  · decide
  · simp [sampleActs, Act.KeepsTo]
  · decide +kernel
  · decide +kernel
  · decide +kernel

end Relay

end PadRelay
