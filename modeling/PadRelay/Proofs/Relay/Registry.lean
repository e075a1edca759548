import Mathlib.Data.List.Induction
import PadRelay.Proofs.Exchange.Run
import PadRelay.Proofs.Gateway.Log
import PadRelay.Proofs.Gather

/-!
# Runs of the registry

The registry of a family is its directory together with the connections whose close it watches.
Connections are entered, taken out, put into groups and closed in any order, before or after their
close, and again after they were taken out. All the while the directory holds what was asked of it
and not undone since, as far as it is open.
-/

namespace PadRelay

namespace Registry

open Directory (Edit)

/-- What is asked of a registry, or happens around it. -/
inductive Act where
  /-- Something happens around the registry. -/
  | occurs (occurrence : Occurrence)
  /-- A connection is entered under a key. -/
  | put (key : ChannelKey) (handle : Handle)
  /-- A key is taken out. -/
  | remove (key : ChannelKey)
  /-- A connection joins a group. -/
  | join (group : String) (handle : Handle)
  /-- A connection leaves a group. -/
  | leave (group : String) (id : Identity)
  /-- Everything of a connection is taken out. -/
  | unregister (id : Identity)
  /-- Every connection with a key or a group is closed. -/
  | closeAll

/-- The identity of the connection that is made. -/
def Act.opened? : Act → Option Identity
  | .occurs occurrence => occurrence.opened?
  | _ => none

/-- Perform an act. A handle without a connection is ignored. -/
def act (family : Family) (gateway : Gateway) : Act → Gateway
  | .occurs occurrence => gateway.undergo occurrence
  | .put key handle => (gateway.attend handle (Script.enter family key)).2
  | .remove key => (gateway.onDirectory family fun directory => directory.remove key).2
  | .join group handle => (gateway.attend handle (Script.join family group)).2
  | .leave group id => (gateway.onDirectory family fun directory => directory.leave group id).2
  | .unregister id => (gateway.onDirectory family fun directory => directory.forget id).2
  | .closeAll => gateway.closeEach (gateway.layer family).directory.connections

def edit? (gateway : Gateway) : Act → Option (Edit ChannelKey)
  | .put key handle => (gateway.idOf? handle).map fun id => .put key ⟨handle, id⟩
  | .remove key => some (.remove key)
  | .join group handle => (gateway.idOf? handle).map fun id => .join group ⟨handle, id⟩
  | .leave group id => some (.leave group id)
  | .unregister id => some (.unregister id)
  | .occurs _ | .closeAll => none

/-- Perform acts one after the other. -/
def run (family : Family) (start : Gateway) (acts : List Act) : Gateway :=
  acts.foldl (act family) start

/-- The edits that the acts of a run ask for, in order. -/
def log (family : Family) : Gateway → List Act → List (Edit ChannelKey) :=
  gather (act family) fun gateway act => (edit? gateway act).toList

theorem run_append (family : Family) (start : Gateway) (acts : List Act) (last : Act) :
    run family start (acts ++ [last]) = act family (run family start acts) last := by
  simp [run]

theorem log_append (family : Family) (start : Gateway) (acts : List Act) (last : Act) :
    log family start (acts ++ [last]) =
      log family start acts ++ (edit? (run family start acts) last).toList :=
  gather_append _ _ _ _ _

/-- What every run keeps: the connections made so far are those of the list, nothing is kept without
a hook, and the directory holds what the log says. -/
structure Kept (family : Family) (ids : List Identity) (log : List (Edit ChannelKey))
    (gateway : Gateway) : Prop where
  lists : gateway.Lists ids
  sound : gateway.Sound [] none
  logged : gateway.Logged family log

section Step

variable {family : Family} {ids : List Identity} {log : List (Edit ChannelKey)}
  {gateway after : Gateway}

/-- Something happens that asks for no edit. -/
theorem Kept.keep (kept : Kept family ids log gateway) {now : List Identity}
    (lists : after.Lists now) (sound : after.Sound [] none)
    (revises : gateway.Revises family id after) (distinct : now.Nodup) :
    Kept family now log after :=
  ⟨lists, sound, kept.logged.keep revises sound lists distinct⟩

theorem Kept.edit (kept : Kept family ids log gateway) (edit : Edit ChannelKey)
    (brings : ∀ party, edit.party? = some party → gateway.Knows party)
    (keeps : gateway.Keeps after) (sound : after.Sound [] none)
    (revises : gateway.Revises family edit.apply after) (distinct : ids.Nodup) :
    Kept family ids (log ++ [edit]) after :=
  have lists := kept.lists.keeps keeps
  ⟨lists, sound, kept.logged.edit edit brings revises sound lists distinct⟩

theorem Kept.shrink (kept : Kept family ids log gateway) {α : Type}
    (work : Directory ChannelKey → α × Directory ChannelKey) (edit : Edit ChannelKey)
    (worked : ∀ directory, (work directory).2 = edit.apply directory)
    (nothing : edit.party? = none) (distinct : ids.Nodup) :
    Kept family ids (log ++ [edit]) (gateway.onDirectory family work).2 := by
  exact kept.edit edit (by simp [nothing]) (.of_eq (by simp))
    (kept.sound.edit kept.logged.indexed edit worked nothing) (.edit edit worked) distinct

/-- A connection is brought in, if there is one under the handle. -/
theorem Kept.attend (kept : Kept family ids log gateway) {α : Type} (handle : Handle)
    {handler : Party → Script α} (edit : Party → Edit ChannelKey)
    (brings : ∀ party, (edit party).party? = some party)
    (sound : ∀ party, gateway.Knows party → ((handler party).run gateway).2.Sound [] none)
    (revises : ∀ party, gateway.Knows party →
      gateway.Revises family (edit party).apply ((handler party).run gateway).2)
    (distinct : ids.Nodup) :
    Kept family ids
      (log ++ ((gateway.idOf? handle).map fun id => edit ⟨handle, id⟩).toList)
      (gateway.attend handle handler).2 := by
  cases found : gateway.idOf? handle with
  | none =>
      rw [Gateway.attend_of_absent found]
      simpa using kept
  | some id =>
      have known : gateway.Knows ⟨handle, id⟩ := found
      rw [Gateway.attend_of_knows known]
      refine kept.edit (edit ⟨handle, id⟩) ?_ (Gateway.keeps_run _ _) (sound _ known)
        (revises _ known) distinct
      intro party brought
      rw [brings] at brought
      exact Option.some.inj brought ▸ known

/-- Every act keeps what runs keep. -/
theorem Kept.act (kept : Kept family ids log gateway) (act : Act)
    (distinct : (ids ++ act.opened?.toList).Nodup) :
    Kept family (ids ++ act.opened?.toList) (log ++ (edit? gateway act).toList)
      (Registry.act family gateway act) := by
  have sound := kept.sound
  cases act with
  | occurs occurrence =>
      simp only [edit?, Option.toList_none, List.append_nil]
      exact kept.keep (kept.lists.undergo occurrence) (sound.undergo kept.lists occurrence)
        (.undergo sound kept.lists occurrence) distinct
  | put key handle =>
      simp only [Act.opened?, Option.toList_none, List.append_nil] at distinct ⊢
      exact kept.attend handle (fun party => .put key party) (fun _ => rfl)
        (fun party known => sound.enter family key known)
        (fun party known => .enter known key) distinct
  | remove key =>
      simp only [Act.opened?, Option.toList_none, List.append_nil] at distinct ⊢
      exact kept.shrink _ (.remove key) (fun _ => rfl) rfl distinct
  | join group handle =>
      simp only [Act.opened?, Option.toList_none, List.append_nil] at distinct ⊢
      exact kept.attend handle (fun party => .join group party) (fun _ => rfl)
        (fun party known => sound.join family group known)
        (fun party known => .join known group) distinct
  | leave group id =>
      simp only [Act.opened?, Option.toList_none, List.append_nil] at distinct ⊢
      exact kept.shrink _ (.leave group id) (fun _ => rfl) rfl distinct
  | unregister id =>
      simp only [Act.opened?, Option.toList_none, List.append_nil] at distinct ⊢
      exact kept.shrink _ (.unregister id) (fun _ => rfl) rfl distinct
  | closeAll =>
      simp only [Act.opened?, edit?, Option.toList_none, List.append_nil] at distinct ⊢
      exact kept.keep (kept.lists.keeps (.closeEach gateway _)) (sound.closeEach _)
        (.closeEach sound _) distinct

end Step

theorem kept_run (family : Family) (entropy : Entropy) (expiry : Nat) (acts : List Act)
    (distinct : (acts.filterMap Act.opened?).Nodup) :
    Kept family (acts.filterMap Act.opened?) (log family (.fresh entropy expiry) acts)
      (run family (.fresh entropy expiry) acts) := by
  induction acts using List.reverseRecOn with
  | nil =>
      exact ⟨Gateway.lists_fresh entropy expiry, Gateway.sound_fresh entropy expiry,
        .fresh entropy expiry family⟩
  | append_singleton acts last induction =>
      have ids : (acts ++ [last]).filterMap Act.opened? =
          acts.filterMap Act.opened? ++ last.opened?.toList := List.filterMap_append
      rw [ids] at distinct
      have earlier := induction (distinct.sublist (List.sublist_append_left _ _))
      rw [ids, run_append, log_append]
      exact earlier.act last distinct

/-- The directory of a family is exact: it reads the same both ways, keeps nothing empty, and holds
what its log says of the connections that are open. -/
structure Exact (gateway : Gateway) (family : Family) (log : List (Edit ChannelKey)) : Prop where
  /-- Every connection in the directory exists, with the identity under which it stands, and is
  open. -/
  stands : ∀ party, (gateway.layer family).directory.Names party →
    gateway.Knows party ∧ gateway.isOpen party.handle = true
  /-- A key leads to a connection exactly if it is among the keys of that connection. -/
  inverse : ∀ key id, key ∈ (gateway.layer family).directory.keysOf id ↔
    ∃ party, (gateway.layer family).directory.get? key = some party ∧ party.id = id
  /-- No connection is kept with an empty set of keys, and no key is listed twice. -/
  keys : ∀ id, (gateway.layer family).directory.byConnection.get? id ≠ some [] ∧
    ((gateway.layer family).directory.keysOf id).Nodup
  /-- No empty group is kept. -/
  groups : ∀ group members, (gateway.layer family).directory.groups.get? group = some members →
    members.isEmpty = false
  /-- A key leads to the connection last entered under it, if since then neither the key was removed
  nor the connection unregistered, and the connection is open. -/
  key : ∀ key party, (gateway.layer family).directory.get? key = some party ↔
    gateway.isOpen party.handle = true ∧ Since log (.put key party) (·.Frees key party.id)
  /-- A key leads nowhere exactly if there is no such connection. -/
  absent : ∀ key, (gateway.layer family).directory.get? key = none ↔
    ∀ party, Since log (.put key party) (·.Frees key party.id) →
      gateway.isOpen party.handle = false
  /-- A connection is a member of a group if it is open and joined the group, and since then has
  neither left it nor been unregistered. -/
  member : ∀ group party, party ∈ (gateway.layer family).directory.members group ↔
    gateway.isOpen party.handle = true ∧ Since log (.join group party) (·.Expels group party.id)
  /-- The close of a connection takes no key from another one. -/
  close_key : ∀ handle key party, (gateway.layer family).directory.get? key = some party →
    party.handle ≠ handle →
      ((gateway.close handle).layer family).directory.get? key = some party
  /-- The close of a connection takes no other one out of a group. -/
  close_member : ∀ handle group party, party ∈ (gateway.layer family).directory.members group →
    party.handle ≠ handle →
      party ∈ ((gateway.close handle).layer family).directory.members group

/-- Over connections with distinct identities every run leaves the directory exact. -/
theorem exact_run (family : Family) (entropy : Entropy) (expiry : Nat) (acts : List Act)
    (distinct : (acts.filterMap Act.opened?).Nodup) :
    Exact (run family (.fresh entropy expiry) acts) family
      (log family (.fresh entropy expiry) acts) := by
  have kept := kept_run family entropy expiry acts distinct
  generalize run family (.fresh entropy expiry) acts = gateway at kept ⊢
  generalize log family (.fresh entropy expiry) acts = log at kept ⊢
  obtain ⟨lists, sound, logged⟩ := kept
  refine ⟨?_, logged.indexed.key, ?_, logged.indexed.peopled, logged.key, ?_, ?_, ?_, ?_⟩
  · intro party names
    exact ⟨sound.knows party (.directory names), sound.isOpen_of_names lists distinct names⟩
  · exact fun id => ⟨logged.indexed.orderly.nonempty id, logged.indexed.orderly.nodup id⟩
  · intro key
    rw [Option.eq_none_iff_forall_ne_some]
    refine forall_congr' fun party => ?_
    rw [ne_eq, logged.key, not_and', Bool.not_eq_true]
  · intro group party
    rw [logged.indexed.mem_members, logged.member]
  · intro handle key party found different
    exact Gateway.get?_close sound lists distinct different found
  · intro handle group party found different
    have closed := logged.keep (.close sound.own handle) (sound.close handle)
      (lists.keeps (.close gateway handle)) distinct
    rw [closed.indexed.mem_members]
    rw [logged.indexed.mem_members] at found
    exact Gateway.member?_close sound lists distinct different found

/-- Two users share a name for a while: the first one is entered again after it was taken out, the
second takes the name over, and the first closes and is entered once more. -/
def sampleActs : List Act :=
  [.occurs (.opens 1 false Sample.remote (.record [] false)),
    .occurs (.opens 2 false Sample.remote (.record [] false)),
    .put (.user "pad") 0, .join everyone 0, .unregister 1, .put (.user "pad") 0, .join everyone 1,
    .put (.user "pad") 1, .occurs (.closes 0), .put (.session 7) 0]

/-- In the sample the second user keeps the name, and the closed one gets no other. -/
theorem sample_name_is_kept :
    (sampleActs.filterMap Act.opened?).Nodup ∧
      ((run .socket Sample.start sampleActs).layer .socket).directory.get? (.user "pad") =
        some ⟨1, 2⟩ ∧
      ((run .socket Sample.start sampleActs).layer .socket).directory.get? (.session 7) = none := by
  have distinct : (sampleActs.filterMap Act.opened?).Nodup := by decide
  have directory := exact_run .socket (.arithmetic 1 1) 30 sampleActs distinct
  have logged : log .socket Sample.start sampleActs =
      [.put (.user "pad") ⟨0, 1⟩, .join everyone ⟨0, 1⟩, .unregister 1, .put (.user "pad") ⟨0, 1⟩,
        .join everyone ⟨1, 2⟩] ++ .put (.user "pad") ⟨1, 2⟩ :: [.put (.session 7) ⟨0, 1⟩] := by
    decide +kernel
  refine ⟨distinct, (directory.key _ _).2 ⟨by decide +kernel, ?_⟩, (directory.absent _).2 ?_⟩
  · exact ⟨_, _, logged, by decide⟩
  · intro party since
    have entered := logged ▸ since.mem
    simp at entered
    rw [entered]
    decide +kernel

end Registry

end PadRelay
