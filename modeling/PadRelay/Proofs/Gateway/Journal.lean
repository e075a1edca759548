import Mathlib.Data.List.Count
import PadRelay.Proofs.Gateway.Booking
import PadRelay.Proofs.Gateway.Roster

/-!
# What is written

All that a step changes can be told as a list of writes, each to one place: a connection, a key of
an identity, a pair, a counter, the random source. A realm is a part of the gateway, given by the
identities that it owns: their connections, keys and pairs belong to it. The writes within a realm
leave the rest of the gateway as it is, and lead from states that agree on the realm to states that
agree on it. So what is written within a realm and what is written in the rest commute.
-/

namespace PadRelay

def Table.set {κ υ : Type} [DecidableEq κ] (table : Table κ υ) (key : κ) : Option υ → Table κ υ
  | some value => table.insert key value
  | none => table.erase key

theorem Table.get?_set {κ υ : Type} [DecidableEq κ] (table : Table κ υ) (key other : κ)
    (value : Option υ) :
    (table.set key value).get? other = if other = key then value else table.get? other := by
  cases value with
  | some value => exact table.get?_insert key other value
  | none => exact table.get?_erase key other

/-- A change of one place in the gateway. -/
inductive Write where
  | connection (handle : Handle) (connection : Connection Hook)
  | active (identity : Identity) (key : Option Key)
  | staging (identity : Identity) (staging : Option Staging)
  | retired (identity : Identity) (held : Option StagedKey)
  | pair (family : Family) (identity : Identity) (pair : Option Pair)
  | count (family : Family) (event : Event)
  | lapse
  | entropy (entropy : Entropy)
  | generation

def Write.counts (family : Family) (event : Event) : Write → Bool
  | .count other counted => other = family && counted = event
  | _ => false

/-- Whether an expiry is counted. -/
def Write.lapses : Write → Bool
  | .lapse => true
  | _ => false

namespace Gateway

variable (gateway : Gateway)

/-- Change one place. -/
def write : Write → Gateway
  | .connection handle connection =>
      { gateway with connections := gateway.connections.insert handle connection }
  | .active identity key => { gateway with active := gateway.active.set identity key }
  | .staging identity staging =>
      { gateway with staged := { gateway.staged with
          entries := gateway.staged.entries.set identity staging } }
  | .retired identity held =>
      { gateway with staged := { gateway.staged with
          retired := gateway.staged.retired.set identity held } }
  | .pair family identity pair =>
      gateway.modifyLayer family fun layer => { layer with pairs := layer.pairs.set identity pair }
  | .count family event => gateway.count family event
  | .lapse =>
      { gateway with staged := { gateway.staged with expired := gateway.staged.expired + 1 } }
  | .entropy entropy => { gateway with entropy }
  | .generation =>
      { gateway with staged := { gateway.staged with
          generation := gateway.staged.generation + 1 } }

/-- Change several places, one after the other. -/
def record (writes : List Write) : Gateway := writes.foldl write gateway

theorem record_append (first second : List Write) :
    gateway.record (first ++ second) = (gateway.record first).record second :=
  List.foldl_append

theorem of_write (write : Write) (family : Family) (event : Event) :
    ((gateway.write write).tally family).of event =
      (gateway.tally family).of event + [write].countP (Write.counts family event) := by
  cases write with
  | count other counted =>
      rw [Gateway.write, tally_count]
      by_cases same : family = other
      · subst same
        rw [if_pos rfl, Tally.of_count]
        by_cases equal : counted = event <;> simp [Write.counts, equal]
      · simp [Write.counts, same, Ne.symm same]
  | pair other identity pair => cases other <;> cases family <;> rfl
  | _ => cases family <;> rfl

theorem expired_write (write : Write) :
    (gateway.write write).staged.expired =
      gateway.staged.expired + [write].countP Write.lapses := by
  cases write with
  | count other event | pair other identity pair => cases other <;> rfl
  | _ => rfl

theorem of_record (writes : List Write) (family : Family) (event : Event) :
    ((gateway.record writes).tally family).of event =
      (gateway.tally family).of event + writes.countP (Write.counts family event) := by
  induction writes generalizing gateway with
  | nil => rfl
  | cons write writes induction =>
      refine (induction (gateway.write write)).trans ?_
      rw [of_write, Nat.add_assoc, ← List.countP_append, List.singleton_append]

theorem expired_record (writes : List Write) :
    (gateway.record writes).staged.expired =
      gateway.staged.expired + writes.countP Write.lapses := by
  induction writes generalizing gateway with
  | nil => rfl
  | cons write writes induction =>
      refine (induction (gateway.write write)).trans ?_
      rw [expired_write, Nat.add_assoc, ← List.countP_append, List.singleton_append]

end Gateway

/-- A part of the gateway. -/
structure Realm where
  /-- The identities whose connections, keys and pairs belong to it. -/
  owns : Identity → Prop
  /-- The random source and the generations belong to it. -/
  draws : Prop

namespace Realm

def of (identity : Identity) : Realm := ⟨fun id => id = identity, False⟩

variable (realm : Realm)

def rest : Realm := ⟨fun id => ¬ realm.owns id, ¬ realm.draws⟩

/-- A connection of the realm. -/
def Has (roster : Handle → Option Identity) (handle : Handle) : Prop :=
  ∃ id, roster handle = some id ∧ realm.owns id

/-- A connection of the realm, under its own identity. -/
def Admits (roster : Handle → Option Identity) (party : Party) : Prop :=
  roster party.handle = some party.id ∧ realm.owns party.id

theorem Admits.has {realm : Realm} {roster : Handle → Option Identity} {party : Party}
    (admits : realm.Admits roster party) : realm.Has roster party.handle :=
  ⟨party.id, admits⟩

end Realm

/-- A hook takes nothing from outside a realm. Of directories no realm has a part. -/
def Hook.Within (realm : Realm) : Hook → Prop
  | .dropKeys identity => realm.owns identity
  | .vacate _ identity _ _ => realm.owns identity
  | .forget _ _ => False

/-- Whatever waits on a connection while it is open stays within a realm. -/
def Connection.Within (realm : Realm) (connection : Connection Hook) : Prop :=
  connection.isOpen = true → ∀ hook ∈ connection.life.waiting, hook.Within realm

/-- The connections of a pair are in a realm. -/
def Pair.Within (realm : Realm) (roster : Handle → Option Identity) (pair : Pair) : Prop :=
  ∀ role party, pair.slot role = some party → realm.Admits roster party

/-- A write changes nothing outside a realm, and keeps together what belongs to it. -/
def Write.Within (realm : Realm) (roster : Handle → Option Identity) : Write → Prop
  | .connection handle turned =>
      roster handle = some turned.id ∧ realm.owns turned.id ∧ turned.Within realm
  | .active identity _ | .staging identity _ | .retired identity _ => realm.owns identity
  | .pair _ identity changed =>
      realm.owns identity ∧ ∀ held, changed = some held → held.Within realm roster
  | .count _ _ | .lapse => True
  | .entropy _ | .generation => realm.draws

namespace Gateway

/-- Two gateways have the same connections, keys and pairs in a realm. -/
structure Agrees (realm : Realm) (left right : Gateway) : Prop where
  /-- It is the same moment. -/
  now : left.now = right.now
  /-- Staged keys live equally long. -/
  expiry : left.staged.expiry = right.staged.expiry
  /-- There are the same connections, with the same identities. -/
  roster : left.idOf? = right.idOf?
  /-- Connections of the realm are the same. -/
  connection : ∀ handle, realm.Has left.idOf? handle →
    left.connections.get? handle = right.connections.get? handle
  /-- So are active keys. -/
  active : ∀ identity, realm.owns identity →
    left.active.get? identity = right.active.get? identity
  /-- So are staged keys. -/
  staging : ∀ identity, realm.owns identity →
    left.staged.entries.get? identity = right.staged.entries.get? identity
  /-- So are retired keys. -/
  retired : ∀ identity, realm.owns identity →
    left.staged.retired.get? identity = right.staged.retired.get? identity
  /-- So are pairs. -/
  pair : ∀ family identity, realm.owns identity →
    (left.layer family).pairs.get? identity = (right.layer family).pairs.get? identity
  /-- The random source is the same, if it belongs to the realm. -/
  entropy : realm.draws → left.entropy = right.entropy
  /-- So is the next generation. -/
  generation : realm.draws → left.staged.generation = right.staged.generation

/-- What belongs to a realm leads nowhere else: neither hooks nor pairs do. -/
structure Sheltered (realm : Realm) (gateway : Gateway) : Prop where
  connection : ∀ handle connection, gateway.connections.get? handle = some connection →
    realm.owns connection.id → connection.Within realm
  pair : ∀ family identity pair, realm.owns identity →
    (gateway.layer family).pairs.get? identity = some pair → pair.Within realm gateway.idOf?

section Realms

variable {realm : Realm} {gateway left middle right : Gateway} {change : Write}

namespace Agrees

theorem refl (gateway : Gateway) : gateway.Agrees realm gateway :=
  ⟨rfl, rfl, rfl, fun _ _ => rfl, fun _ _ => rfl, fun _ _ => rfl, fun _ _ => rfl, fun _ _ _ => rfl,
    fun _ => rfl, fun _ => rfl⟩

theorem symm (agrees : left.Agrees realm right) : right.Agrees realm left where
  now := agrees.now.symm
  expiry := agrees.expiry.symm
  roster := agrees.roster.symm
  connection handle has := (agrees.connection handle (agrees.roster ▸ has)).symm
  active identity own := (agrees.active identity own).symm
  staging identity own := (agrees.staging identity own).symm
  retired identity own := (agrees.retired identity own).symm
  pair family identity own := (agrees.pair family identity own).symm
  entropy draws := (agrees.entropy draws).symm
  generation draws := (agrees.generation draws).symm

theorem trans (first : left.Agrees realm middle) (second : middle.Agrees realm right) :
    left.Agrees realm right where
  now := first.now.trans second.now
  expiry := first.expiry.trans second.expiry
  roster := first.roster.trans second.roster
  connection handle has :=
    (first.connection handle has).trans (second.connection handle (first.roster ▸ has))
  active identity own := (first.active identity own).trans (second.active identity own)
  staging identity own := (first.staging identity own).trans (second.staging identity own)
  retired identity own := (first.retired identity own).trans (second.retired identity own)
  pair family identity own :=
    (first.pair family identity own).trans (second.pair family identity own)
  entropy draws := (first.entropy draws).trans (second.entropy draws)
  generation draws := (first.generation draws).trans (second.generation draws)

end Agrees

theorem idOf?_write (within : change.Within realm gateway.idOf?) :
    (gateway.write change).idOf? = gateway.idOf? := by
  funext other
  cases change with
  | connection handle connection =>
      have same : gateway.idOf? handle = some connection.id := within.1
      rw [Gateway.write, idOf?, Table.get?_insert]
      split
      · next equal => rw [equal, same, Option.map_some]
      · rfl
  | pair family identity pair | count family event => cases family <;> rfl
  | _ => rfl

/-- A write within a realm leaves everything else as it is. -/
theorem agrees_write (within : change.Within realm gateway.idOf?) :
    gateway.Agrees realm.rest (gateway.write change) := by
  have roster := idOf?_write within
  have same : gateway.Agrees realm.rest gateway := .refl gateway
  have foreign {identity other : Identity} (own : realm.owns identity)
      (outside : realm.rest.owns other) : other ≠ identity := fun equal => outside (equal ▸ own)
  cases change with
  | connection handle connection =>
      obtain ⟨listed, own, -⟩ := within
      refine { same with roster := roster.symm, connection := fun other has => ?_ }
      obtain ⟨id, found, outside⟩ := has
      refine (Table.get?_insert_of_ne _ _ ?_).symm
      rintro rfl
      rw [listed, Option.some.injEq] at found
      exact outside (found ▸ own)
  | active identity key =>
      refine { same with active := fun other outside => ?_ }
      rw [Gateway.write, Table.get?_set, if_neg (foreign within outside)]
  | staging identity staging =>
      refine { same with staging := fun other outside => ?_ }
      rw [Gateway.write, Table.get?_set, if_neg (foreign within outside)]
  | retired identity held =>
      refine { same with retired := fun other outside => ?_ }
      rw [Gateway.write, Table.get?_set, if_neg (foreign within outside)]
  | pair family identity pair =>
      have kept (other : Family) (subject : Identity) (outside : realm.rest.owns subject) :
          (gateway.layer other).pairs.get? subject =
            ((gateway.write (.pair family identity pair)).layer other).pairs.get? subject := by
        rw [Gateway.write, layer_modifyLayer]
        split
        · exact (Table.get?_set _ _ _ _ |>.trans (if_neg (foreign within.1 outside))).symm
        · rfl
      cases family <;> exact { same with roster := roster.symm, pair := kept }
  | count family event =>
      cases family <;>
        exact { same with roster := roster.symm, pair := fun other _ _ => by cases other <;> rfl }
  | lapse => exact { same with }
  | entropy entropy => exact { same with entropy := fun outside => absurd within outside }
  | generation => exact { same with generation := fun outside => absurd within outside }

namespace Agrees

/-- The same write leads to states that agree. -/
theorem write (agrees : left.Agrees realm right) (within : change.Within realm left.idOf?) :
    (left.write change).Agrees realm (right.write change) := by
  have roster : (left.write change).idOf? = (right.write change).idOf? := by
    rw [idOf?_write within, idOf?_write (agrees.roster ▸ within), agrees.roster]
  have still := idOf?_write within
  cases change with
  | connection handle connection =>
      refine { agrees with roster, connection := fun other has => ?_ }
      rw [still] at has
      simp only [Gateway.write, Table.get?_insert, agrees.connection other has]
  | active identity key =>
      refine { agrees with active := fun other own => ?_ }
      simp only [Gateway.write, Table.get?_set, agrees.active other own]
  | staging identity staging =>
      refine { agrees with staging := fun other own => ?_ }
      simp only [Gateway.write, Table.get?_set, agrees.staging other own]
  | retired identity held =>
      refine { agrees with retired := fun other own => ?_ }
      simp only [Gateway.write, Table.get?_set, agrees.retired other own]
  | pair family identity pair =>
      have changed (other : Family) (subject : Identity) (own : realm.owns subject) :
          ((left.write (.pair family identity pair)).layer other).pairs.get? subject =
            ((right.write (.pair family identity pair)).layer other).pairs.get? subject := by
        simp only [Gateway.write, layer_modifyLayer]
        split
        · simp only [Table.get?_set, agrees.pair other subject own]
        · exact agrees.pair other subject own
      cases family <;> exact { agrees with roster, pair := changed }
  | count family event =>
      have kept (other : Family) (subject : Identity) (own : realm.owns subject) :
          ((left.write (.count family event)).layer other).pairs.get? subject =
            ((right.write (.count family event)).layer other).pairs.get? subject := by
        simp only [Gateway.write, Gateway.count, layer_modifyLayer]
        split <;> exact agrees.pair other subject own
      cases family <;> exact { agrees with roster, pair := kept }
  | lapse => exact { agrees with roster }
  | entropy entropy => exact { agrees with roster, entropy := fun _ => rfl }
  | generation =>
      exact { agrees with
        roster, generation := fun draws => congrArg (· + 1) (agrees.generation draws) }

end Agrees

/-- A write keeps together what belongs to the realm. -/
theorem Sheltered.write (sheltered : gateway.Sheltered realm)
    (within : change.Within realm gateway.idOf?) : (gateway.write change).Sheltered realm := by
  have still := idOf?_write within
  have pairs (other : Family) (same : ∀ subject,
      ((gateway.write change).layer other).pairs.get? subject =
        (gateway.layer other).pairs.get? subject) (subject : Identity) (pair : Pair)
      (own : realm.owns subject)
      (found : ((gateway.write change).layer other).pairs.get? subject = some pair) :
      pair.Within realm (gateway.write change).idOf? := by
    rw [still]
    exact sheltered.pair other subject pair own ((same subject).symm.trans found)
  cases change with
  | connection handle turned =>
      refine ⟨fun other connection found own => ?_, fun family =>
        pairs family fun _ => by cases family <;> rfl⟩
      rw [Gateway.write, Table.get?_insert] at found
      split at found
      · obtain rfl := Option.some.inj found
        exact within.2.2
      · exact sheltered.connection other connection found own
  | pair family identity changed =>
      refine ⟨?_, fun other subject pair own found => ?_⟩
      · cases family <;> exact sheltered.connection
      · rw [still]
        rw [Gateway.write, layer_modifyLayer] at found
        split at found
        · rw [Table.get?_set] at found
          split at found
          · exact within.2 pair found
          · exact sheltered.pair other subject pair own found
        · exact sheltered.pair other subject pair own found
  | count family event =>
      refine ⟨?_, fun other => pairs other fun _ => ?_⟩
      · cases family <;> exact sheltered.connection
      · cases family <;> cases other <;> rfl
  | _ => exact ⟨sheltered.connection, fun family => pairs family fun _ => by cases family <;> rfl⟩

variable {writes : List Write}

theorem record_respects (relation : Gateway → Gateway → Prop)
    (refl : ∀ state, relation state state)
    (trans : ∀ before middle after, relation before middle → relation middle after →
      relation before after)
    (step : ∀ (state : Gateway) (write : Write), write.Within realm state.idOf? →
      relation state (state.write write))
    (within : ∀ write ∈ writes, write.Within realm gateway.idOf?) :
    relation gateway (gateway.record writes) := by
  induction writes generalizing gateway with
  | nil => exact refl gateway
  | cons write writes induction =>
      obtain ⟨first, others⟩ := List.forall_mem_cons.1 within
      exact trans _ _ _ (step gateway write first) (induction (idOf?_write first ▸ others))

theorem idOf?_record (within : ∀ write ∈ writes, write.Within realm gateway.idOf?) :
    (gateway.record writes).idOf? = gateway.idOf? :=
  record_respects (fun before after => after.idOf? = before.idOf?) (fun _ => rfl)
    (fun _ _ _ first second => second.trans first) (fun _ _ => idOf?_write) within

theorem agrees_record (within : ∀ write ∈ writes, write.Within realm gateway.idOf?) :
    gateway.Agrees realm.rest (gateway.record writes) :=
  record_respects (Agrees realm.rest) .refl (fun _ _ _ => .trans) (fun _ _ => agrees_write) within

theorem Agrees.record (agrees : left.Agrees realm right)
    (within : ∀ write ∈ writes, write.Within realm left.idOf?) :
    (left.record writes).Agrees realm (right.record writes) := by
  induction writes generalizing left right with
  | nil => exact agrees
  | cons write writes induction =>
      obtain ⟨first, others⟩ := List.forall_mem_cons.1 within
      exact induction (agrees.write first) (idOf?_write first ▸ others)

theorem Sheltered.record (sheltered : gateway.Sheltered realm)
    (within : ∀ write ∈ writes, write.Within realm gateway.idOf?) :
    (gateway.record writes).Sheltered realm :=
  record_respects (fun before after => before.Sheltered realm → after.Sheltered realm)
    (fun _ => id) (fun _ _ _ first second => second ∘ first)
    (fun _ _ first before => before.write first) within sheltered

end Realms

/-- Two gateways are the same to the exchange of keys: every connection with all that it was handed,
every key with its deadline, every pair, every counter and the random source. -/
structure Same (left right : Gateway) : Prop where
  now : left.now = right.now
  expiry : left.staged.expiry = right.staged.expiry
  connection : ∀ handle, left.connections.get? handle = right.connections.get? handle
  active : ∀ identity, left.active.get? identity = right.active.get? identity
  staging : ∀ identity,
    left.staged.entries.get? identity = right.staged.entries.get? identity
  retired : ∀ identity,
    left.staged.retired.get? identity = right.staged.retired.get? identity
  pair : ∀ family identity,
    (left.layer family).pairs.get? identity = (right.layer family).pairs.get? identity
  tally : ∀ family, left.tally family = right.tally family
  expired : left.staged.expired = right.staged.expired
  entropy : left.entropy = right.entropy
  generation : left.staged.generation = right.staged.generation

theorem Same.of_agrees {realm : Realm} {left right : Gateway} (inside : left.Agrees realm right)
    (outside : left.Agrees realm.rest right)
    (tally : ∀ family, left.tally family = right.tally family)
    (expired : left.staged.expired = right.staged.expired) : left.Same right where
  now := inside.now
  expiry := inside.expiry
  connection handle := by
    cases listed : left.idOf? handle with
    | none =>
        have also : right.idOf? handle = none := by rw [← inside.roster, listed]
        rw [idOf?, Option.map_eq_none_iff] at listed also
        rw [listed, also]
    | some id =>
        by_cases own : realm.owns id
        · exact inside.connection handle ⟨id, listed, own⟩
        · exact outside.connection handle ⟨id, listed, own⟩
  active identity := by
    by_cases own : realm.owns identity
    · exact inside.active identity own
    · exact outside.active identity own
  staging identity := by
    by_cases own : realm.owns identity
    · exact inside.staging identity own
    · exact outside.staging identity own
  retired identity := by
    by_cases own : realm.owns identity
    · exact inside.retired identity own
    · exact outside.retired identity own
  pair family identity := by
    by_cases own : realm.owns identity
    · exact inside.pair family identity own
    · exact outside.pair family identity own
  tally := tally
  expired := expired
  entropy := by
    by_cases draws : realm.draws
    · exact inside.entropy draws
    · exact outside.entropy draws
  generation := by
    by_cases draws : realm.draws
    · exact inside.generation draws
    · exact outside.generation draws

section Two

variable {realm : Realm} {gateway : Gateway} {first second : List Write}

theorem agrees_record_rest (within : ∀ write ∈ second, write.Within realm.rest gateway.idOf?) :
    gateway.Agrees realm (gateway.record second) := by
  have agrees := agrees_record within
  exact { agrees with
    connection := fun handle ⟨id, listed, own⟩ =>
      agrees.connection handle ⟨id, listed, not_not_intro own⟩
    active := fun identity own => agrees.active identity (not_not_intro own)
    staging := fun identity own => agrees.staging identity (not_not_intro own)
    retired := fun identity own => agrees.retired identity (not_not_intro own)
    pair := fun family identity own => agrees.pair family identity (not_not_intro own)
    entropy := fun draws => agrees.entropy (not_not_intro draws)
    generation := fun draws => agrees.generation (not_not_intro draws) }

theorem same_record (inside : ∀ write ∈ first, write.Within realm gateway.idOf?)
    (outside : ∀ write ∈ second, write.Within realm.rest gateway.idOf?) :
    ((gateway.record first).record second).Same ((gateway.record second).record first) := by
  have outside_after : ∀ write ∈ second, write.Within realm.rest (gateway.record first).idOf? := by
    rwa [idOf?_record inside]
  have inside_after : ∀ write ∈ first, write.Within realm (gateway.record second).idOf? := by
    rwa [idOf?_record outside]
  refine .of_agrees
    ((agrees_record_rest outside_after).symm.trans ((agrees_record_rest outside).record inside))
    (((agrees_record inside).record outside).symm.trans (agrees_record inside_after))
    (fun family => Tally.ext_of fun event => ?_) ?_
  · simp only [of_record]
    omega
  · simp only [expired_record]
    omega

end Two

end Gateway

end PadRelay
