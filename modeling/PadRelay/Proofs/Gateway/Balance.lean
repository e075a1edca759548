import Mathlib.Data.List.Nodup
import Mathlib.Data.List.Perm.Subperm
import PadRelay.Proofs.Gateway.Channel
import PadRelay.Proofs.Gateway.Counting

/-!
# Keys that were issued

Every identity has a home, the family that its connections belong to. A key that was issued for it
is staged, has become active, has expired, or was lost in some other way. So a family has issued at
least as many keys as its identities have staged, have activated and have let expire. A step
balances if it keeps this true: whatever it adds on one side it takes away there, or it issues a
key.
-/

namespace PadRelay

namespace Table

variable {κ υ : Type} [DecidableEq κ] (condition : κ → υ → Bool)

/-- A table that has only entries of another one has fewer of every sort. -/
theorem size_filter_le {small large : Table κ υ}
    (fewer : ∀ key, small.get? key = none ∨ small.get? key = large.get? key) :
    (small.filter condition).size ≤ (large.filter condition).size := by
  have nodup : (small.filter condition).entries.Nodup :=
    List.Nodup.of_map Prod.fst (small.filter condition).distinct
  refine (List.subperm_of_subset nodup fun entry member => ?_).length_le
  obtain ⟨key, value⟩ := entry
  rw [← get?_eq_some_iff, get?_filter, Option.filter_eq_some_iff] at member ⊢
  rcases fewer key with gone | same
  · rw [gone] at member
    cases member.1
  · exact ⟨same ▸ member.1, member.2⟩

theorem size_le {small large : Table κ υ}
    (fewer : ∀ key, small.get? key = none ∨ small.get? key = large.get? key) :
    small.size ≤ large.size := by
  simpa [filter, size] using size_filter_le (fun _ _ => true) fewer

theorem get?_of_get?_erase {table : Table κ υ} {key other : κ} {value : υ}
    (found : (table.erase key).get? other = some value) : table.get? other = some value := by
  rw [get?_erase] at found
  split at found
  · cases found
  · exact found

theorem erase_filter (table : Table κ υ) (key : κ) :
    (table.erase key).filter condition = (table.filter condition).erase key := by
  obtain ⟨entries, distinct⟩ := table
  simp only [erase, filter, mk.injEq, List.filter_filter]
  exact List.filter_congr fun entry _ => Bool.and_comm _ _

/-- Erasing an entry takes away one of its sort. -/
theorem size_filter_erase {table : Table κ υ} {key : κ} {value : υ}
    (present : table.get? key = some value) :
    ((table.erase key).filter condition).size + (if condition key value then 1 else 0) =
      (table.filter condition).size := by
  rw [erase_filter]
  have kept := get?_filter condition table key
  rw [present, Option.filter_some] at kept
  by_cases sort : condition key value = true
  · rw [if_pos sort] at kept ⊢
    exact size_erase_of_get? _ kept
  · rw [if_neg sort] at kept ⊢
    rw [erase_of_get?_eq_none _ kept, Nat.add_zero]

/-- Inserting an entry adds at most one of its sort. -/
theorem size_filter_insert_le (table : Table κ υ) (key : κ) (value : υ) :
    ((table.insert key value).filter condition).size ≤
      (table.filter condition).size + (if condition key value then 1 else 0) := by
  have others : ((table.erase key).filter condition).size ≤ (table.filter condition).size := by
    refine size_filter_le condition fun other => ?_
    rw [get?_erase]
    split
    · exact .inl rfl
    · exact .inr rfl
  have inserted : ((table.insert key value).filter condition).size =
      ((table.erase key).filter condition).size + (if condition key value then 1 else 0) := by
    by_cases sort : condition key value = true <;> simp [insert, filter, size, sort]
  omega

end Table

namespace StagedKeys

def waiting (keys : StagedKeys) (sort : Identity → Bool) : Nat :=
  (keys.entries.filter fun identity _ => sort identity).size

def isOverdue (keys : StagedKeys) (now : Nat) (identity : Identity) : Bool :=
  (keys.entries.get? identity).any fun staging => !staging.isLive now

/-- Nothing has been staged, and nothing has expired. -/
structure Shrinks (before after : StagedKeys) : Prop where
  expired : after.expired = before.expired
  entry : ∀ identity, after.entries.get? identity = none ∨
    after.entries.get? identity = before.entries.get? identity

namespace Shrinks

theorem refl (keys : StagedKeys) : keys.Shrinks keys := ⟨rfl, fun _ => .inr rfl⟩

theorem trans {before middle after : StagedKeys} (first : before.Shrinks middle)
    (second : middle.Shrinks after) : before.Shrinks after where
  expired := second.expired.trans first.expired
  entry identity := by
    rcases second.entry identity with gone | kept
    · exact .inl gone
    · rw [kept]
      exact first.entry identity

theorem remove (keys : StagedKeys) (now : Nat) (identity : Identity) :
    keys.Shrinks (keys.remove now identity).2 := by
  rw [remove_snd]
  refine ⟨rfl, fun other => ?_⟩
  rw [Table.get?_erase]
  split
  · exact .inl rfl
  · exact .inr rfl

theorem clear (keys : StagedKeys) : keys.Shrinks keys.clear := ⟨rfl, fun _ => .inl rfl⟩

theorem waiting_le {before after : StagedKeys} (shrinks : before.Shrinks after)
    (sort : Identity → Bool) : after.waiting sort ≤ before.waiting sort :=
  Table.size_filter_le _ shrinks.entry

end Shrinks

theorem waiting_put_le (keys : StagedKeys) (now : Nat) (identity : Identity) (key : Key)
    (sort : Identity → Bool) :
    (keys.put now identity key).waiting sort ≤
      keys.waiting sort + (if sort identity then 1 else 0) :=
  Table.size_filter_insert_le _ _ _ _

theorem waiting_erased {before after : StagedKeys} {identity : Identity} {staging : Staging}
    (found : before.entries.get? identity = some staging)
    (erased : after.entries = before.entries.erase identity) (sort : Identity → Bool) :
    after.waiting sort + (if sort identity then 1 else 0) = before.waiting sort := by
  rw [waiting, erased]
  exact Table.size_filter_erase _ found

end StagedKeys

namespace Gateway

/-- Open clear channels stand in the pairs of their home. -/
def Homed (gateway : Gateway) (home : Identity → Family) : Prop :=
  ∀ family identity party, gateway.slot family identity .clear = some party →
    home identity = family

theorem Homed.of_pairs {home : Identity → Family} {before after : Gateway}
    (homed : before.Homed home)
    (pairs : ∀ family, (after.layer family).pairs = (before.layer family).pairs) :
    after.Homed home := by
  intro family identity party found
  rw [slot, pairs] at found
  exact homed family identity party found

theorem Homed.of_connectionOf {home : Identity → Family} {gateway : Gateway}
    (homed : gateway.Homed home) {family : Family} {identity : Identity} {party : Party}
    (found : gateway.connectionOf family identity .clear = some party) :
    home identity = family := by
  rw [connectionOf, Pairs.connectionOf_eq, Option.filter_eq_some_iff] at found
  exact homed family identity party found.1

/-- How many keys are staged for the identities of a family. -/
def waiting (gateway : Gateway) (home : Identity → Family) (family : Family) : Nat :=
  gateway.staged.waiting fun identity => home identity = family

/-- The identities whose keys expire when the staged key of an identity is looked at. -/
def lapsing (gateway : Gateway) (identity : Identity) : List Identity :=
  if gateway.staged.isOverdue gateway.now identity then [identity] else []

/-- Between two states some keys have expired, and the others have been accounted for. -/
structure Balances (home : Identity → Family) (lapsed : List Identity) (before after : Gateway) :
    Prop where
  balance : ∀ family,
    (after.tally family).activated + after.waiting home family +
        lapsed.countP (fun identity => home identity = family) + (before.tally family).issued ≤
      (before.tally family).activated + before.waiting home family + (after.tally family).issued
  expired : after.staged.expired = before.staged.expired + lapsed.length
  grows : ∀ family, (before.tally family).issued ≤ (after.tally family).issued
  origin : ∀ identity staging, after.staged.entries.get? identity = some staging →
    before.staged.entries.get? identity = some staging ∨
      (before.tally (home identity)).issued < (after.tally (home identity)).issued
  homed : before.Homed home → after.Homed home

namespace Balances

variable {home : Identity → Family} {lapsed : List Identity} {before middle after : Gateway}

theorem trans {later : List Identity} (first : before.Balances home lapsed middle)
    (second : middle.Balances home later after) :
    before.Balances home (lapsed ++ later) after where
  balance family := by
    have one := first.balance family
    have two := second.balance family
    rw [List.countP_append]
    omega
  expired := by
    rw [second.expired, first.expired, List.length_append, Nat.add_assoc]
  grows family := Nat.le_trans (first.grows family) (second.grows family)
  origin identity staging found := by
    rcases second.origin identity staging found with held | issued
    · rcases first.origin identity staging held with held | issued
      · exact .inl held
      · exact .inr (Nat.lt_of_lt_of_le issued (second.grows _))
    · exact .inr (Nat.lt_of_le_of_lt (first.grows _) issued)
  homed homed := second.homed (first.homed homed)

theorem calm (first : before.Balances home lapsed middle) (second : middle.Balances home [] after) :
    before.Balances home lapsed after :=
  List.append_nil lapsed ▸ first.trans second

/-- Nothing is issued, activated, staged or expires, and no clear channel enters a pair. -/
theorem of_shrinks (staged : before.staged.Shrinks after.staged)
    (tally : ∀ family, (after.tally family).issued = (before.tally family).issued ∧
      (after.tally family).activated = (before.tally family).activated)
    (homed : before.Homed home → after.Homed home) : before.Balances home [] after where
  balance family := by
    have fewer : after.waiting home family ≤ before.waiting home family := staged.waiting_le _
    obtain ⟨issued, activated⟩ := tally family
    rw [issued, activated, List.countP_nil]
    omega
  expired := staged.expired
  grows family := Nat.le_of_eq (tally family).1.symm
  origin identity staging found := by
    rcases staged.entry identity with gone | kept
    · rw [gone] at found
      cases found
    · exact .inl (kept ▸ found)
  homed := homed

theorem refl (gateway : Gateway) : gateway.Balances home [] gateway :=
  of_shrinks (.refl _) (fun _ => ⟨rfl, rfl⟩) fun homed => homed

theorem shrinks_runHooks (gateway : Gateway) (hooks : List Hook) :
    gateway.staged.Shrinks (gateway.runHooks hooks).staged := by
  induction hooks generalizing gateway with
  | nil => exact .refl _
  | cons hook rest induction =>
      refine .trans ?_ (induction (gateway.runHook hook))
      cases hook with
      | dropKeys identity => exact .remove _ _ _
      | vacate family identity role connection =>
          simpa [runHook] using StagedKeys.Shrinks.refl gateway.staged
      | forget family connection =>
          simpa [runHook] using StagedKeys.Shrinks.refl gateway.staged

theorem settle (gateway : Gateway) (handle : Handle) (connection : Connection Hook)
    (due : List Hook) : gateway.Balances home [] (gateway.settle handle connection due) :=
  of_shrinks
    (shrinks_runHooks { gateway with
      connections := gateway.connections.insert handle connection } due)
    (fun family => by rw [tally_settle]; exact ⟨rfl, rfl⟩)
    fun homed family identity party found => homed family identity party (slot_of_settle found)

theorem close (gateway : Gateway) (handle : Handle) :
    gateway.Balances home [] (gateway.close handle) := by
  rw [Gateway.close]
  split
  · exact refl gateway
  · exact settle gateway handle _ _

theorem closeEach (gateway : Gateway) (parties : List Party) :
    gateway.Balances home [] (gateway.closeEach parties) := by
  induction parties generalizing gateway with
  | nil => exact refl gateway
  | cons party rest induction => exact (close gateway party.handle).trans (induction _)

theorem of_layers (staged : after.staged = before.staged)
    (layers : ∀ family, after.layer family = before.layer family) :
    before.Balances home [] after := by
  refine of_shrinks (staged ▸ .refl _) (fun family => ?_) fun homed => ?_
  · rw [tally, tally, layers]
    exact ⟨rfl, rfl⟩
  · exact homed.of_pairs fun family => congrArg Layer.pairs (layers family)

/-- A family's part changes, but neither its pairs nor what it has issued and activated. -/
theorem modifyLayer (gateway : Gateway) (family : Family) {change : Layer → Layer}
    (pairs : ∀ layer, (change layer).pairs = layer.pairs)
    (tally : ∀ layer, (change layer).tally.issued = layer.tally.issued ∧
      (change layer).tally.activated = layer.tally.activated) :
    gateway.Balances home [] (gateway.modifyLayer family change) := by
  refine of_shrinks ?_ (fun other => ?_) fun homed other identity party found => ?_
  · rw [staged_modifyLayer]
    exact .refl _
  · rw [tally_modifyLayer]
    split
    · exact tally _
    · exact ⟨rfl, rfl⟩
  · rw [slot_modifyLayer] at found
    split at found
    · rw [pairs] at found
      exact homed other identity party found
    · exact homed other identity party found

theorem lapse {identity : Identity} {staging : Staging}
    (found : before.staged.entries.get? identity = some staging)
    (erased : after.staged.entries = before.staged.entries.erase identity)
    (expired : after.staged.expired = before.staged.expired + 1)
    (tally : ∀ family, after.tally family = before.tally family)
    (pairs : ∀ family, (after.layer family).pairs = (before.layer family).pairs) :
    before.Balances home [identity] after where
  balance family := by
    have gone := StagedKeys.waiting_erased found erased fun identity => home identity = family
    rw [tally, waiting, waiting, ← gone, List.countP_singleton]
    omega
  expired := expired
  grows family := Nat.le_of_eq (by rw [tally])
  origin other staging found := .inl (Table.get?_of_get?_erase (erased ▸ found))
  homed homed := homed.of_pairs pairs

/-- The staged key of an identity goes, and its home counts one that has become active. -/
theorem activated {identity : Identity} {staging : Staging}
    (found : before.staged.entries.get? identity = some staging)
    (erased : after.staged.entries = before.staged.entries.erase identity)
    (expired : after.staged.expired = before.staged.expired)
    (tally : ∀ family, after.tally family =
      if family = home identity then (before.tally family).count .activated
      else before.tally family)
    (pairs : ∀ family, (after.layer family).pairs = (before.layer family).pairs) :
    before.Balances home [] after where
  balance family := by
    have gone := StagedKeys.waiting_erased found erased fun identity => home identity = family
    rw [tally, waiting, waiting, ← gone, List.countP_nil]
    by_cases same : family = home identity
    · simp [same, Tally.count]
      omega
    · simp [same, Ne.symm same]
  expired := expired
  grows family := by
    rw [tally]
    split <;> exact Nat.le_refl _
  origin other staging found := .inl (Table.get?_of_get?_erase (erased ▸ found))
  homed homed := homed.of_pairs pairs

/-- A key is staged for an identity, and its home counts one that has been issued. -/
theorem issued {identity : Identity} {now : Nat} {key : Key}
    (staged : after.staged = before.staged.put now identity key)
    (tally : ∀ family, after.tally family =
      if family = home identity then (before.tally family).count .issued else before.tally family)
    (pairs : ∀ family, (after.layer family).pairs = (before.layer family).pairs) :
    before.Balances home [] after where
  balance family := by
    have grown := before.staged.waiting_put_le now identity key fun identity =>
      home identity = family
    rw [tally, waiting, waiting, staged, List.countP_nil]
    by_cases same : family = home identity
    · simp only [same, Tally.count, if_true, decide_true] at grown ⊢
      omega
    · simp only [same, Ne.symm same, if_false, decide_false, Bool.false_eq_true] at grown ⊢
      omega
  expired := by
    rw [staged]
    rfl
  grows family := by
    rw [tally]
    split
    · exact Nat.le_succ _
    · exact Nat.le_refl _
  origin other staging found := by
    rw [staged, StagedKeys.get?_entries_put] at found
    split at found
    · next same =>
        refine .inr ?_
        rw [tally, if_pos (congrArg home same)]
        exact Nat.lt_succ_self _
    · exact .inl found
  homed homed := homed.of_pairs pairs

/-- A look at the key of an identity lets it expire if it is overdue. -/
theorem look (gateway : Gateway) (identity : Identity) :
    gateway.Balances home (gateway.lapsing identity)
      { gateway with staged := gateway.staged.expireDue gateway.now identity } := by
  rw [lapsing]
  cases found : gateway.staged.entries.get? identity with
  | none =>
      rw [StagedKeys.expireDue_of_absent _ _ _ found, StagedKeys.isOverdue, found]
      exact refl gateway
  | some staging =>
      cases inTime : staging.isLive gateway.now with
      | true =>
          rw [StagedKeys.expireDue_of_live _ _ _ found inTime, StagedKeys.isOverdue, found]
          simpa [inTime] using refl gateway
      | false =>
          rw [StagedKeys.expireDue_of_overdue _ _ _ found inTime, StagedKeys.isOverdue, found]
          simp only [Option.any_some, inTime, Bool.not_false, if_true]
          exact lapse found rfl rfl (fun family => by cases family <;> rfl)
            fun family => by cases family <;> rfl

/-- The timer of a staging lets its key expire if it is overdue. -/
theorem ring (gateway : Gateway) (identity : Identity) (generation : Nat) :
    gateway.Balances home
      (if gateway.staged.stages identity generation then gateway.lapsing identity else [])
      { gateway with staged := gateway.staged.ring gateway.now identity generation } := by
  rw [StagedKeys.ring_eq_ite]
  split
  · exact look gateway identity
  · exact refl gateway

end Balances

end Gateway

/-- A call on behalf of a family that looks at no staged key and stages, takes, issues and activates
none. A clear channel enters only the pairs of its home. -/
def Call.IsSteady (home : Identity → Family) (family : Family) : Call → Prop
  | .staged _ | .stage _ _ | .takeStaged _ _ => False
  | .count other event => other = family ∧ event ≠ .issued ∧ event ≠ .activated
  | .sealFor other _ _ | .dress other _ _ => other = family
  | .place other identity role _ => role = .clear → home identity = other
  | _ => True

theorem Call.IsSteady.countsNothing {home : Identity → Family} {family other : Family}
    {request : Call} (steady : request.IsSteady home family) (different : other ≠ family) :
    request.CountsNothing other := by
  intro event counts
  cases request with
  | count => exact different (counts.1.symm.trans steady.1)
  | sealFor => exact different (counts.1.symm.trans steady)
  | dress => exact different (counts.1.symm.trans steady)
  | _ => exact counts

theorem Script.Only.countsNothing {α : Type} {script : Script α} {family other : Family}
    (steady : script.Only (Call.IsSteady (fun _ => family) family)) (different : other ≠ family) :
    script.Only (Call.CountsNothing other) :=
  steady.mono fun _ steady => steady.countsNothing different

theorem Tally.count_steady {event : Event} (steady : event ≠ .issued ∧ event ≠ .activated)
    (tally : Tally) :
    (tally.count event).issued = tally.issued ∧
      (tally.count event).activated = tally.activated := by
  cases event with
  | issued => exact absurd rfl steady.1
  | activated => exact absurd rfl steady.2
  | _ => exact ⟨rfl, rfl⟩

namespace Gateway.Balances

variable {home : Identity → Family} (gateway : Gateway)

theorem onClose (handle : Handle) (hook : Hook) :
    gateway.Balances home [] (gateway.onClose handle hook) := by
  rw [Gateway.onClose]
  split
  · exact refl gateway
  · exact settle gateway handle _ _

theorem send (handle : Handle) (payload : Bytes) :
    gateway.Balances home [] (gateway.send handle payload).2 := by
  rw [Gateway.send]
  split
  · exact refl gateway
  · exact settle gateway handle _ _

theorem count (family : Family) {event : Event} (steady : event ≠ .issued ∧ event ≠ .activated) :
    gateway.Balances home [] (gateway.count family event) :=
  modifyLayer gateway family (fun _ => rfl) fun layer => layer.tally.count_steady steady

theorem sealFor (family : Family) (identity : Identity) (payload : Bytes) :
    gateway.Balances home [] (gateway.sealFor family identity payload).2 := by
  rw [Gateway.sealFor]
  split
  · exact count gateway family ⟨Event.noConfusion, Event.noConfusion⟩
  · exact refl gateway

theorem place (family : Family) (identity : Identity) (role : Role) (party : Party)
    (own : role = .clear → home identity = family) :
    gateway.Balances home [] (gateway.place family identity role party).2 := by
  rw [Gateway.place]
  refine of_shrinks ?_ (fun other => ?_) fun homed other subject found slotted => ?_
  · rw [staged_modifyLayer]
    exact .refl _
  · rw [tally_modifyLayer]
    split <;> exact ⟨rfl, rfl⟩
  · rw [slot_modifyLayer] at slotted
    split at slotted
    · next same =>
        rw [Pairs.slot_place] at slotted
        split at slotted
        · next entered => rw [entered.1, own entered.2.symm, same]
        · exact homed other subject found slotted
    · exact homed other subject found slotted

theorem onDirectory {α : Type} (family : Family)
    (work : Directory ChannelKey → α × Directory ChannelKey) :
    gateway.Balances home [] (gateway.onDirectory family work).2 := by
  rw [onDirectory_snd]
  exact modifyLayer gateway family (fun _ => rfl) fun _ => ⟨rfl, rfl⟩

theorem perform {family : Family} {request : Call} (steady : request.IsSteady home family) :
    gateway.Balances home [] (gateway.perform request).2 := by
  cases request with
  | staged | stage | takeStaged => cases steady
  | onClose handle hook => exact onClose gateway handle hook
  | send handle payload => exact send gateway handle payload
  | close handle => exact close gateway handle
  | count family event => exact count gateway family steady.2
  | place family identity role party => exact place gateway family identity role party steady
  | sealFor family identity payload => exact sealFor gateway family identity payload
  | dress family recipient payload =>
      simp only [Gateway.perform, dress]
      split
      · exact sealFor gateway family recipient payload
      · exact refl gateway
  | unstage identity =>
      exact of_shrinks (.remove _ _ _) (fun family => by cases family <;> exact ⟨rfl, rfl⟩)
        fun homed => homed
  | enter family key party => exact onDirectory gateway family _
  | join family group party => exact onDirectory gateway family _
  | watch family id => exact onDirectory gateway family _
  | forget family id => exact onDirectory gateway family fun directory => directory.forget id
  | generate policy size =>
      simp only [Gateway.perform]
      split
      · exact of_layers rfl fun family => by cases family <;> rfl
      · exact refl gateway
  | activate identity key => exact of_layers rfl fun family => by cases family <;> rfl
  | deactivate identity => exact of_layers rfl fun family => by cases family <;> rfl
  | _ => exact refl gateway

theorem count_stage {family : Family} {identity : Identity} (own : home identity = family)
    (key : Key) :
    gateway.Balances home [] ((gateway.perform (.stage identity key)).2.count family .issued) := by
  have staged : ((gateway.perform (.stage identity key)).2.count family .issued).staged =
      gateway.staged.put gateway.now identity key := by
    rw [Gateway.count, staged_modifyLayer]
    rfl
  refine .issued staged (fun other => ?_) fun other => ?_
  · rw [tally_count, own]
    cases other <;> rfl
  · rw [Gateway.count, layer_modifyLayer]
    split <;> cases other <;> rfl

/-- A key that is staged and taken back is lost. -/
theorem unstage_stage (identity : Identity) (key : Key) :
    gateway.Balances home []
      ((gateway.perform (.stage identity key)).2.perform (.unstage identity)).2 := by
  refine of_shrinks ⟨?_, fun other => ?_⟩ (fun family => ?_) fun homed => homed
  · simp [Gateway.perform, StagedKeys.remove_snd, StagedKeys.put, StagedKeys.putHeld]
  · simp only [Gateway.perform, StagedKeys.remove_snd, Table.get?_erase,
      StagedKeys.get?_entries_put]
    by_cases same : other = identity
    · exact .inl (if_pos same)
    · exact .inr (by rw [if_neg same, if_neg same])
  · cases family <;> exact ⟨rfl, rfl⟩

theorem dropState (family : Family) : gateway.Balances home [] (gateway.dropState family) := by
  refine of_shrinks ?_ (fun other => ?_) fun homed other identity party found => ?_
  · rw [Gateway.dropState, staged_modifyLayer]
    exact .clear _
  · cases family <;> cases other <;> exact ⟨rfl, rfl⟩
  · rw [Gateway.dropState, slot_modifyLayer] at found
    split at found
    · have nothing : (∅ : Pairs).slot identity .clear = none := rfl
      cases nothing.symm.trans found
    · exact homed other identity party found

theorem shutdown : gateway.Balances home [] gateway.shutdown := by
  have layer (state : Gateway) (family : Family) :
      state.Balances home [] (state.shutdownLayer family) :=
    (dropState state family).calm (closeEach _ _)
  have both := (layer gateway .socket).calm (layer (gateway.shutdownLayer .socket) .webSocket)
  rw [Gateway.shutdown]
  generalize (gateway.shutdownLayer .socket).shutdownLayer .webSocket = state at both ⊢
  refine both.calm ?_
  exact of_shrinks (.clear _) (fun family => by cases family <;> exact ⟨rfl, rfl⟩)
    fun homed => homed.of_pairs fun family => by cases family <;> rfl

theorem run {α : Type} {family : Family} {script : Script α}
    (steady : script.Only (Call.IsSteady home family)) :
    gateway.Balances home [] (script.run gateway).2 :=
  steady.run (Balances home []) refl (fun _ _ _ => trans) (fun _ permitted gateway =>
    perform gateway permitted) gateway

end Gateway.Balances

end PadRelay
