import PadRelay.Proofs.Key.Staged

/-!
# Staged keys as a table of deadlines

What a store of staged keys answers to any sequence of calls, against a plain table that remembers
only which key an identity has and until when. Every staging arms a timer. Once a timer is due it
may go off at any moment, once, several times or never, and also when its key has been replaced,
taken or dropped since.

The two are compared through the entries that are in time. The store loses an overdue entry as soon
as something notices it; the table never does, and shows it to nobody.
-/

namespace PadRelay

/-- What is left of an entry when a timer runs out: nothing if the timer was set for it. -/
theorem StagedKeys.get?_entries_expire (keys : StagedKeys) (identity other : Identity)
    (generation : Nat) :
    (keys.expire identity generation).entries.get? other =
      if other = identity then
        (keys.entries.get? identity).filter fun staging => staging.generation ≠ generation
      else keys.entries.get? other := by
  rw [expire]
  cases found : keys.entries.get? identity with
  | none => by_cases same : other = identity <;> simp [same, found]
  | some staging =>
      by_cases named : staging.generation = generation <;> by_cases same : other = identity <;>
        simp [named, same, found, Table.get?_erase, Option.filter_some]

@[simp]
theorem StagedKeys.expiry_expire (keys : StagedKeys) (identity : Identity) (generation : Nat) :
    (keys.expire identity generation).expiry = keys.expiry := by
  unfold expire
  grind

@[simp]
theorem StagedKeys.generation_expire (keys : StagedKeys) (identity : Identity) (generation : Nat) :
    (keys.expire identity generation).generation = keys.generation := by
  unfold expire
  grind

theorem StagedKeys.remove_fst (keys : StagedKeys) (now : Nat) (identity : Identity) :
    (keys.remove now identity).1 = keys.live now identity := by
  rw [remove, live]
  cases keys.entries.get? identity with
  | none => rfl
  | some staging => by_cases inTime : staging.isLive now <;> simp [Option.filter_some, inTime]

/-- Taking a key is dropping it, if it is the expected one and in time. -/
theorem StagedKeys.takeIf_eq_live (keys : StagedKeys) (now : Nat) (identity : Identity)
    (expected : StagedKey) :
    keys.takeIf now identity expected =
      match keys.live now identity with
      | some held =>
          if held.stamp = expected.stamp then (some held, (keys.remove now identity).2)
          else (none, keys)
      | none => (none, keys) := by
  rw [takeIf, live, remove_snd]
  cases keys.entries.get? identity with
  | none => rfl
  | some staging => by_cases inTime : staging.isLive now <;> simp [Option.filter_some, inTime]

namespace Waiting

/-- One thing that happens to staged keys. -/
inductive Act where
  /-- A new key is staged. -/
  | put (identity : Identity) (key : Key)
  /-- A key that exists already is staged. -/
  | putHeld (identity : Identity) (held : StagedKey)
  /-- The key of an identity is looked up. -/
  | get (identity : Identity)
  /-- Somebody asks whether an identity has a key. -/
  | contains (identity : Identity)
  /-- The key of an identity is taken if it is the expected one. -/
  | takeIf (identity : Identity) (expected : StagedKey)
  /-- The key of an identity is dropped. -/
  | remove (identity : Identity)
  /-- All keys are dropped. -/
  | clear
  /-- Time goes on. -/
  | passes (duration : Nat)
  /-- A timer goes off if it is due. Timers are numbered in the order in which they were armed. -/
  | fires (number : Nat)

/-- What a call gives back. -/
inductive Answer where
  | silent
  | key (found : Option StagedKey)
  | present (answer : Bool)
deriving DecidableEq

/-- A key and the first moment at which it counts as absent. -/
structure Entry where
  held : StagedKey
  deadline : Nat
deriving DecidableEq

/-- Whether an entry still counts. -/
def Entry.isLive (entry : Entry) (now : Nat) : Bool := now < entry.deadline

def entryOf (staging : Staging) : Entry := ⟨staging.held, staging.deadline⟩

/-- The acts that take the entry of an identity away, given the key in it. -/
def Act.Removes (act : Act) (identity : Identity) (held : Option StagedKey) : Prop :=
  match act with
  | .put other _ | .putHeld other _ | .remove other => other = identity
  | .takeIf other expected => other = identity ∧ held.map StagedKey.stamp = some expected.stamp
  | .clear => True
  | .get _ | .contains _ | .passes _ | .fires _ => False

/-! ### The store with its timers -/

/-- A timer that a staging has armed. -/
structure Timer where
  identity : Identity
  generation : Nat
  due : Nat

/-- Staged keys with every timer that was ever armed for them. -/
structure Shelf where
  keys : StagedKeys
  timers : List Timer := []
  now : Nat := 0

namespace Shelf

def fresh (expiry : Nat) : Shelf := { keys := { expiry } }

/-- What was staged just now gets its timer. -/
def arm (shelf : Shelf) (identity : Identity) (staged : StagedKeys) : Shelf :=
  let timer : Timer := ⟨identity, shelf.keys.generation, shelf.now + shelf.keys.expiry⟩
  { shelf with keys := staged, timers := shelf.timers ++ [timer] }

/-- A timer goes off, if it is due. -/
def fire (shelf : Shelf) (timer : Timer) : Shelf :=
  if timer.due ≤ shelf.now then
    { shelf with keys := shelf.keys.expire timer.identity timer.generation }
  else shelf

/-- The answer to an act, and what it leaves. -/
def act (shelf : Shelf) : Act → Answer × Shelf
  | .put identity key =>
      (.silent, shelf.arm identity (shelf.keys.put shelf.now identity key))
  | .putHeld identity held =>
      (.silent, shelf.arm identity (shelf.keys.putHeld shelf.now identity held))
  | .get identity =>
      let (found, keys) := shelf.keys.get shelf.now identity
      (.key found, { shelf with keys })
  | .contains identity =>
      let (found, keys) := shelf.keys.get shelf.now identity
      (.present found.isSome, { shelf with keys })
  | .takeIf identity expected =>
      let (taken, keys) := shelf.keys.takeIf shelf.now identity expected
      (.key taken, { shelf with keys })
  | .remove identity =>
      let (lost, keys) := shelf.keys.remove shelf.now identity
      (.key lost, { shelf with keys })
  | .clear => (.silent, { shelf with keys := shelf.keys.clear })
  | .passes duration => (.silent, { shelf with now := shelf.now + duration })
  | .fires number =>
      (.silent, match shelf.timers[number]? with
        | some timer => shelf.fire timer
        | none => shelf)

def answers (shelf : Shelf) : List Act → List Answer
  | [] => []
  | act :: rest => (shelf.act act).1 :: (shelf.act act).2.answers rest

def after (shelf : Shelf) (acts : List Act) : Shelf :=
  acts.foldl (fun shelf act => (shelf.act act).2) shelf

def waiting (shelf : Shelf) (identity : Identity) : Option Entry :=
  ((shelf.keys.entries.get? identity).map entryOf).filter fun entry => entry.isLive shelf.now

theorem live_eq_waiting (shelf : Shelf) (identity : Identity) :
    shelf.keys.live shelf.now identity = (shelf.waiting identity).map Entry.held := by
  rw [StagedKeys.live, waiting]
  cases shelf.keys.entries.get? identity with
  | none => rfl
  | some staging =>
      by_cases inTime : shelf.now < staging.deadline <;>
        simp [Staging.isLive, Entry.isLive, entryOf, Option.filter_some, inTime]

end Shelf

/-! ### The table of deadlines -/

/-- Which key every identity has, and until when. -/
structure Ledger where
  /-- How long a key counts. -/
  expiry : Nat
  /-- The keys with their deadlines. -/
  entries : Table Identity Entry := ∅
  /-- How many keys were stored, which tells a new one from all others. -/
  stored : Nat := 0
  /-- What time it is. -/
  now : Nat := 0

namespace Ledger

/-- No keys, and no time has passed. -/
def fresh (expiry : Nat) : Ledger := { expiry }

/-- Enter a key until the expiry from now. -/
def store (ledger : Ledger) (identity : Identity) (held : StagedKey) : Ledger :=
  { ledger with
    entries := ledger.entries.insert identity ⟨held, ledger.now + ledger.expiry⟩
    stored := ledger.stored + 1 }

def strike (ledger : Ledger) (identity : Identity) : Ledger :=
  { ledger with entries := ledger.entries.erase identity }

def waiting (ledger : Ledger) (identity : Identity) : Option Entry :=
  (ledger.entries.get? identity).filter fun entry => entry.isLive ledger.now

def live (ledger : Ledger) (identity : Identity) : Option StagedKey :=
  (ledger.waiting identity).map Entry.held

/-- The answer to an act, and what it leaves. A key is the expected one if it is the same key, not
just the same bytes. Timers mean nothing here. -/
def act (ledger : Ledger) : Act → Answer × Ledger
  | .put identity key => (.silent, ledger.store identity ⟨key, ledger.stored⟩)
  | .putHeld identity held => (.silent, ledger.store identity held)
  | .get identity => (.key (ledger.live identity), ledger)
  | .contains identity => (.present (ledger.live identity).isSome, ledger)
  | .takeIf identity expected =>
      match ledger.live identity with
      | some held =>
          if held.stamp = expected.stamp then (.key (some held), ledger.strike identity)
          else (.key none, ledger)
      | none => (.key none, ledger)
  | .remove identity => (.key (ledger.live identity), ledger.strike identity)
  | .clear => (.silent, { ledger with entries := ∅ })
  | .passes duration => (.silent, { ledger with now := ledger.now + duration })
  | .fires _ => (.silent, ledger)

def answers (ledger : Ledger) : List Act → List Answer
  | [] => []
  | act :: rest => (ledger.act act).1 :: (ledger.act act).2.answers rest

def after (ledger : Ledger) (acts : List Act) : Ledger :=
  acts.foldl (fun ledger act => (ledger.act act).2) ledger

variable (ledger : Ledger) (identity other : Identity)

theorem waiting_strike_of_ne (different : other ≠ identity) :
    (ledger.strike identity).waiting other = ledger.waiting other := by
  simp [waiting, strike, Table.get?_erase_of_ne _ different]

theorem waiting_store_of_ne (held : StagedKey) (different : other ≠ identity) :
    (ledger.store identity held).waiting other = ledger.waiting other := by
  simp [waiting, store, Table.get?_insert_of_ne _ _ different]

/-- What counts still counts while no time passes. -/
theorem waiting_of_unmoved {ledger after : Ledger} {identity : Identity}
    (now : after.now = ledger.now) (same : after.waiting identity = ledger.waiting identity) :
    after.waiting identity =
      (ledger.waiting identity).filter fun entry => entry.isLive after.now := by
  rw [same, now, waiting, Option.filter_filter]
  simp

theorem waiting_passes (duration : Nat) :
    (ledger.act (.passes duration)).2.waiting identity =
      (ledger.waiting identity).filter fun entry => entry.isLive (ledger.now + duration) := by
  simp only [act, waiting, Option.filter_filter]
  refine congrArg (fun condition => Option.filter condition _) (funext fun entry => ?_)
  simp only [Entry.isLive, ← Bool.decide_and, decide_eq_decide]
  omega

/-- An entry that counts is gone only through an act that removes it, or through its deadline. -/
theorem waiting_act (act : Act) :
    act.Removes identity (ledger.live identity) ∨
      (ledger.act act).2.waiting identity =
        (ledger.waiting identity).filter fun entry => entry.isLive (ledger.act act).2.now := by
  cases act with
  | put other key =>
      by_cases same : other = identity
      · exact .inl same
      · exact .inr (waiting_of_unmoved rfl
          (ledger.waiting_store_of_ne other identity _ (Ne.symm same)))
  | putHeld other held =>
      by_cases same : other = identity
      · exact .inl same
      · exact .inr (waiting_of_unmoved rfl
          (ledger.waiting_store_of_ne other identity _ (Ne.symm same)))
  | get other => exact .inr (waiting_of_unmoved rfl rfl)
  | contains other => exact .inr (waiting_of_unmoved rfl rfl)
  | takeIf other expected =>
      rw [Ledger.act]
      split
      · next held shown =>
          split
          · next expects =>
              by_cases same : other = identity
              · exact .inl ⟨same, by rw [← same, shown, Option.map_some, expects]⟩
              · exact .inr (waiting_of_unmoved rfl
                  (ledger.waiting_strike_of_ne other identity (Ne.symm same)))
          · exact .inr (waiting_of_unmoved rfl rfl)
      · exact .inr (waiting_of_unmoved rfl rfl)
  | remove other =>
      by_cases same : other = identity
      · exact .inl same
      · exact .inr (waiting_of_unmoved rfl
          (ledger.waiting_strike_of_ne other identity (Ne.symm same)))
  | clear => exact .inl trivial
  | passes duration => exact .inr (ledger.waiting_passes identity duration)
  | fires number => exact .inr (waiting_of_unmoved rfl rfl)

end Ledger

/-! ### One against the other -/

/-- The table has every entry of the store, the store has every entry of the table that still
counts, and a timer of an entry is not due before that entry is overdue. -/
structure Tracks (shelf : Shelf) (ledger : Ledger) : Prop where
  now : shelf.now = ledger.now
  expiry : shelf.keys.expiry = ledger.expiry
  stored : shelf.keys.generation = ledger.stored
  recorded : ∀ identity staging, shelf.keys.entries.get? identity = some staging →
    ledger.entries.get? identity = some (entryOf staging)
  present : ∀ identity entry, ledger.entries.get? identity = some entry →
    entry.isLive ledger.now = true →
      ∃ staging, shelf.keys.entries.get? identity = some staging
  staged : ∀ identity staging, shelf.keys.entries.get? identity = some staging →
    staging.generation < shelf.keys.generation
  armed : ∀ timer ∈ shelf.timers, timer.generation < shelf.keys.generation
  patient : ∀ timer ∈ shelf.timers, ∀ staging,
    shelf.keys.entries.get? timer.identity = some staging →
      staging.generation = timer.generation → staging.deadline ≤ timer.due

namespace Tracks

variable {shelf : Shelf} {ledger : Ledger}

theorem waiting (tracks : Tracks shelf ledger) (identity : Identity) :
    shelf.waiting identity = ledger.waiting identity := by
  rw [Shelf.waiting, Ledger.waiting, tracks.now]
  cases staged : shelf.keys.entries.get? identity with
  | some staging => rw [tracks.recorded identity staging staged, Option.map_some]
  | none =>
      symm
      rw [Option.map_none, Option.filter_none, Option.filter_eq_none_iff]
      intro entry written counts
      obtain ⟨staging, present⟩ := tracks.present identity entry written counts
      rw [staged] at present
      cases present

theorem live (tracks : Tracks shelf ledger) (identity : Identity) :
    shelf.keys.live shelf.now identity = ledger.live identity := by
  rw [shelf.live_eq_waiting identity, tracks.waiting identity, Ledger.live]

theorem fresh (expiry : Nat) : Tracks (.fresh expiry) (.fresh expiry) where
  now := rfl
  expiry := rfl
  stored := rfl
  recorded _ _ found := by cases found
  present _ _ found := by cases found
  staged _ _ found := by cases found
  armed _ member := by cases member
  patient _ member := by cases member

/-- The store may lose entries that no longer count. -/
theorem thin (tracks : Tracks shelf ledger) {keys : StagedKeys}
    (expiry : keys.expiry = shelf.keys.expiry)
    (generation : keys.generation = shelf.keys.generation)
    (fewer : ∀ identity staging, keys.entries.get? identity = some staging →
      shelf.keys.entries.get? identity = some staging)
    (kept : ∀ identity staging, shelf.keys.entries.get? identity = some staging →
      staging.isLive shelf.now = true → keys.entries.get? identity = some staging) :
    Tracks { shelf with keys } ledger where
  now := tracks.now
  expiry := expiry.trans tracks.expiry
  stored := generation.trans tracks.stored
  recorded identity staging found := tracks.recorded identity staging (fewer identity staging found)
  present identity entry written counts := by
    obtain ⟨staging, found⟩ := tracks.present identity entry written counts
    have same := tracks.recorded identity staging found
    rw [written, Option.some.injEq] at same
    subst same
    rw [← tracks.now] at counts
    exact ⟨staging, kept identity staging found counts⟩
  staged identity staging found :=
    generation ▸ tracks.staged identity staging (fewer identity staging found)
  armed timer member := generation ▸ tracks.armed timer member
  patient timer member staging found := tracks.patient timer member staging (fewer _ staging found)

/-- A lookup loses an overdue entry at most. -/
theorem look (tracks : Tracks shelf ledger) (identity : Identity) :
    Tracks { shelf with keys := (shelf.keys.get shelf.now identity).2 } ledger := by
  rw [StagedKeys.get_snd]
  refine tracks.thin (by simp) (by simp) ?_ ?_
  · intro other staging found
    rw [StagedKeys.get?_entries_expireDue] at found
    split at found
    · next same => exact same ▸ (Option.filter_eq_some_iff.1 found).1
    · exact found
  · intro other staging found inTime
    rw [StagedKeys.get?_entries_expireDue]
    split
    · next same => exact Option.filter_eq_some_iff.2 ⟨same ▸ found, inTime⟩
    · exact found

/-- A timer that is due finds no entry of its own that still counts. -/
theorem fire (tracks : Tracks shelf ledger) {timer : Timer} (member : timer ∈ shelf.timers) :
    Tracks (shelf.fire timer) ledger := by
  rw [Shelf.fire]
  split
  · next due =>
      refine tracks.thin (by simp) (by simp) ?_ ?_
      · intro other staging found
        rw [StagedKeys.get?_entries_expire] at found
        split at found
        · next same => exact same ▸ (Option.filter_eq_some_iff.1 found).1
        · exact found
      · intro other staging found inTime
        rw [StagedKeys.get?_entries_expire]
        split
        · next same =>
            subst same
            refine Option.filter_eq_some_iff.2 ⟨found, decide_eq_true fun named => ?_⟩
            have patient := tracks.patient timer member staging found named
            simp only [Staging.isLive, decide_eq_true_eq] at inTime
            omega
        · exact found
  · exact tracks

/-- Both lose the entry of an identity. -/
theorem strike (tracks : Tracks shelf ledger) (identity : Identity) :
    Tracks { shelf with keys := (shelf.keys.remove shelf.now identity).2 }
      (ledger.strike identity) := by
  have loses (other : Identity) :
      (shelf.keys.remove shelf.now identity).2.entries.get? other =
        if other = identity then none else shelf.keys.entries.get? other := by
    rw [StagedKeys.remove_snd, Table.get?_erase]
  have fewer (other : Identity) (staging : Staging)
      (found : (shelf.keys.remove shelf.now identity).2.entries.get? other = some staging) :
      other ≠ identity ∧ shelf.keys.entries.get? other = some staging := by
    rw [loses] at found
    split at found
    · cases found
    · next different => exact ⟨different, found⟩
  have generation : (shelf.keys.remove shelf.now identity).2.generation = shelf.keys.generation := by
    rw [StagedKeys.remove_snd]
  refine ⟨tracks.now, ?_, generation.trans tracks.stored, ?_, ?_, ?_, ?_, ?_⟩
  · exact (congrArg StagedKeys.expiry (shelf.keys.remove_snd _ _)).trans tracks.expiry
  · intro other staging found
    obtain ⟨different, before⟩ := fewer other staging found
    rw [Ledger.strike, Table.get?_erase_of_ne _ different, tracks.recorded other staging before]
  · intro other entry written counts
    simp only [Ledger.strike, Table.get?_erase] at written
    split at written
    · cases written
    · next different =>
        rw [loses, if_neg different]
        exact tracks.present other entry written counts
  · exact fun other staging found => generation ▸ tracks.staged other staging (fewer _ _ found).2
  · exact fun timer member => generation ▸ tracks.armed timer member
  · exact fun timer member staging found => tracks.patient timer member staging (fewer _ _ found).2

/-- Both enter a key. -/
theorem store (tracks : Tracks shelf ledger) (identity : Identity) (held : StagedKey) :
    Tracks (shelf.arm identity (shelf.keys.putHeld shelf.now identity held))
      (ledger.store identity held) where
  now := tracks.now
  expiry := tracks.expiry
  stored := congrArg (· + 1) tracks.stored
  recorded other staging found := by
    simp only [Shelf.arm, StagedKeys.putHeld, Ledger.store, Table.get?_insert] at found ⊢
    split at found
    · next same =>
        cases found
        rw [if_pos same, tracks.now, tracks.expiry]
        rfl
    · next different => rw [if_neg different, tracks.recorded other staging found]
  present other entry written counts := by
    simp only [Shelf.arm, StagedKeys.putHeld, Ledger.store, Table.get?_insert] at written counts ⊢
    split at written
    · next same => exact ⟨_, if_pos same⟩
    · next different =>
        rw [if_neg different]
        exact tracks.present other entry written counts
  staged other staging found := by
    simp only [Shelf.arm, StagedKeys.putHeld, Table.get?_insert] at found ⊢
    split at found
    · cases found
      exact Nat.lt_succ_self _
    · exact Nat.lt_succ_of_lt (tracks.staged other staging found)
  armed timer member := by
    simp only [Shelf.arm, StagedKeys.putHeld, List.mem_append, List.mem_singleton] at member ⊢
    rcases member with earlier | rfl
    · exact Nat.lt_succ_of_lt (tracks.armed timer earlier)
    · exact Nat.lt_succ_self _
  patient timer member staging found named := by
    simp only [Shelf.arm, StagedKeys.putHeld, List.mem_append, List.mem_singleton,
      Table.get?_insert] at member found
    rcases member with earlier | rfl
    · split at found
      · -- The new staging has a number that no earlier timer was set for.
        cases found
        exact absurd named (Nat.ne_of_gt (tracks.armed timer earlier))
      · exact tracks.patient timer earlier staging found named
    · rw [if_pos rfl] at found
      cases found
      exact Nat.le_refl _

theorem clear (tracks : Tracks shelf ledger) :
    Tracks { shelf with keys := shelf.keys.clear } { ledger with entries := ∅ } where
  now := tracks.now
  expiry := tracks.expiry
  stored := tracks.stored
  recorded _ _ found := by cases found
  present _ _ found := by cases found
  staged _ _ found := by cases found
  armed := tracks.armed
  patient _ _ _ found := by cases found

theorem passes (tracks : Tracks shelf ledger) (duration : Nat) :
    Tracks { shelf with now := shelf.now + duration }
      { ledger with now := ledger.now + duration } where
  now := congrArg (· + duration) tracks.now
  expiry := tracks.expiry
  stored := tracks.stored
  recorded := tracks.recorded
  present identity entry written counts := by
    refine tracks.present identity entry written ?_
    simp only [Entry.isLive, decide_eq_true_eq] at counts ⊢
    omega
  staged := tracks.staged
  armed := tracks.armed
  patient := tracks.patient

/-- Every act gets the same answer from both and keeps them together. -/
theorem act (tracks : Tracks shelf ledger) (act : Act) :
    (shelf.act act).1 = (ledger.act act).1 ∧ Tracks (shelf.act act).2 (ledger.act act).2 := by
  cases act with
  | put identity key =>
      refine ⟨rfl, ?_⟩
      rw [Ledger.act, ← tracks.stored]
      exact tracks.store identity _
  | putHeld identity held => exact ⟨rfl, tracks.store identity held⟩
  | get identity =>
      have same := (shelf.keys.get_fst shelf.now identity).trans (tracks.live identity)
      exact ⟨congrArg Answer.key same, tracks.look identity⟩
  | contains identity =>
      have same := (shelf.keys.get_fst shelf.now identity).trans (tracks.live identity)
      exact ⟨congrArg (Answer.present ∘ Option.isSome) same, tracks.look identity⟩
  | takeIf identity expected =>
      simp only [Shelf.act, Ledger.act, StagedKeys.takeIf_eq_live, tracks.live identity]
      split
      · split
        · exact ⟨rfl, tracks.strike identity⟩
        · exact ⟨rfl, tracks⟩
      · exact ⟨rfl, tracks⟩
  | remove identity =>
      have same := (shelf.keys.remove_fst shelf.now identity).trans (tracks.live identity)
      exact ⟨congrArg Answer.key same, tracks.strike identity⟩
  | clear => exact ⟨rfl, tracks.clear⟩
  | passes duration => exact ⟨rfl, tracks.passes duration⟩
  | fires number =>
      refine ⟨rfl, ?_⟩
      simp only [Shelf.act, Ledger.act]
      cases chosen : shelf.timers[number]? with
      | none => exact tracks
      | some timer => exact tracks.fire (List.mem_of_getElem? chosen)

theorem answers (tracks : Tracks shelf ledger) (acts : List Act) :
    shelf.answers acts = ledger.answers acts := by
  induction acts generalizing shelf ledger with
  | nil => rfl
  | cons act rest induction =>
      obtain ⟨same, next⟩ := tracks.act act
      rw [Shelf.answers, Ledger.answers, same, induction next]

theorem after (tracks : Tracks shelf ledger) (acts : List Act) :
    Tracks (shelf.after acts) (ledger.after acts) := by
  induction acts generalizing shelf ledger with
  | nil => exact tracks
  | cons act rest induction => exact induction (tracks.act act).2

end Tracks

/-- Staged keys answer every sequence of acts as the table of deadlines does, whichever timers have
gone off in between. Whatever waits at any moment goes on waiting through the next act, unless that
act removes it or brings it to its deadline. -/
theorem answers_eq_ledger (expiry : Nat) (acts : List Act) :
    (Shelf.fresh expiry).answers acts = (Ledger.fresh expiry).answers acts ∧
      ∀ act identity,
        let shelf := (Shelf.fresh expiry).after acts
        act.Removes identity (shelf.keys.live shelf.now identity) ∨
          (shelf.act act).2.waiting identity =
            (shelf.waiting identity).filter fun entry => entry.isLive (shelf.act act).2.now := by
  refine ⟨(Tracks.fresh expiry).answers acts, fun act identity => ?_⟩
  have tracks := (Tracks.fresh expiry).after acts
  have next := (tracks.act act).2
  simp only
  rw [tracks.live identity, tracks.waiting identity, next.waiting identity, next.now]
  exact Ledger.waiting_act _ identity act

end Waiting

end PadRelay
