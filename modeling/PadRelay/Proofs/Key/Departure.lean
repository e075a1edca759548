import Mathlib.Data.List.Induction
import Mathlib.Data.List.Range
import PadRelay.Proofs.Gather
import PadRelay.Proofs.Key.Waiting

/-!
# How staged keys leave

A staged key can leave in five ways: a newer key replaces it, it expires, it is taken, it is
removed, or everything is cleared. Expiry alone has two causes, for a timer may go off and a look-up
may come too late, and a timer may go off long after its key has left for another reason. Every
staging has a number of its own, so that each of them is among those that have left or among those
that are stored, and never twice.
-/

namespace PadRelay

def StagedKeys.generations (keys : StagedKeys) : List Nat :=
  keys.entries.values.map Staging.generation

@[simp]
theorem StagedKeys.length_generations (keys : StagedKeys) :
    keys.generations.length = keys.entries.size := by
  simp [generations, Table.values, Table.size]

theorem StagedKeys.generation_mem (keys : StagedKeys) {identity : Identity} {staging : Staging}
    (found : keys.entries.get? identity = some staging) :
    staging.generation ∈ keys.generations := by
  rw [Table.get?_eq_some_iff] at found
  exact List.mem_map_of_mem (List.mem_map_of_mem found)

/-- A timer whose generation is not stored under its identity changes nothing. -/
theorem StagedKeys.expire_of_stale (keys : StagedKeys) {identity : Identity} {generation : Nat}
    (stale : (keys.entries.get? identity).map Staging.generation ≠ some generation) :
    keys.expire identity generation = keys := by
  rw [expire]
  cases found : keys.entries.get? identity with
  | none => rfl
  | some staging =>
      rw [found, Option.map_some, ne_eq, Option.some.injEq] at stale
      exact if_neg stale

namespace Waiting

/-- Whether an act stages a key. -/
def Act.isPut : Act → Bool
  | .put _ _ | .putHeld _ _ => true
  | _ => false

/-- Whether an act asks for a key to be taken. -/
def Act.isTake : Act → Bool
  | .takeIf _ _ => true
  | _ => false

/-- How a staged key can leave. -/
inductive Exit where
  /-- Another key was staged for its identity. -/
  | replaced
  /-- Its time was up, and something noticed. -/
  | expired
  /-- It was taken. -/
  | taken
  /-- The key of its identity was removed. -/
  | removed
  /-- All keys were dropped. -/
  | cleared
deriving DecidableEq

/-- The end of a staging. -/
structure Departure where
  generation : Nat
  exit : Exit
deriving DecidableEq

namespace Shelf

def leaving (shelf : Shelf) (identity : Identity) (exit : Exit) : List Departure :=
  (shelf.keys.entries.get? identity).toList.map fun staging => ⟨staging.generation, exit⟩

/-- The stagings that an act ends. -/
def departures (shelf : Shelf) : Act → List Departure
  | .put identity _ | .putHeld identity _ => shelf.leaving identity .replaced
  | .get identity | .contains identity =>
      -- What is stored but not shown is overdue.
      if (shelf.keys.get shelf.now identity).1.isNone then shelf.leaving identity .expired else []
  | .takeIf identity expected =>
      if (shelf.keys.takeIf shelf.now identity expected).1.isSome then
        shelf.leaving identity .taken
      else []
  | .remove identity => shelf.leaving identity .removed
  | .clear => shelf.keys.generations.map fun generation => ⟨generation, .cleared⟩
  | .passes _ => []
  | .fires number =>
      match shelf.timers[number]? with
      | some timer =>
          if timer.due ≤ shelf.now ∧
              (shelf.keys.entries.get? timer.identity).map Staging.generation =
                some timer.generation then
            shelf.leaving timer.identity .expired
          else []
      | none => []

/-- The stagings that a run ends, in order. -/
def departed (shelf : Shelf) (acts : List Act) : List Departure :=
  gather (fun shelf act => (shelf.act act).2) departures shelf acts

end Shelf

/-- The log tells the end of every staging that is not stored any more. -/
structure Accounted (keys : StagedKeys) (log : List Departure) : Prop where
  each : (log.map Departure.generation ++ keys.generations).Perm (List.range keys.generation)
  expired : log.countP (·.exit = .expired) = keys.expired

namespace Accounted

variable {keys : StagedKeys} {log : List Departure}

/-- An entry goes, and its end is told. -/
theorem lose (accounted : Accounted keys log) {identity : Identity} {staging : Staging}
    (found : keys.entries.get? identity = some staging) {exit : Exit} {after : StagedKeys}
    (entries : after.entries = keys.entries.erase identity)
    (generation : after.generation = keys.generation)
    (expired : after.expired = keys.expired + if exit = .expired then 1 else 0) :
    Accounted after (log ++ [⟨staging.generation, exit⟩]) where
  each := by
    have lost : keys.generations.Perm (staging.generation :: after.generations) := by
      rw [StagedKeys.generations, StagedKeys.generations, entries]
      exact ((keys.entries.entries_perm_erase found).map Prod.snd).map Staging.generation
    rw [generation]
    refine List.Perm.trans ?_ accounted.each
    rw [List.map_append, List.append_assoc]
    exact lost.symm.append_left _
  expired := by
    rw [List.countP_append, accounted.expired, expired, List.countP_singleton]
    simp

theorem congr (accounted : Accounted keys log) {after : StagedKeys}
    (entries : after.entries = keys.entries) (generation : after.generation = keys.generation)
    (expired : after.expired = keys.expired) : Accounted after log where
  each := by
    have same : after.generations = keys.generations := by
      rw [StagedKeys.generations, entries, StagedKeys.generations]
    rw [same, generation]
    exact accounted.each
  expired := accounted.expired.trans expired.symm

theorem store (accounted : Accounted keys log) {identity : Identity} {staging : Staging}
    (new : staging.generation = keys.generation) {after : StagedKeys}
    (entries : after.entries.entries = (identity, staging) :: keys.entries.entries)
    (generation : after.generation = keys.generation + 1)
    (expired : after.expired = keys.expired) : Accounted after log where
  each := by
    have joined : after.generations = keys.generation :: keys.generations := by
      simp [StagedKeys.generations, Table.values, entries, new]
    rw [joined, generation, List.range_succ]
    exact List.perm_middle.trans
      ((accounted.each.cons _).trans (List.perm_append_singleton _ _).symm)
  expired := accounted.expired.trans expired.symm

end Accounted

namespace Shelf

variable {shelf : Shelf} {log : List Departure}

/-- The entry of an identity goes, if there is one, for another reason than time. -/
theorem accounted_leaving (accounted : Accounted shelf.keys log) (identity : Identity) {exit : Exit}
    (timeless : exit ≠ .expired) {after : StagedKeys}
    (entries : after.entries = shelf.keys.entries.erase identity)
    (generation : after.generation = shelf.keys.generation)
    (expired : after.expired = shelf.keys.expired) :
    Accounted after (log ++ shelf.leaving identity exit) := by
  rw [leaving]
  cases found : shelf.keys.entries.get? identity with
  | none =>
      rw [Table.erase_of_get?_eq_none _ found] at entries
      simpa using accounted.congr entries generation expired
  | some staging =>
      exact accounted.lose found entries generation (by rw [expired, if_neg timeless, Nat.add_zero])

theorem accounted_putHeld (accounted : Accounted shelf.keys log) (identity : Identity)
    (held : StagedKey) : Accounted (shelf.keys.putHeld shelf.now identity held)
      (log ++ shelf.leaving identity .replaced) := by
  have emptied : Accounted { shelf.keys with entries := shelf.keys.entries.erase identity }
      (log ++ shelf.leaving identity .replaced) :=
    accounted_leaving accounted identity Exit.noConfusion rfl rfl rfl
  exact emptied.store rfl rfl rfl rfl

/-- What a look-up does not show is overdue, if it is there. -/
theorem accounted_get (accounted : Accounted shelf.keys log) (identity : Identity) :
    Accounted (shelf.keys.get shelf.now identity).2
      (log ++ if (shelf.keys.get shelf.now identity).1.isNone then
        shelf.leaving identity .expired else []) := by
  rw [StagedKeys.get_snd, StagedKeys.get_fst, StagedKeys.live, leaving]
  cases found : shelf.keys.entries.get? identity with
  | none =>
      rw [StagedKeys.expireDue_of_absent _ _ _ found]
      simpa using accounted
  | some staging =>
      cases inTime : staging.isLive shelf.now with
      | true =>
          rw [StagedKeys.expireDue_of_live _ _ _ found inTime]
          simpa [Option.filter_some, inTime] using accounted
      | false =>
          rw [StagedKeys.expireDue_of_overdue _ _ _ found inTime]
          have told : (if (((some staging).filter (·.isLive shelf.now)).map
              Staging.held).isNone then [⟨staging.generation, .expired⟩] else []) =
                [(⟨staging.generation, .expired⟩ : Departure)] := by
            simp [Option.filter_some, inTime]
          exact told ▸ accounted.lose found rfl rfl rfl

theorem accounted_takeIf (accounted : Accounted shelf.keys log) (identity : Identity)
    (expected : StagedKey) :
    Accounted (shelf.keys.takeIf shelf.now identity expected).2
      (log ++ if (shelf.keys.takeIf shelf.now identity expected).1.isSome then
        shelf.leaving identity .taken else []) := by
  cases took : shelf.keys.takeIf shelf.now identity expected with
  | mk taken rest =>
      cases taken with
      | none =>
          rw [StagedKeys.takeIf_eq_none _ _ _ took]
          simpa using accounted
      | some held =>
          obtain ⟨staging, -, -, -, rfl⟩ := StagedKeys.takeIf_eq_some _ _ _ took
          exact accounted_leaving accounted identity Exit.noConfusion rfl rfl rfl

theorem accounted_clear (accounted : Accounted shelf.keys log) :
    Accounted shelf.keys.clear
      (log ++ shelf.keys.generations.map fun generation => ⟨generation, .cleared⟩) where
  each := by
    have told : (shelf.keys.generations.map fun generation =>
        (⟨generation, .cleared⟩ : Departure)).map Departure.generation =
          shelf.keys.generations := by
      rw [List.map_map]
      exact List.map_id _
    have nothing : shelf.keys.clear.generations = [] := rfl
    rw [List.map_append, told, nothing, List.append_nil]
    exact accounted.each
  expired := by
    rw [List.countP_append, accounted.expired, List.countP_map]
    simp [StagedKeys.clear, Function.comp_def]

/-- A timer ends the staging that it was set for, if that is still stored. -/
theorem accounted_fires (accounted : Accounted shelf.keys log) (number : Nat) :
    Accounted (shelf.act (.fires number)).2.keys (log ++ shelf.departures (.fires number)) := by
  simp only [act, departures]
  cases shelf.timers[number]? with
  | none => simpa using accounted
  | some timer =>
      by_cases due : timer.due ≤ shelf.now
      · simp only [fire, due, if_true, true_and]
        split
        · next stored =>
            obtain ⟨staging, found, own⟩ := Option.map_eq_some_iff.1 stored
            have gone : shelf.keys.expire timer.identity timer.generation =
                { shelf.keys with
                  entries := shelf.keys.entries.erase timer.identity
                  retired := shelf.keys.retired.insert timer.identity staging.held
                  expired := shelf.keys.expired + 1 } := by
              simp [StagedKeys.expire, found, own]
            rw [gone, leaving, found]
            exact accounted.lose found rfl rfl rfl
        · next stale =>
            rw [shelf.keys.expire_of_stale stale, List.append_nil]
            exact accounted
      · simpa [fire, due] using accounted

theorem accounted_act (accounted : Accounted shelf.keys log) (act : Act) :
    Accounted (shelf.act act).2.keys (log ++ shelf.departures act) := by
  cases act with
  | put identity key => exact accounted_putHeld accounted identity _
  | putHeld identity held => exact accounted_putHeld accounted identity held
  | get identity => exact accounted_get accounted identity
  | contains identity => exact accounted_get accounted identity
  | takeIf identity expected => exact accounted_takeIf accounted identity expected
  | remove identity =>
      simp only [Shelf.act, StagedKeys.remove_snd]
      exact accounted_leaving accounted identity Exit.noConfusion rfl rfl rfl
  | clear => exact accounted_clear accounted
  | passes duration => simpa [departures, Shelf.act] using accounted
  | fires number => exact accounted_fires accounted number

theorem generation_act (shelf : Shelf) (act : Act) :
    (shelf.act act).2.keys.generation =
      shelf.keys.generation + if act.isPut then 1 else 0 := by
  cases act with
  | put | putHeld => rfl
  | get identity | contains identity =>
      simp only [Shelf.act, StagedKeys.get_snd]
      exact StagedKeys.generation_expireDue ..
  | takeIf identity expected =>
      simp only [Shelf.act]
      cases took : shelf.keys.takeIf shelf.now identity expected with
      | mk taken rest =>
          cases taken with
          | none => rw [StagedKeys.takeIf_eq_none _ _ _ took]; rfl
          | some held =>
              obtain ⟨staging, -, -, -, rfl⟩ := StagedKeys.takeIf_eq_some _ _ _ took
              rfl
  | remove identity =>
      simp only [Shelf.act, StagedKeys.remove_snd]
      rfl
  | clear | passes => rfl
  | fires number =>
      simp only [Shelf.act]
      split
      · rw [fire]
        split
        · exact StagedKeys.generation_expire ..
        · rfl
      · rfl

theorem accounted_after (expiry : Nat) (acts : List Act) :
    Accounted ((fresh expiry).after acts).keys ((fresh expiry).departed acts) ∧
      ((fresh expiry).after acts).keys.generation = acts.countP Act.isPut := by
  induction acts using List.reverseRecOn with
  | nil => exact ⟨⟨.refl _, rfl⟩, rfl⟩
  | append_singleton acts last induction =>
      obtain ⟨accounted, generation⟩ := induction
      rw [departed, gather_append, after, List.foldl_append, List.countP_append,
        List.countP_singleton]
      exact ⟨accounted_act accounted last,
        (generation_act _ last).trans (congrArg (· + _) generation)⟩

theorem countP_leaving (shelf : Shelf) (identity : Identity) {exit : Exit}
    (other : exit ≠ .taken) : (shelf.leaving identity exit).countP (·.exit = .taken) = 0 := by
  rw [leaving]
  cases shelf.keys.entries.get? identity <;> simp [other]

/-- One key is told to be taken if somebody who asks for it is given one. -/
theorem countP_departures (shelf : Shelf) (act : Act) :
    (shelf.departures act).countP (·.exit = .taken) =
      if act.isTake && (shelf.act act).1 ≠ .key none then 1 else 0 := by
  cases act with
  | put identity | putHeld identity => exact shelf.countP_leaving identity Exit.noConfusion
  | remove identity => exact shelf.countP_leaving identity Exit.noConfusion
  | get identity | contains identity =>
      rw [departures]
      split
      · exact shelf.countP_leaving identity Exit.noConfusion
      · rfl
  | takeIf identity expected =>
      have given (taken : Option StagedKey) : (Answer.key taken ≠ .key none) ↔ taken.isSome := by
        cases taken <;> simp
      simp only [departures, Shelf.act, Act.isTake, given, Bool.true_and, decide_eq_true_eq]
      split
      · next yielded =>
          obtain ⟨held, taken⟩ := Option.isSome_iff_exists.1 yielded
          obtain ⟨staging, found, -⟩ := StagedKeys.takeIf_eq_some shelf.keys shelf.now identity
            (Prod.ext taken rfl)
          simp [leaving, found]
      · rfl
  | clear => simp [departures, Act.isTake, List.countP_map, Function.comp_def]
  | passes duration => rfl
  | fires number =>
      rw [departures]
      split
      · split
        · exact shelf.countP_leaving _ Exit.noConfusion
        · rfl
      · rfl

/-- Keys are told to be taken as often as somebody is given one. -/
theorem countP_taken (shelf : Shelf) (acts : List Act) :
    (shelf.departed acts).countP (·.exit = .taken) =
      (acts.zip (shelf.answers acts)).countP fun entry =>
        entry.1.isTake && entry.2 ≠ .key none := by
  induction acts generalizing shelf with
  | nil => rfl
  | cons act rest induction =>
      rw [departed, gather, List.countP_append, countP_departures, answers, List.zip_cons_cons,
        List.countP_cons, Nat.add_comm]
      exact congrArg (· + _) (induction _)

end Shelf

theorem length_eq_countP (log : List Departure) :
    log.length = log.countP (·.exit = .replaced) + log.countP (·.exit = .expired) +
      log.countP (·.exit = .taken) + log.countP (·.exit = .removed) +
        log.countP (·.exit = .cleared) := by
  induction log with
  | nil => rfl
  | cons departure log induction =>
      obtain ⟨generation, exit⟩ := departure
      simp only [List.length_cons, List.countP_cons, induction]
      cases exit <;> simp <;> omega

/-- What becomes of the staged keys in a run. -/
structure Balanced (shelf : Shelf) (acts : List Act) : Prop where
  /-- Every staging has ended once, or is stored. -/
  each : ((shelf.departed acts).map Departure.generation ++
    (shelf.after acts).keys.generations).Perm (List.range (acts.countP Act.isPut))
  /-- As many keys were staged as are stored, have expired, or have left otherwise. -/
  total : acts.countP Act.isPut =
    (shelf.after acts).keys.entries.size + (shelf.after acts).keys.expired +
      (shelf.departed acts).countP (·.exit = .replaced) +
        (shelf.departed acts).countP (·.exit = .taken) +
          (shelf.departed acts).countP (·.exit = .removed) +
            (shelf.departed acts).countP (·.exit = .cleared)
  /-- A key is taken each time that somebody who asks for it is given one. -/
  taken : (shelf.departed acts).countP (·.exit = .taken) =
    (acts.zip (shelf.answers acts)).countP fun entry => entry.1.isTake && entry.2 ≠ .key none
  /-- A timer whose generation is not stored under its identity changes nothing. -/
  stale : ∀ timer : Timer,
    ((shelf.after acts).keys.entries.get? timer.identity).map Staging.generation ≠
        some timer.generation → (shelf.after acts).fire timer = shelf.after acts
  /-- In particular, a timer of a key that has left changes nothing. -/
  left : ∀ departure ∈ shelf.departed acts, ∀ identity due,
    (shelf.after acts).fire ⟨identity, departure.generation, due⟩ = shelf.after acts

theorem Shelf.fire_of_stale (shelf : Shelf) {timer : Timer}
    (stale : (shelf.keys.entries.get? timer.identity).map Staging.generation ≠
      some timer.generation) : shelf.fire timer = shelf := by
  rw [fire, shelf.keys.expire_of_stale stale]
  split <;> rfl

/-- Whatever happens to staged keys, and whichever of their timers go off when, every key that is
staged leaves once or is stored. -/
theorem leaves_once (expiry : Nat) (acts : List Act) : Balanced (.fresh expiry) acts := by
  obtain ⟨accounted, generation⟩ := Shelf.accounted_after expiry acts
  have each := accounted.each
  rw [generation] at each
  refine ⟨each, ?_, Shelf.countP_taken _ acts, fun timer => Shelf.fire_of_stale _, ?_⟩
  · have length := each.length_eq
    rw [List.length_append, List.length_map, StagedKeys.length_generations, List.length_range,
      length_eq_countP, accounted.expired] at length
    omega
  · intro departure member identity due
    have apart := (List.nodup_append.1 (each.nodup_iff.2 List.nodup_range)).2.2
    refine Shelf.fire_of_stale _ fun stored => ?_
    obtain ⟨staging, found, own⟩ := Option.map_eq_some_iff.1 stored
    exact apart _ (List.mem_map_of_mem member) _ (StagedKeys.generation_mem _ found) own.symm

end Waiting

end PadRelay
