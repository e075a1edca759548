import Mathlib.Data.List.Nodup
import PadRelay.Connection.Callback

/-!
# Closing runs every callback once

The owner of a lifecycle registers callbacks and closes it, as often and in whatever order it likes,
and callbacks do the same while they run. Whatever they do, nothing runs before the first close.
That close runs the callbacks that wait, in the order of registration; a callback that is registered
from then on runs where it is registered, before anything else goes on. So every callback runs once,
and none of them finds the lifecycle open.
-/

namespace PadRelay.Callback

/-! ### Reading a log -/

def Entry.registration? (entry : Entry) : Option Registration :=
  match entry.what with
  | .registers registration => some registration
  | _ => none

/-- The number of the callback that begins. -/
def Entry.begun? (entry : Entry) : Option Nat :=
  match entry.what, entry.who with
  | .begins, .callback number => some number
  | _, _ => none

/-- The number of the callback that comes to its end. -/
def Entry.ended? (entry : Entry) : Option Nat :=
  match entry.what, entry.who with
  | .ends, .callback number => some number
  | _, _ => none

def registrations (log : List Entry) : List Registration := log.filterMap Entry.registration?

def numbers (log : List Entry) : List Nat := (registrations log).map Registration.number

def begun (log : List Entry) : List Nat := log.filterMap Entry.begun?

def ended (log : List Entry) : List Nat := log.filterMap Entry.ended?

/-- The lifecycle was closed. -/
def HasClose (log : List Entry) : Prop := ∃ entry ∈ log, ∃ first, entry.what = .closes first

@[simp]
theorem registrations_append (front back : List Entry) :
    registrations (front ++ back) = registrations front ++ registrations back :=
  List.filterMap_append

@[simp]
theorem numbers_append (front back : List Entry) :
    numbers (front ++ back) = numbers front ++ numbers back := by
  simp [numbers]

@[simp]
theorem numbers_registers (who : Actor) (registration : Registration) (log : List Entry) :
    numbers (⟨who, .registers registration⟩ :: log) = registration.number :: numbers log := rfl

@[simp]
theorem numbers_begins (who : Actor) (log : List Entry) :
    numbers (⟨who, .begins⟩ :: log) = numbers log := rfl

@[simp]
theorem begun_append (front back : List Entry) :
    begun (front ++ back) = begun front ++ begun back := List.filterMap_append

@[simp]
theorem ended_append (front back : List Entry) :
    ended (front ++ back) = ended front ++ ended back := List.filterMap_append

@[simp]
theorem hasClose_append (front back : List Entry) :
    HasClose (front ++ back) ↔ HasClose front ∨ HasClose back := by
  simp [HasClose, or_and_right, exists_or]

theorem HasClose.of_cons {log : List Entry} {who : Actor} {first : Bool} :
    HasClose (⟨who, .closes first⟩ :: log) := ⟨_, List.mem_cons_self, first, rfl⟩

def Actor.numbers : Actor → List Nat
  | .owner => []
  | .callback number => [number]

/-- The callbacks that a log registers get the numbers from one count up to another. -/
structure Numbered (count : Nat) (log : List Entry) (after : Nat) : Prop where
  after_eq : after = count + (numbers log).length
  numbers_eq : numbers log = List.range' count (numbers log).length

namespace Numbered

variable {count between after : Nat} {front back log : List Entry}

theorem append (first : Numbered count front between) (rest : Numbered between back after) :
    Numbered count (front ++ back) after := by
  obtain ⟨rfl, front_eq⟩ := first
  obtain ⟨rfl, back_eq⟩ := rest
  constructor
  · rw [numbers_append, List.length_append, Nat.add_assoc]
  · rw [numbers_append, List.length_append, ← List.range'_append_1, ← front_eq, ← back_eq]

theorem cons {entry : Entry} (other : entry.registration? = none)
    (rest : Numbered count log after) : Numbered count (entry :: log) after := by
  have same : numbers (entry :: log) = numbers log := by simp [numbers, registrations, other]
  constructor
  · rw [same, rest.after_eq]
  · rw [same, ← rest.numbers_eq]

theorem registers (who : Actor) (callback : Callback) (rest : Numbered (count + 1) log after) :
    Numbered count (⟨who, .registers ⟨count, callback⟩⟩ :: log) after := by
  obtain ⟨rfl, rest_eq⟩ := rest
  constructor
  · rw [numbers_registers, List.length_cons, Nat.add_assoc, Nat.add_comm 1]
  · rw [numbers_registers, List.length_cons, List.range'_succ, ← rest_eq]

end Numbered

/-! ### What programs do, without the machine -/

/-- What a program does on a closed lifecycle, from its next call to its end. What it registers is
done with before it goes on. The two numbers count the callbacks registered before and after. -/
inductive Plays : Actor → Callback → Nat → List Entry → Nat → Prop
  | done (who : Actor) (count : Nat) : Plays who .done count [⟨who, .ends⟩] count
  | say {who : Actor} {text : String} {rest : Callback} {count after : Nat} {log : List Entry}
      (plays : Plays who rest count log after) :
      Plays who (.say text rest) count (⟨who, .tells text⟩ :: log) after
  | ask {who : Actor} {rest : Bool → Callback} {count after : Nat} {log : List Entry}
      (plays : Plays who (rest false) count log after) :
      Plays who (.ask rest) count (⟨who, .sees false⟩ :: log) after
  | close {who : Actor} {rest : Bool → Callback} {count after : Nat} {log : List Entry}
      (plays : Plays who (rest false) count log after) :
      Plays who (.close rest) count (⟨who, .closes false⟩ :: log) after
  | register {who : Actor} {callback rest : Callback} {count between after : Nat}
      {inner outer : List Entry}
      (runs : Plays (.callback count) callback (count + 1) inner between)
      (plays : Plays who rest between outer after) :
      Plays who (.register callback rest) count
        (⟨who, .registers ⟨count, callback⟩⟩ :: ⟨.callback count, .begins⟩ :: (inner ++ outer))
        after

/-- Callbacks run on a closed lifecycle one after the other, each from its beginning to its end. -/
inductive PlaysEach : List Registration → Nat → List Entry → Nat → Prop
  | nil (count : Nat) : PlaysEach [] count [] count
  | cons {registration : Registration} {waiting : List Registration} {count between after : Nat}
      {run runs : List Entry}
      (plays : Plays (.callback registration.number) registration.callback count run between)
      (each : PlaysEach waiting between runs after) :
      PlaysEach (registration :: waiting) count
        (⟨.callback registration.number, .begins⟩ :: (run ++ runs)) after

/-- What the owner does on an open lifecycle while callbacks wait, from its next call to its end. -/
inductive Leads : Callback → List Registration → List Entry → Prop
  | done (waiting : List Registration) : Leads .done waiting [⟨.owner, .ends⟩]
  | say {text : String} {rest : Callback} {waiting : List Registration} {log : List Entry}
      (leads : Leads rest waiting log) :
      Leads (.say text rest) waiting (⟨.owner, .tells text⟩ :: log)
  | ask {rest : Bool → Callback} {waiting : List Registration} {log : List Entry}
      (leads : Leads (rest true) waiting log) :
      Leads (.ask rest) waiting (⟨.owner, .sees true⟩ :: log)
  | register {callback rest : Callback} {waiting : List Registration} {log : List Entry}
      (leads : Leads rest (waiting ++ [⟨waiting.length, callback⟩]) log) :
      Leads (.register callback rest) waiting
        (⟨.owner, .registers ⟨waiting.length, callback⟩⟩ :: log)
  | close {rest : Bool → Callback} {waiting : List Registration} {count after : Nat}
      {runs log : List Entry} (each : PlaysEach waiting waiting.length runs count)
      (plays : Plays .owner (rest true) count log after) :
      Leads (.close rest) waiting (⟨.owner, .closes true⟩ :: (runs ++ log))

/-! ### The machine does just that -/

namespace Performance

theorem run_of_step? {performance next : Performance}
    (moved : performance.step? = some next) : performance.run = next.run := by
  rw [run]
  split
  · next stopped => rw [moved] at stopped; cases stopped
  · next other same => rw [moved] at same; cases same; rfl

theorem run_of_stopped {performance : Performance} (stopped : performance.step? = none) :
    performance.run = performance := by
  rw [run]
  split
  · rfl
  · next moved => rw [stopped] at moved; cases moved

theorem step?_run (performance : Performance) : performance.run.step? = none := by
  fun_induction run performance with
  | case1 performance stopped => exact stopped
  | case2 performance next moved induction => exact induction

theorem wellFounded_step? :
    WellFounded fun next performance : Performance => performance.step? = some next :=
  Subrelation.wf weight_of_step? (measure weight).wf

/-- On a closed lifecycle a program is done with before the rest of the agenda. -/
theorem plays_run (rest : Callback) (who : Actor) (count : Nat) (agenda : List Task)
    (log : List Entry) :
    ∃ played after, Plays who rest count played after ∧
      run ⟨⟨true, []⟩, count, .resume who rest :: agenda, log⟩ =
        run ⟨⟨true, []⟩, after, agenda, log ++ played⟩ := by
  induction rest generalizing who count agenda log with
  | done => exact ⟨_, count, .done who count, run_of_step? rfl⟩
  | say text rest induction =>
      obtain ⟨played, after, plays, same⟩ :=
        induction who count agenda (log ++ [⟨who, .tells text⟩])
      refine ⟨_, after, .say plays, ?_⟩
      rw [run_of_step? rfl, List.append_cons]
      exact same
  | ask rest induction =>
      obtain ⟨played, after, plays, same⟩ :=
        induction false who count agenda (log ++ [⟨who, .sees false⟩])
      refine ⟨_, after, .ask plays, ?_⟩
      rw [run_of_step? rfl, List.append_cons]
      exact same
  | close rest induction =>
      obtain ⟨played, after, plays, same⟩ :=
        induction false who count agenda (log ++ [⟨who, .closes false⟩])
      refine ⟨_, after, .close plays, ?_⟩
      rw [run_of_step? rfl, List.append_cons]
      exact same
  | register callback rest callback_induction rest_induction =>
      -- The callback stands in front of the rest of the program, which is agenda to it.
      obtain ⟨inner, between, runs, ran⟩ := callback_induction (.callback count) (count + 1)
        (.resume who rest :: agenda)
        (log ++ [⟨who, .registers ⟨count, callback⟩⟩] ++ [⟨.callback count, .begins⟩])
      obtain ⟨outer, after, plays, same⟩ := rest_induction who between agenda
        (log ++ [⟨who, .registers ⟨count, callback⟩⟩] ++ [⟨.callback count, .begins⟩] ++ inner)
      refine ⟨_, after, .register runs plays, ?_⟩
      rw [run_of_step? rfl, run_of_step? rfl]
      exact ran.trans (same.trans (by simp only [List.append_assoc]; rfl))

theorem playsEach_run (waiting : List Registration) (count : Nat) (agenda : List Task)
    (log : List Entry) :
    ∃ played after, PlaysEach waiting count played after ∧
      run ⟨⟨true, []⟩, count, waiting.map Task.start ++ agenda, log⟩ =
        run ⟨⟨true, []⟩, after, agenda, log ++ played⟩ := by
  induction waiting generalizing count log with
  | nil => exact ⟨[], count, .nil count, by rw [List.append_nil]; rfl⟩
  | cons registration waiting induction =>
      obtain ⟨played, between, plays, ran⟩ := plays_run registration.callback
        (.callback registration.number) count (waiting.map Task.start ++ agenda)
        (log ++ [⟨.callback registration.number, .begins⟩])
      obtain ⟨more, after, each, same⟩ := induction between
        (log ++ [⟨.callback registration.number, .begins⟩] ++ played)
      refine ⟨_, after, .cons plays each, ?_⟩
      rw [List.map_cons, List.cons_append, run_of_step? rfl]
      exact ran.trans (same.trans (by simp only [List.append_assoc]; rfl))

theorem leads_run (rest : Callback) (waiting : List Registration) (log : List Entry) :
    ∃ led, Leads rest waiting led ∧
      (run ⟨⟨false, waiting⟩, waiting.length, [.resume .owner rest], log⟩).log = log ++ led := by
  induction rest generalizing waiting log with
  | done =>
      refine ⟨_, .done waiting, ?_⟩
      rw [run_of_step? rfl, run_of_stopped rfl]
      rfl
  | say text rest induction =>
      obtain ⟨led, leads, same⟩ := induction waiting (log ++ [⟨.owner, .tells text⟩])
      refine ⟨_, .say leads, ?_⟩
      rw [run_of_step? rfl, List.append_cons]
      exact same
  | ask rest induction =>
      obtain ⟨led, leads, same⟩ := induction true waiting (log ++ [⟨.owner, .sees true⟩])
      refine ⟨_, .ask leads, ?_⟩
      rw [run_of_step? rfl, List.append_cons]
      exact same
  | close rest induction =>
      obtain ⟨runs, count, each, ran⟩ := playsEach_run waiting waiting.length
        [.resume .owner (rest true)] (log ++ [⟨.owner, .closes true⟩])
      obtain ⟨played, after, plays, same⟩ := plays_run (rest true) .owner count []
        (log ++ [⟨.owner, .closes true⟩] ++ runs)
      refine ⟨_, .close each plays, ?_⟩
      rw [run_of_step? rfl]
      refine (congrArg Performance.log (ran.trans same)).trans ?_
      rw [run_of_stopped rfl]
      simp only [List.append_assoc]
      rfl
  | register callback rest _ induction =>
      obtain ⟨led, leads, same⟩ := induction (waiting ++ [⟨waiting.length, callback⟩])
        (log ++ [⟨.owner, .registers ⟨waiting.length, callback⟩⟩])
      refine ⟨_, .register leads, ?_⟩
      rw [run_of_step? rfl, List.append_cons]
      rw [List.length_append] at same
      exact same

end Performance

/-! ### On a closed lifecycle -/

/-- The callback runs where it was registered: right behind, from its beginning to its end. In
between nobody acts but the callback itself and those that are registered meanwhile. -/
def RunsAtOnce (registration : Registration) (back : List Entry) : Prop :=
  ∃ run rest count, back = ⟨.callback registration.number, .begins⟩ :: (run ++ rest) ∧
    Plays (.callback registration.number) registration.callback (registration.number + 1) run
      count ∧
    ∀ entry ∈ run, ∃ number, registration.number ≤ number ∧ entry.who = .callback number

/-- An entry that a closed lifecycle may have, with what is behind it. -/
structure Entry.IsLate (entry : Entry) (back : List Entry) : Prop where
  sees : ∀ isOpen, entry.what = .sees isOpen → isOpen = false
  closes : ∀ first, entry.what = .closes first → first = false
  atOnce : ∀ registration, entry.what = .registers registration → RunsAtOnce registration back

/-- A log in which the lifecycle is closed throughout. -/
inductive Late : List Entry → Prop
  | nil : Late []
  | cons {entry : Entry} {log : List Entry} (late : entry.IsLate log) (rest : Late log) :
      Late (entry :: log)

theorem RunsAtOnce.append {registration : Registration} {back : List Entry}
    (runs : RunsAtOnce registration back) (more : List Entry) :
    RunsAtOnce registration (back ++ more) := by
  obtain ⟨run, rest, count, rfl, plays, own⟩ := runs
  exact ⟨run, rest ++ more, count, by simp, plays, own⟩

theorem Entry.IsLate.append {entry : Entry} {back : List Entry} (late : entry.IsLate back)
    (more : List Entry) : entry.IsLate (back ++ more) where
  sees := late.sees
  closes := late.closes
  atOnce registration what := (late.atOnce registration what).append more

theorem Late.append {front back : List Entry} (late : Late front) (more : Late back) :
    Late (front ++ back) := by
  induction late with
  | nil => exact more
  | cons late _ induction => exact .cons (late.append back) induction

namespace Plays

variable {who : Actor} {rest : Callback} {count after : Nat} {log : List Entry}

/-- Whoever acts is the one who plays, or was registered meanwhile. -/
theorem who_of_mem (plays : Plays who rest count log after) :
    count ≤ after ∧ ∀ entry ∈ log, entry.who = who ∨
      ∃ number, count ≤ number ∧ entry.who = .callback number := by
  induction plays with
  | done who count => simp
  | say _ induction | ask _ induction | close _ induction => simpa using induction
  | @register who callback rest count between after inner outer _ _ runs plays =>
      obtain ⟨more, inner_own⟩ := runs
      obtain ⟨most, outer_own⟩ := plays
      refine ⟨by omega, fun entry member => ?_⟩
      simp only [List.mem_cons, List.mem_append] at member
      rcases member with rfl | rfl | member | member
      · exact .inl rfl
      · exact .inr ⟨count, Nat.le_refl _, rfl⟩
      · rcases inner_own entry member with own | ⟨number, le, own⟩
        · exact .inr ⟨count, Nat.le_refl _, own⟩
        · exact .inr ⟨number, by omega, own⟩
      · rcases outer_own entry member with own | ⟨number, le, own⟩
        · exact .inl own
        · exact .inr ⟨number, by omega, own⟩

theorem runsAtOnce {number : Nat} {callback : Callback} {run : List Entry}
    (plays : Plays (.callback number) callback (number + 1) run after) (rest : List Entry) :
    RunsAtOnce ⟨number, callback⟩ (⟨.callback number, .begins⟩ :: (run ++ rest)) := by
  refine ⟨run, rest, after, rfl, plays, fun entry member => ?_⟩
  rcases plays.who_of_mem.2 entry member with own | ⟨later, le, own⟩
  · exact ⟨number, Nat.le_refl _, own⟩
  · exact ⟨later, Nat.le_of_succ_le le, own⟩

theorem late (plays : Plays who rest count log after) : Late log := by
  induction plays with
  | done who count => exact .cons ⟨nofun, nofun, nofun⟩ .nil
  | say _ induction => exact .cons ⟨nofun, nofun, nofun⟩ induction
  | ask _ induction => exact .cons ⟨by simp, nofun, nofun⟩ induction
  | close _ induction => exact .cons ⟨nofun, by simp, nofun⟩ induction
  | @register who callback rest count between after inner outer runs _ inner_late outer_late =>
      refine .cons ⟨nofun, nofun, ?_⟩ (.cons ⟨nofun, nofun, nofun⟩ (inner_late.append outer_late))
      rintro registration ⟨⟩
      exact runs.runsAtOnce outer

theorem numbered (plays : Plays who rest count log after) : Numbered count log after := by
  induction plays with
  | done who count => exact ⟨rfl, rfl⟩
  | say _ induction | ask _ induction | close _ induction => exact induction.cons rfl
  | register _ _ inner_numbered outer_numbered =>
      exact ((inner_numbered.append outer_numbered).cons rfl).registers _ _

theorem begun_eq (plays : Plays who rest count log after) : begun log = numbers log := by
  induction plays with
  | done who count => rfl
  | say _ induction | ask _ induction | close _ induction => exact induction
  | @register who callback rest count between after inner outer _ _ inner_eq outer_eq =>
      have both : begun (inner ++ outer) = numbers (inner ++ outer) := by
        rw [begun_append, numbers_append, inner_eq, outer_eq]
      exact congrArg (count :: ·) both

theorem ended_perm (plays : Plays who rest count log after) :
    (ended log).Perm (who.numbers ++ numbers log) := by
  induction plays with
  | done who count => cases who <;> exact .refl _
  | say _ induction | ask _ induction | close _ induction => exact induction
  | @register who callback rest count between after inner outer _ _ inner_perm outer_perm =>
      have both := inner_perm.append outer_perm
      rw [← ended_append] at both
      refine both.trans ?_
      rw [List.perm_iff_count]
      intro number
      simp [Actor.numbers, List.count_cons]
      omega

end Plays

namespace PlaysEach

variable {waiting : List Registration} {count after : Nat} {log : List Entry}

theorem late (each : PlaysEach waiting count log after) : Late log := by
  induction each with
  | nil count => exact .nil
  | cons plays _ induction => exact .cons ⟨nofun, nofun, nofun⟩ (plays.late.append induction)

theorem numbered (each : PlaysEach waiting count log after) : Numbered count log after := by
  induction each with
  | nil count => exact ⟨rfl, rfl⟩
  | cons plays _ induction => exact (plays.numbered.append induction).cons rfl

/-- The callbacks that wait begin and come to their end, and so do those that are registered
meanwhile. -/
theorem run_perm (each : PlaysEach waiting count log after) :
    (begun log).Perm (waiting.map Registration.number ++ numbers log) ∧
      (ended log).Perm (waiting.map Registration.number ++ numbers log) := by
  induction each with
  | nil count => exact ⟨.refl _, .refl _⟩
  | @cons registration waiting count between after run runs plays _ induction =>
      have first : begun (⟨.callback registration.number, .begins⟩ :: (run ++ runs)) =
          registration.number :: (numbers run ++ begun runs) := by
        rw [← plays.begun_eq, ← begun_append]
        rfl
      have last := plays.ended_perm.append induction.2
      rw [← ended_append] at last
      refine ⟨?_, last.trans ?_⟩
      · rw [first, List.perm_iff_count]
        intro number
        have counted := induction.1.count_eq number
        simp [List.count_cons] at counted ⊢
        omega
      · rw [List.perm_iff_count]
        intro number
        simp [Actor.numbers, List.count_cons]
        omega

end PlaysEach

/-! ### From the first call to the last -/

/-- What an entry is like, with what is in front of it and behind it in the log. -/
structure Entry.Fits (front : List Entry) (entry : Entry) (back : List Entry) : Prop where
  /-- No callback does anything before the first close. -/
  quiet : ∀ number, entry.who = .callback number → HasClose front
  /-- The lifecycle is seen open exactly before the first close. -/
  sees : ∀ isOpen, entry.what = .sees isOpen → (isOpen = true ↔ ¬ HasClose front)
  /-- A close is told to be the first exactly if it is. -/
  closes : ∀ first, entry.what = .closes first → (first = true ↔ ¬ HasClose front)
  /-- The first close runs everything registered so far, in the order of registration. -/
  inOrder : entry.what = .closes true → ∃ runs rest count, back = runs ++ rest ∧
    PlaysEach (registrations front) (registrations front).length runs count
  /-- What is registered from then on runs at once. -/
  atOnce : ∀ registration, entry.what = .registers registration → HasClose front →
    RunsAtOnce registration back

/-- Every entry of a log fits, behind what is in front of the log. -/
inductive Fitting : (front log : List Entry) → Prop
  | nil (front : List Entry) : Fitting front []
  | cons {front log : List Entry} {entry : Entry} (fits : entry.Fits front log)
      (rest : Fitting (front ++ [entry]) log) : Fitting front (entry :: log)

theorem Fitting.fits {opening front back : List Entry} {entry : Entry}
    (fitting : Fitting opening (front ++ entry :: back)) :
    entry.Fits (opening ++ front) back := by
  induction front generalizing opening with
  | nil =>
      rw [List.append_nil]
      cases fitting with
      | cons fits _ => exact fits
  | cons first front induction =>
      cases fitting with
      | cons _ rest =>
          rw [List.append_cons]
          exact induction rest

/-- On a closed lifecycle every entry fits that it may have. -/
theorem Late.fitting {front log : List Entry} (late : Late log) (closed : HasClose front) :
    Fitting front log := by
  induction late generalizing front with
  | nil => exact .nil front
  | @cons entry log late _ induction =>
      refine .cons ⟨fun _ _ => closed, fun isOpen what => ?_, fun first what => ?_, fun what => ?_,
        fun registration what _ => late.atOnce registration what⟩
        (induction ((hasClose_append _ _).mpr (.inl closed)))
      · simp [late.sees isOpen what, closed]
      · simp [late.closes first what, closed]
      · cases late.closes true what

namespace Leads

variable {rest : Callback} {waiting : List Registration} {log : List Entry}

theorem fitting (leads : Leads rest waiting log) {front : List Entry}
    (isOpen : ¬ HasClose front) (waits : registrations front = waiting) : Fitting front log := by
  induction leads generalizing front with
  | done waiting => exact .cons ⟨nofun, nofun, nofun, nofun, nofun⟩ (.nil _)
  | say _ induction =>
      refine .cons ⟨nofun, nofun, nofun, nofun, nofun⟩ (induction ?_ ?_)
      · simpa [HasClose] using isOpen
      · rw [registrations_append, waits]
        exact List.append_nil _
  | ask _ induction =>
      refine .cons ⟨nofun, by simp [isOpen], nofun, nofun, nofun⟩ (induction ?_ ?_)
      · simpa [HasClose] using isOpen
      · rw [registrations_append, waits]
        exact List.append_nil _
  | register _ induction =>
      refine .cons ⟨nofun, nofun, nofun, nofun, fun _ _ closed => absurd closed isOpen⟩
        (induction ?_ ?_)
      · simpa [HasClose] using isOpen
      · rw [registrations_append, waits]
        rfl
  | close each plays =>
      refine .cons ⟨nofun, nofun, by simp [isOpen], fun _ => ?_, nofun⟩
        ((each.late.append plays.late).fitting ?_)
      · exact ⟨_, _, _, rfl, waits ▸ each⟩
      · exact (hasClose_append _ _).mpr (.inr .of_cons)

theorem numbered (leads : Leads rest waiting log) :
    ∃ after, Numbered waiting.length log after := by
  induction leads with
  | done waiting => exact ⟨_, rfl, rfl⟩
  | say _ induction | ask _ induction =>
      obtain ⟨after, numbered⟩ := induction
      exact ⟨after, numbered.cons rfl⟩
  | register _ induction =>
      obtain ⟨after, numbered⟩ := induction
      rw [List.length_append] at numbered
      exact ⟨after, numbered.registers _ _⟩
  | close each plays => exact ⟨_, (each.numbered.append plays.numbered).cons rfl⟩

/-- If the owner closes, all callbacks that wait or are registered begin and come to their end. -/
theorem run_perm (leads : Leads rest waiting log) (closed : HasClose log) :
    (begun log).Perm (waiting.map Registration.number ++ numbers log) ∧
      (ended log).Perm (waiting.map Registration.number ++ numbers log) := by
  induction leads with
  | done waiting => simp [HasClose] at closed
  | say _ induction | ask _ induction => exact induction (by simpa [HasClose] using closed)
  | register _ induction =>
      have same := induction (by simpa [HasClose] using closed)
      rwa [List.map_append, List.append_assoc] at same
  | close each plays =>
      have first := each.run_perm.1.append (.of_eq plays.begun_eq)
      have last := each.run_perm.2.append plays.ended_perm
      rw [← begun_append, List.append_assoc, ← numbers_append] at first
      rw [← ended_append, Actor.numbers, List.nil_append, List.append_assoc,
        ← numbers_append] at last
      exact ⟨first, last⟩

end Leads

/-- What the calls of a history come to, by the log. -/
structure RunsOnce (history : Callback) (log : List Entry) : Prop where
  /-- The log tells what the history does, from its first call to its last. -/
  leads : Leads history [] log
  /-- Every entry fits where it stands. -/
  fits : ∀ front entry back, log = front ++ entry :: back → entry.Fits front back
  /-- No callback finds the lifecycle open. -/
  blind : ∀ number isOpen, ⟨.callback number, .sees isOpen⟩ ∈ log → isOpen = false
  /-- Callbacks have numbers of their own. -/
  distinct : (numbers log).Nodup
  /-- Once the lifecycle is closed, every callback ever registered begins once and comes to its end
  once. -/
  once : HasClose log → ∀ registration ∈ registrations log,
    (begun log).count registration.number = 1 ∧ (ended log).count registration.number = 1

theorem Leads.runsOnce {history : Callback} {log : List Entry} (leads : Leads history [] log) :
    RunsOnce history log := by
  have fits : ∀ front entry back, log = front ++ entry :: back → entry.Fits front back := by
    rintro front entry back rfl
    have fitting : Fitting [] (front ++ entry :: back) := leads.fitting (by simp [HasClose]) rfl
    exact fitting.fits
  have distinct : (numbers log).Nodup := by
    obtain ⟨after, numbered⟩ := leads.numbered
    rw [numbered.numbers_eq]
    exact List.nodup_range'
  refine ⟨leads, fits, fun number isOpen member => ?_, distinct,
    fun closed registration member => ?_⟩
  · obtain ⟨front, back, split⟩ := List.append_of_mem member
    have fit := fits _ _ _ split
    simpa [fit.quiet number rfl] using fit.sees isOpen rfl
  · have once : (numbers log).count registration.number = 1 :=
      List.count_eq_one_of_mem distinct (List.mem_map_of_mem member)
    obtain ⟨all_begun, all_ended⟩ := leads.run_perm closed
    exact ⟨(all_begun.count_eq _).trans once, (all_ended.count_eq _).trans once⟩

/-- **Closing runs every callback once.** Whatever the owner of a lifecycle and its callbacks do
with it, their calls come to an end; nothing runs before the first close, every callback ever
registered runs once after it, from its beginning to its end and on a closed lifecycle, in the order
of registration or where it is registered; and just the first close is told to be the first. -/
theorem each_runs_once (history : Callback) :
    (WellFounded fun next performance : Performance => performance.step? = some next) ∧
      (Performance.start history).run.step? = none ∧
      RunsOnce history (Performance.start history).run.log := by
  obtain ⟨log, leads, logged⟩ := Performance.leads_run history [] []
  refine ⟨Performance.wellFounded_step?, Performance.step?_run _, ?_⟩
  have same : (Performance.start history).run.log = log := logged
  rw [same]
  exact leads.runsOnce

/-- The first of two callbacks registers a third, which runs before the second. -/
example :
    let third := register (ask fun _ => done) done
    let log := (Performance.start (register third (register done (close fun _ => done)))).run.log
    begun log = [0, 2, 1] ∧ ended log = [2, 0, 1] := by
  cbv

end PadRelay.Callback
