import PadRelay.Json.Parser
import PadRelay.Proofs.Json.Token

/-!
# Values among tokens

The tokens of a value complete it whatever is open around it. A list is completed item by item, so
that this holds of an array and of an object if it holds of what they contain.
-/

namespace PadRelay.Json.Machine

theorem run_cons {machine next : Machine} {token : Token} (stepped : machine.step token = some next)
    (rest : List Token) : machine.run (token :: rest) = next.run rest := by
  rw [run, stepped]

/-- The tokens make up a value. -/
structure Takes (tokens : List Token) (value : Json) : Prop where
  begins : ∃ first more, tokens = first :: more ∧ first ≠ .closeArray
  completes : ∀ stack rest, run ⟨stack, .value⟩ (tokens ++ rest) = run (complete value stack) rest

theorem takes_scalar (value : Json) : Takes [.scalar value] value :=
  ⟨⟨_, _, rfl, nofun⟩, fun _ _ => rfl⟩

theorem takes_quoted (pieces : Quoted) : Takes [.quoted pieces] (.text pieces) :=
  ⟨⟨_, _, rfl, nofun⟩, fun _ _ => rfl⟩

/-- The first item of an array is read as any other. -/
theorem Takes.run_firstItem {tokens : List Token} {value : Json} (takes : Takes tokens value)
    (stack : List Context) (rest : List Token) :
    run ⟨stack, .firstItem⟩ (tokens ++ rest) = run (complete value stack) rest := by
  rw [← takes.completes]
  obtain ⟨first, more, rfl, no_end⟩ := takes.begins
  have same_step : step ⟨stack, .firstItem⟩ first = step ⟨stack, .value⟩ first := by
    cases first with
    | closeArray => exact absurd rfl no_end
    | _ => rfl
  rw [List.cons_append, run, run, same_step]

section Lists

variable {α : Type} {mean : α → List Token} {value : α → Json} {items : List α}

theorem run_items (each : ∀ item ∈ items, Takes (mean item) (value item)) (stack : List Context)
    (done : List Json) (rest : List Token) :
    run ⟨stack, .nextItem done⟩
        ((items.flatMap fun item => .comma :: mean item) ++ .closeArray :: rest) =
      run (complete (.array (done.reverse ++ items.map value)) stack) rest := by
  induction items generalizing done with
  | nil => simp [run, step]
  | cons item items induction =>
      have first := (each item List.mem_cons_self).completes (.items done :: stack)
      have others := induction (fun other member => each other (List.mem_cons_of_mem item member))
        (value item :: done)
      rw [List.flatMap_cons, List.append_assoc, List.cons_append, run_cons rfl, first, complete,
        others]
      simp

theorem takes_array (each : ∀ item ∈ items, Takes (mean item) (value item)) :
    Takes (.openArray :: (Token.separated (items.map mean) ++ [.closeArray]))
      (.array (items.map value)) := by
  refine ⟨⟨_, _, rfl, nofun⟩, fun stack rest => ?_⟩
  rw [List.cons_append, List.append_assoc, run_cons rfl]
  cases items with
  | nil => rfl
  | cons first items =>
      have begun := (each first List.mem_cons_self).run_firstItem (.items [] :: stack)
      have others := run_items (fun other member => each other (List.mem_cons_of_mem first member))
        stack [value first] rest
      rw [List.map_cons, Token.separated, List.append_assoc, begun, complete, List.flatMap_map]
      exact others

variable (name : α → Quoted)

theorem run_members (each : ∀ item ∈ items, Takes (mean item) (value item)) (stack : List Context)
    (done : Entries) (rest : List Token) :
    run ⟨stack, .nextMember done⟩
        ((items.flatMap fun item => .comma :: .quoted (name item) :: .colon :: mean item) ++
          .closeObject :: rest) =
      run (complete (.object (done.reverse ++ items.map fun item => (name item, value item))) stack)
        rest := by
  induction items generalizing done with
  | nil => simp [run, step]
  | cons item items induction =>
      have first := (each item List.mem_cons_self).completes (.members done (name item) :: stack)
      have others := induction (fun other member => each other (List.mem_cons_of_mem item member))
        ((name item, value item) :: done)
      rw [List.flatMap_cons, List.append_assoc, List.cons_append, List.cons_append,
        List.cons_append, run_cons rfl, run_cons rfl, run_cons rfl, first, complete, others]
      simp

/-- An object is made up of its names and their values. -/
theorem takes_object (each : ∀ item ∈ items, Takes (mean item) (value item)) :
    Takes (.openObject :: (Token.separated
        (items.map fun item => .quoted (name item) :: .colon :: mean item) ++ [.closeObject]))
      (.object (items.map fun item => (name item, value item))) := by
  refine ⟨⟨_, _, rfl, nofun⟩, fun stack rest => ?_⟩
  rw [List.cons_append, List.append_assoc, run_cons rfl]
  cases items with
  | nil => rfl
  | cons first items =>
      have begun := (each first List.mem_cons_self).completes (.members [] (name first) :: stack)
      have others := run_members name
        (fun other member => each other (List.mem_cons_of_mem first member)) stack
        [(name first, value first)] rest
      rw [List.map_cons, Token.separated, List.append_assoc, List.cons_append, List.cons_append,
        run_cons rfl, run_cons rfl, begun, complete, List.flatMap_map]
      exact others

end Lists

end PadRelay.Json.Machine
