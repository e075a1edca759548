import PadRelay.Json.Token
import PadRelay.Proofs.Json.Numeral

/-!
# What bytes spell

Bytes spell tokens if they are read as these tokens wherever they stand, up to a delimiter behind
them: a word or a number as one, a list with the commas between its parts.
-/

namespace PadRelay.Json

namespace Token

theorem run_cons {tokens further : List Token} {mode next : Mode} {byte : UInt8}
    (stepped : step tokens byte mode = some (next, further)) (rest : Bytes) :
    run tokens mode (byte :: rest) = run further next rest := by
  rw [run, stepped]

/-- Between tokens, the bytes are read as the tokens, whatever came before, when a delimiter follows
them. -/
def Spells (written : Bytes) (meant : List Token) : Prop :=
  ∀ tokens next rest, isDelimiter next = true →
    run tokens .idle (written ++ next :: rest) =
      run (meant.reverse ++ tokens) .idle (next :: rest)

theorem run_punctuation {byte : UInt8} {token : Token} (meant : punctuation? byte = some token)
    (tokens : List Token) (rest : Bytes) :
    run tokens .idle (byte :: rest) = run (token :: tokens) .idle rest := by
  have not_blank : isBlank byte = false := by
    cases blank : isBlank byte with
    | false => rfl
    | true =>
        simp only [isBlank, Bool.or_eq_true, decide_eq_true_eq] at blank
        rcases blank with ((rfl | rfl) | rfl) | rfl <;> cases meant
  simp [run, step, startAt, not_blank, meant]

theorem isDelimiter_of_punctuation? {byte : UInt8} {token : Token}
    (meant : punctuation? byte = some token) : isDelimiter byte = true := by
  simp [isDelimiter, meant]

theorem spells_nil : Spells [] [] := fun _ _ _ _ => rfl

theorem Spells.join {first second : Bytes} {left right : List Token} {byte : UInt8} {token : Token}
    (front : Spells first left) (meant : punctuation? byte = some token)
    (back : Spells second right) : Spells (first ++ byte :: second) (left ++ token :: right) := by
  intro tokens next rest delimiter
  rw [List.append_assoc, List.cons_append, front _ _ _ (isDelimiter_of_punctuation? meant),
    run_punctuation meant, back _ _ _ delimiter]
  simp

def separated : List (List Token) → List Token
  | [] => []
  | first :: rest => first ++ rest.flatMap fun part => .comma :: part

theorem spells_commaSeparated {α : Type} (write : α → Bytes) (mean : α → List Token)
    (items : List α) (each : ∀ item ∈ items, Spells (write item) (mean item)) :
    Spells (commaSeparated (items.map write)) (separated (items.map mean)) := by
  induction items with
  | nil => exact spells_nil
  | cons first items induction =>
      have first_spelled := each first List.mem_cons_self
      have rest_spelled := induction fun item member =>
        each item (List.mem_cons_of_mem first member)
      cases items with
      | nil => simpa [commaSeparated, separated] using first_spelled
      | cons second items => exact first_spelled.join rfl rest_spelled

/-- A word or a number is read up to the delimiter behind it. -/
theorem run_scalar (tokens : List Token) (seen written : Bytes) {value : Json}
    (plain : ∀ byte ∈ written, isDelimiter byte = false)
    (meant : scalar? (seen.reverse ++ written) = some value) {next : UInt8}
    (delimiter : isDelimiter next = true) (rest : Bytes) :
    run tokens (.scalar seen) (written ++ next :: rest) =
      run (.scalar value :: tokens) .idle (next :: rest) := by
  induction written generalizing seen with
  | nil =>
      rw [List.append_nil] at meant
      simp [run, step, delimiter, meant]
  | cons byte written induction =>
      have goes_on : step tokens byte (.scalar seen) = some (.scalar (byte :: seen), tokens) := by
        simp [step, plain byte List.mem_cons_self]
      rw [List.cons_append, run_cons goes_on]
      apply induction
      · exact fun other member => plain other (List.mem_cons_of_mem byte member)
      · simpa using meant

theorem spells_scalar {written : Bytes} {value : Json} (nonempty : written ≠ [])
    (plain : ∀ byte ∈ written, isDelimiter byte = false) (meant : scalar? written = some value) :
    Spells written [.scalar value] := by
  intro tokens next rest delimiter
  obtain ⟨byte, more, rfl⟩ := List.exists_cons_of_ne_nil nonempty
  have first_plain := plain byte List.mem_cons_self
  simp only [isDelimiter, Bool.or_eq_false_iff, decide_eq_false_iff_not, Option.isSome_eq_false_iff,
    Option.isNone_iff_eq_none] at first_plain
  have begins : step tokens byte .idle = some (.scalar [byte], tokens) := by
    simp [step, startAt, first_plain]
  rw [List.cons_append, run_cons begins]
  exact run_scalar tokens [byte] more
    (fun other member => plain other (List.mem_cons_of_mem byte member)) meant delimiter rest

end Token

end PadRelay.Json
