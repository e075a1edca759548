import PadRelay.Cbor.Parser
import PadRelay.Cbor.Printer

/-!
# CBOR heads written and read

The shortest head of an argument of at most 64 bits is read as that argument, and a text in one
piece as its bytes, whatever is open around it and whatever follows.
-/

namespace PadRelay.Cbor

/-- Go on behind what a head has led to. -/
def resume (rest : Bytes) : Option Progress → Option Cbor
  | none => none
  | some (.complete value) => some value
  | some (.within stack) => run .start stack rest

/-- Go on behind a byte of a head. -/
def proceed (stack : List Context) (rest : Bytes) : Head.Mode × Option Head → Option Cbor
  | (mode, none) => run mode stack rest
  | (mode, some head) =>
      match accept stack head with
      | none => none
      | some (.complete value) => some value
      | some (.within stack) => run mode stack rest

theorem run_cons {mode : Head.Mode} {byte : UInt8} {result : Head.Mode × Option Head}
    (stepped : Head.step byte mode = some result) (stack : List Context) (rest : Bytes) :
    run mode stack (byte :: rest) = proceed stack rest result := by
  obtain ⟨next, head⟩ := result
  rw [run, stepped]
  cases head <;> rfl

theorem proceed_start (stack : List Context) (rest : Bytes) (head : Head) :
    proceed stack rest (.start, some head) = resume rest (accept stack head) := by
  rw [proceed, resume.eq_def]

theorem run_argument (stack : List Context) (rest : Bytes) (major width value : Nat)
    {bytes : Bytes} (nonempty : bytes ≠ []) :
    run (.argument major width bytes.length value) stack (bytes ++ rest) =
      proceed stack rest (Head.ofArgument major width
        (bytes.foldl (fun value byte => value * 256 + byte.toNat) value)) := by
  induction bytes generalizing value with
  | nil => exact absurd rfl nonempty
  | cons byte bytes induction =>
      cases bytes with
      | nil =>
          have last : Head.step byte (.argument major width 1 value) =
              some (Head.ofArgument major width (value * 256 + byte.toNat)) := by
            simp [Head.step]
          rw [List.length_singleton, List.singleton_append, run_cons last]
          rfl
      | cons next bytes =>
          have goes_on : Head.step byte (.argument major width (bytes.length + 2) value) =
              some (.argument major width (bytes.length + 1) (value * 256 + byte.toNat), none) := by
            simp [Head.step]
          have further := induction (value * 256 + byte.toNat) (List.cons_ne_nil next bytes)
          rw [List.length_cons, List.length_cons, List.cons_append, List.foldl_cons,
            run_cons goes_on, proceed]
          exact further

theorem run_content (stack : List Context) (rest done : Bytes) {bytes : Bytes}
    (nonempty : bytes ≠ []) :
    run (.content true bytes.length done) stack (bytes ++ rest) =
      proceed stack rest (.start, some (.text (some (done.reverse ++ bytes)))) := by
  induction bytes generalizing done with
  | nil => exact absurd rfl nonempty
  | cons byte bytes induction =>
      cases bytes with
      | nil =>
          have last : Head.step byte (.content true 1 done) =
              some (.start, some (.text (some (done.reverse ++ [byte])))) := by
            simp [Head.step]
          rw [List.length_singleton, List.singleton_append, run_cons last, proceed]
      | cons next bytes =>
          have goes_on : Head.step byte (.content true (bytes.length + 2) done) =
              some (.content true (bytes.length + 1) (byte :: done), none) := by
            simp [Head.step]
          have further := induction (byte :: done) (List.cons_ne_nil next bytes)
          rw [List.reverse_cons, List.append_assoc, List.singleton_append] at further
          exact (run_cons goes_on stack _).trans further

/-- A first byte that announces an argument of some width. -/
theorem run_wide (stack : List Context) (rest : Bytes) (info : Nat) {major : Nat}
    (known : major < 8) (wide : 24 ≤ info ∧ info < 28) {argument : Nat}
    (fits : argument < Nat.pow 256 (1 <<< (info - 24))) :
    run .start stack
        (UInt8.ofNat (major * 32 + info) :: Bytes.bigEndian (1 <<< (info - 24)) argument ++ rest) =
      proceed stack rest (Head.ofArgument major (1 <<< (info - 24)) argument) := by
  have first : (UInt8.ofNat (major * 32 + info)).toNat = major * 32 + info := by
    rw [UInt8.toNat_ofNat']
    omega
  have opened : Head.step (UInt8.ofNat (major * 32 + info)) .start =
      some (.argument major (1 <<< (info - 24)) (1 <<< (info - 24)) 0, none) := by
    have major_read : (major * 32 + info) / 32 = major := by omega
    have info_read : (major * 32 + info) % 32 = info := by omega
    have not_short : ¬ info < 24 := by omega
    rw [Head.step, Head.ofFirst?, first, major_read, info_read]
    simp [not_short, wide.2]
  have nonempty : Bytes.bigEndian (1 <<< (info - 24)) argument ≠ [] := by
    rw [← List.length_pos_iff, Bytes.length_bigEndian, Nat.one_shiftLeft]
    exact Nat.two_pow_pos _
  have read := run_argument stack rest major (1 <<< (info - 24)) 0 nonempty
  rw [Bytes.length_bigEndian] at read
  have value := Bytes.ofBigEndian_bigEndian _ argument fits
  rw [Bytes.ofBigEndian] at value
  rw [value] at read
  exact (run_cons opened stack _).trans read

namespace Head

/-- Only the simple values tell wide arguments from short ones. -/
theorem ofArgument_eq_short {major : Nat} (known : major < 7) (width argument : Nat) :
    ofArgument major width argument = ofArgument major 0 argument := by
  match major, known with
  | 0, _ | 1, _ | 2, _ | 3, _ | 4, _ | 5, _ | 6, _ => rfl

/-- A first byte that holds the argument itself. -/
theorem step_short {major argument : Nat} (known : major < 7) (short : argument < 24) :
    step (UInt8.ofNat (major * 32 + argument)) .start = some (ofArgument major 0 argument) := by
  have first : (UInt8.ofNat (major * 32 + argument)).toNat = major * 32 + argument := by
    rw [UInt8.toNat_ofNat']
    omega
  have major_read : (major * 32 + argument) / 32 = major := by omega
  have argument_read : (major * 32 + argument) % 32 = argument := by omega
  rw [step, ofFirst?, first, major_read, argument_read]
  exact if_pos short

end Head

theorem run_writeHead (stack : List Context) (rest : Bytes) {major argument : Nat}
    (known : major < 7) (fits : argument < UInt64.size) :
    run .start stack (writeHead major argument ++ rest) =
      proceed stack rest (Head.ofArgument major 0 argument) := by
  have eight : major < 8 := by omega
  rw [writeHead]
  split
  · next short => exact run_cons (Head.step_short known short) stack rest
  · split
    · next small =>
        rw [← Head.ofArgument_eq_short known 1]
        exact run_wide stack rest 24 eight (by omega) small
    · split
      · next medium =>
          rw [← Head.ofArgument_eq_short known 2]
          exact run_wide stack rest 25 eight (by omega) medium
      · split
        · next large =>
            rw [← Head.ofArgument_eq_short known 4]
            exact run_wide stack rest 26 eight (by omega) large
        · rw [← Head.ofArgument_eq_short known 8]
          exact run_wide stack rest 27 eight (by omega) fits

theorem run_writeText (stack : List Context) (rest : Bytes) {text : String}
    (fits : (Bytes.ofText text).length < UInt64.size) :
    run .start stack (writeText text ++ rest) =
      resume rest (accept stack (.text (some (Bytes.ofText text)))) := by
  rw [writeText, List.append_assoc, run_writeHead stack _ (by omega) fits]
  rcases List.eq_nil_or_concat (Bytes.ofText text) with empty | ⟨front, last, written⟩
  · rw [empty]
    exact proceed_start stack _ _
  · have nonempty : Bytes.ofText text ≠ [] := by simp [written]
    have opened : Head.ofArgument 3 0 (Bytes.ofText text).length =
        (.content true (Bytes.ofText text).length [], none) := by
      simp [Head.ofArgument, Head.ofLength, nonempty]
    rw [opened, proceed, run_content stack rest [] nonempty, proceed_start]
    rfl

end PadRelay.Cbor
