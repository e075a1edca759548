import Mathlib.Tactic.Choose
import PadRelay.Proofs.Json.Grammar
import PadRelay.Proofs.Json.Machine

/-!
# What the grammar spells is read

A text is read as the characters that it means, and a document as the value that it spells, however
its blanks, escapes and exponents were chosen and however deep it nests.
-/

namespace PadRelay

theorem Bytes.ofText_ofList (text : List Char) :
    Bytes.ofText (String.ofList text) = text.flatMap String.utf8EncodeChar := by
  rw [ofText, String.toByteArray_ofList]
  simp [List.utf8Encode]

theorem Bytes.ofText_eq_flatMap (text : String) :
    Bytes.ofText text = text.toList.flatMap String.utf8EncodeChar := by
  rw [← ofText_ofList, String.ofList_toList]

namespace Json

namespace Quoted

theorem scalarBytes_eq (scalar : Nat) :
    scalarBytes scalar = String.utf8EncodeChar (Char.ofNat scalar) := by
  have written := Bytes.ofText_ofList [Char.ofNat scalar]
  simpa [scalarBytes, Char.toString] using written

theorem toBytes?_map_byte (done bytes : Bytes) (rest : Quoted) :
    toBytes? done (bytes.map .byte ++ rest) = toBytes? (bytes.reverse ++ done) rest := by
  induction bytes generalizing done with
  | nil => rfl
  | cons byte bytes induction =>
      rw [List.map_cons, List.cons_append, toBytes?, induction]
      simp

/-- A code unit that is no surrogate is read as the character that it is. -/
theorem toBytes?_codeUnit_cons (done : Bytes) {unit : Nat}
    (not_high : ¬ (0xd800 ≤ unit ∧ unit < 0xdc00)) (not_low : ¬ (0xdc00 ≤ unit ∧ unit < 0xe000))
    (rest : Quoted) :
    toBytes? done (.codeUnit unit :: rest) =
      toBytes? ((scalarBytes unit).reverse ++ done) rest := by
  have first_half : isHighSurrogate unit = false := by simpa [isHighSurrogate] using not_high
  have second_half : isLowSurrogate unit = false := by simpa [isLowSurrogate] using not_low
  cases rest with
  | nil => simp [toBytes?, first_half, second_half]
  | cons next rest => cases next <;> simp [toBytes?, first_half, second_half]

theorem toBytes?_pair (done : Bytes) {high low : Nat} (is_high : 0xd800 ≤ high ∧ high < 0xdc00)
    (is_low : 0xdc00 ≤ low ∧ low < 0xe000) (rest : Quoted) :
    toBytes? done (.codeUnit high :: .codeUnit low :: rest) =
      toBytes? ((scalarBytes (0x10000 + (high - 0xd800) * 0x400 + (low - 0xdc00))).reverse ++ done)
        rest := by
  have first_half : isHighSurrogate high = true := by simpa [isHighSurrogate] using is_high
  have second_half : isLowSurrogate low = true := by simpa [isLowSurrogate] using is_low
  simp [toBytes?, first_half, second_half]

end Quoted

namespace Letters

@[simp]
theorem pieces_nil : pieces [] = [] := rfl

@[simp]
theorem pieces_cons (letter : Letter) (letters : Letters) :
    pieces (letter :: letters) = letter.pieces ++ letters.pieces := rfl

/-- The pieces of a text that means something are read as the characters that it means. -/
theorem Means.toBytes?_pieces {letters : Letters} {text : List Char} (means : letters.Means text)
    (done : Bytes) :
    letters.pieces.toBytes? done = some (done.reverse ++ text.flatMap String.utf8EncodeChar) := by
  induction means generalizing done with
  | nil => simp [Quoted.toBytes?]
  | char symbol others induction =>
      rw [pieces_cons, Letter.pieces, Quoted.toBytes?_map_byte, induction]
      simp
  | unit not_high not_low others induction =>
      rw [pieces_cons, Letter.pieces, List.singleton_append,
        Quoted.toBytes?_codeUnit_cons done not_high not_low, induction, Quoted.scalarBytes_eq]
      simp
  | pair is_high is_low others induction =>
      rw [pieces_cons, pieces_cons, Letter.pieces, Letter.pieces, List.singleton_append,
        List.singleton_append, Quoted.toBytes?_pair done is_high is_low, induction,
        Quoted.scalarBytes_eq]
      simp

theorem Means.toText?_pieces {letters : Letters} {text : String}
    (means : letters.Means text.toList) : letters.pieces.toText? = some text := by
  rw [Quoted.toText?, means.toBytes?_pieces []]
  simp [← Bytes.ofText_eq_flatMap]

theorem written_plain {text : String}
    (printable : ∀ symbol ∈ text.toList, ' ' ≤ symbol ∧ symbol ≠ '"' ∧ symbol ≠ '\\') :
    (plain text).Written (Bytes.ofText text) := by
  rw [Bytes.ofText_eq_flatMap, plain]
  generalize text.toList = symbols at printable
  induction symbols with
  | nil => exact .nil
  | cons symbol symbols induction =>
      obtain ⟨large, no_quote, no_backslash⟩ := printable symbol List.mem_cons_self
      exact .cons (.plain large no_quote no_backslash)
        (induction fun other member => printable other (List.mem_cons_of_mem symbol member))

end Letters

/-- What is encoded of a character that is no control character, no quote and no backslash is none
of them either: a longer encoding has bytes beyond ASCII only. -/
theorem plain_of_mem_utf8EncodeChar {symbol : Char} (printable : ' ' ≤ symbol)
    (no_quote : symbol ≠ '"') (no_backslash : symbol ≠ '\\') :
    ∀ byte ∈ String.utf8EncodeChar symbol, byte ≠ 0x22 ∧ byte ≠ 0x5c ∧ ¬ byte < 0x20 := by
  have bound : 0x20 ≤ symbol.val.toNat := by
    simpa [Char.le_def, UInt32.le_iff_toNat_le] using printable
  have not_quote : symbol.val.toNat ≠ 0x22 := fun same =>
    no_quote (Char.ext (UInt32.toNat_inj.1 same))
  have not_backslash : symbol.val.toNat ≠ 0x5c := fun same =>
    no_backslash (Char.ext (UInt32.toNat_inj.1 same))
  have plain (code : Nat) (large : 0x20 ≤ code) (small : code < 0x100) (other : code ≠ 0x22)
      (another : code ≠ 0x5c) :
      UInt8.ofNat code ≠ 0x22 ∧ UInt8.ofNat code ≠ 0x5c ∧ ¬ UInt8.ofNat code < 0x20 := by
    simp only [ne_eq, ← UInt8.toNat_inj, UInt8.lt_iff_toNat_lt, UInt8.toNat_ofNat',
      UInt8.reduceToNat]
    omega
  have beyond (code : Nat) (large : 0x80 ≤ code) (small : code < 0x100) :=
    plain code (by omega) small (by omega) (by omega)
  intro byte member
  rw [String.utf8EncodeChar] at member
  split at member
  · obtain rfl := List.mem_singleton.1 member
    exact plain _ bound (by omega) not_quote not_backslash
  · split at member
    · simp only [List.mem_cons, List.not_mem_nil, or_false] at member
      rcases member with rfl | rfl <;> exact beyond _ (by omega) (by omega)
    · split at member
      all_goals simp only [List.mem_cons, List.not_mem_nil, or_false] at member
      · rcases member with rfl | rfl | rfl <;> exact beyond _ (by omega) (by omega)
      · rcases member with rfl | rfl | rfl | rfl <;> exact beyond _ (by omega) (by omega)

theorem HexDigit.hexValue? {byte : UInt8} {value : Nat} (digit : HexDigit byte value) :
    Token.hexValue? byte = some value := by
  cases digit with
  | decimal value =>
      revert value
      decide
  | lower value =>
      revert value
      decide
  | upper value =>
      revert value
      decide

namespace Token

/-- Bytes without a quote, a backslash or a control character are read as they are. -/
theorem run_plain (tokens : List Token) (pieces : Quoted) {bytes : Bytes}
    (plain : ∀ byte ∈ bytes, byte ≠ 0x22 ∧ byte ≠ 0x5c ∧ ¬ byte < 0x20) (rest : Bytes) :
    run tokens (.quoted pieces) (bytes ++ rest) =
      run tokens (.quoted ((bytes.map .byte).reverse ++ pieces)) rest := by
  induction bytes generalizing pieces with
  | nil => rfl
  | cons byte bytes induction =>
      obtain ⟨no_quote, no_backslash, printable⟩ := plain byte List.mem_cons_self
      have stepped : step tokens byte (.quoted pieces) =
          some (.quoted (.byte byte :: pieces), tokens) := by
        simp [step, no_quote, no_backslash, printable]
      rw [List.cons_append, run_cons stepped,
        induction _ fun other member => plain other (List.mem_cons_of_mem byte member)]
      simp

theorem run_letter {letter : Letter} {bytes : Bytes} (written : letter.Written bytes)
    (tokens : List Token) (pieces : Quoted) (rest : Bytes) :
    run tokens (.quoted pieces) (bytes ++ rest) =
      run tokens (.quoted (letter.pieces.reverse ++ pieces)) rest := by
  cases written with
  | plain printable no_quote no_backslash =>
      exact run_plain tokens pieces
        (plain_of_mem_utf8EncodeChar printable no_quote no_backslash) rest
  | short listed =>
      simp only [Letter.shortEscapes, List.mem_cons, Prod.mk.injEq, List.not_mem_nil, or_false]
        at listed
      rcases listed with ⟨rfl, rfl⟩ | ⟨rfl, rfl⟩ | ⟨rfl, rfl⟩ | ⟨rfl, rfl⟩ | ⟨rfl, rfl⟩ |
        ⟨rfl, rfl⟩ | ⟨rfl, rfl⟩ | ⟨rfl, rfl⟩ <;> rfl
  | digits one two three four =>
      simp [run, step, one.hexValue?, two.hexValue?, three.hexValue?, four.hexValue?,
        Letter.pieces]

theorem run_letters {letters : Letters} {bytes : Bytes} (written : letters.Written bytes)
    (tokens : List Token) (pieces : Quoted) (rest : Bytes) :
    run tokens (.quoted pieces) (bytes ++ rest) =
      run tokens (.quoted (letters.pieces.reverse ++ pieces)) rest := by
  induction written generalizing pieces with
  | nil => rfl
  | cons first others induction =>
      rw [List.append_assoc, run_letter first, induction]
      simp [Letters.pieces]

theorem isBlank_of_mem {blank : UInt8} (member : blank ∈ blanks) : isBlank blank = true := by
  simp only [blanks, List.mem_cons, List.not_mem_nil, or_false] at member
  rcases member with rfl | rfl | rfl | rfl <;> rfl

theorem isDelimiter_of_mem {blank : UInt8} (member : blank ∈ blanks) :
    isDelimiter blank = true := by
  simp [isDelimiter, isBlank_of_mem member]

theorem run_blank {blank : UInt8} (member : blank ∈ blanks) (tokens : List Token) (rest : Bytes) :
    run tokens .idle (blank :: rest) = run tokens .idle rest := by
  apply run_cons
  simp [step, startAt, isBlank_of_mem member]

theorem Spells.before {written : Bytes} {meant : List Token} {blank : UInt8}
    (spells : Spells written meant) (member : blank ∈ blanks) :
    Spells (blank :: written) meant := by
  intro tokens next rest delimiter
  rw [List.cons_append, run_blank member, spells tokens next rest delimiter]

theorem Spells.after {written : Bytes} {meant : List Token} {blank : UInt8}
    (spells : Spells written meant) (member : blank ∈ blanks) :
    Spells (written ++ [blank]) meant := by
  intro tokens next rest _
  rw [List.append_assoc, List.singleton_append,
    spells tokens blank (next :: rest) (isDelimiter_of_mem member), run_blank member]

theorem Spells.blanks_append {space written : Bytes} {meant : List Token}
    (spells : Spells written meant) (isBlank : ∀ byte ∈ space, byte ∈ blanks) :
    Spells (space ++ written) meant := by
  induction space with
  | nil => exact spells
  | cons byte space induction =>
      have others := induction fun other member => isBlank other (List.mem_cons_of_mem byte member)
      exact others.before (isBlank byte List.mem_cons_self)

theorem spells_inQuotes {letters : Letters} {bytes : Bytes} (written : letters.InQuotes bytes) :
    Spells bytes [.quoted letters.pieces] := by
  induction written with
  | quotes written =>
      intro tokens next rest _
      have opened (more : Bytes) : run tokens .idle (0x22 :: more) = run tokens (.quoted []) more :=
        rfl
      have closed (pieces : Quoted) (more : Bytes) :
          run tokens (.quoted pieces) (0x22 :: more) =
            run (.quoted pieces.reverse :: tokens) .idle more :=
        rfl
      rw [List.cons_append, List.cons_append, opened, List.append_assoc, run_letters written,
        List.singleton_append, closed]
      simp
  | before isBlank _ induction => exact induction.before isBlank
  | after isBlank _ induction => exact induction.after isBlank

end Token

namespace Numeral

theorem digits_append (done written : List Digit) {rest : Bytes}
    (ends : ∀ byte ∈ rest.head?, digit? byte = none) :
    digits done (written.map digitByte ++ rest) = (done.reverse ++ written, rest) := by
  induction written generalizing done with
  | nil =>
      cases rest with
      | nil => simp [digits]
      | cons byte rest => simp [digits, ends byte rfl]
  | cons digit written induction =>
      rw [List.map_cons, List.cons_append, digits, digit?_digitByte]
      simp [induction]

theorem Power.head? {exponent : Option (Bool × List Digit)} {bytes : Bytes}
    (power : Power exponent bytes) : ∀ byte ∈ bytes.head?, byte = 0x65 ∨ byte = 0x45 := by
  cases power with
  | absent => simp
  | bare either => simpa using either
  | plus either => simpa using either
  | minus either => simpa using either

theorem digitByte_ne (digit : Digit) : digitByte digit ≠ 0x2d ∧ digitByte digit ≠ 0x2b := by
  revert digit
  decide

theorem exponentDigits?_digits (negative : Bool) {digits : List Digit} (nonempty : digits ≠ []) :
    exponentDigits? negative (digits.map digitByte) = some (some (negative, digits)) := by
  rw [exponentDigits?, digits_map_digitByte]
  obtain ⟨digit, more, rfl⟩ := List.exists_cons_of_ne_nil nonempty
  rfl

theorem Power.exponent? {exponent : Option (Bool × List Digit)} {bytes : Bytes}
    (power : Power exponent bytes) : Numeral.exponent? bytes = some exponent := by
  cases power with
  | absent => rfl
  | bare either nonempty =>
      rw [← exponentDigits?_digits false nonempty]
      obtain ⟨digit, more, rfl⟩ := List.exists_cons_of_ne_nil nonempty
      obtain ⟨no_minus, no_plus⟩ := digitByte_ne digit
      simp [Numeral.exponent?, either, no_minus, no_plus]
  | plus either nonempty =>
      simp [Numeral.exponent?, either, exponentDigits?_digits false nonempty]
  | minus either nonempty =>
      simp [Numeral.exponent?, either, exponentDigits?_digits true nonempty]

theorem digit?_of_letter {byte : UInt8} (letter : byte = 0x65 ∨ byte = 0x45) :
    digit? byte = none := by
  rcases letter with rfl | rfl <;> rfl

theorem Decimals.fraction? {fraction : List Digit} {bytes rest : Bytes}
    (decimals : Decimals fraction bytes)
    (ends : ∀ byte ∈ rest.head?, byte = 0x65 ∨ byte = 0x45) :
    Numeral.fraction? (bytes ++ rest) = some (fraction, rest) := by
  cases decimals with
  | absent =>
      cases rest with
      | nil => rfl
      | cons byte rest => rcases ends byte rfl with rfl | rfl <;> rfl
  | point nonempty =>
      have read := digits_append [] fraction fun byte member => digit?_of_letter (ends byte member)
      obtain ⟨digit, more, rfl⟩ := List.exists_cons_of_ne_nil nonempty
      simp only [List.cons_append, Numeral.fraction?, read]
      rfl

theorem Decimals.head? {fraction : List Digit} {bytes rest : Bytes}
    (decimals : Decimals fraction bytes)
    (ends : ∀ byte ∈ rest.head?, byte = 0x65 ∨ byte = 0x45) :
    ∀ byte ∈ (bytes ++ rest).head?, digit? byte = none := by
  cases decimals with
  | absent => exact fun byte member => digit?_of_letter (ends byte member)
  | point nonempty => simp [digit?]

theorem sign_append (negative : Bool) {whole : List Digit} (nonempty : whole ≠ []) (rest : Bytes) :
    sign ((if negative then [0x2d] else []) ++ (whole.map digitByte ++ rest)) =
      (negative, whole.map digitByte ++ rest) := by
  obtain ⟨digit, more, rfl⟩ := List.exists_cons_of_ne_nil nonempty
  cases negative with
  | true => rfl
  | false =>
      simp [sign, digitByte_ne digit]

/-- What spells a number is read as that number. -/
theorem Written.ofBytes? {numeral : Numeral} {bytes : Bytes} (written : numeral.Written bytes) :
    Numeral.ofBytes? bytes = some numeral := by
  obtain ⟨nonempty, leading, point, letter⟩ := written
  next negative whole fraction exponent decimals power =>
  have well_formed : ¬ (whole = [] ∨ (whole.head? = some 0 ∧ whole.length ≠ 1)) := by
    rintro (nothing | ⟨zero, longer⟩)
    · exact nonempty nothing
    · exact longer (leading zero)
  have read := digits_append [] whole (point.head? letter.head?)
  simp only [Numeral.ofBytes?, sign_append negative nonempty, read, List.reverse_nil,
    List.nil_append, if_neg well_formed, point.fraction? letter.head?, Option.bind_eq_bind,
    Option.bind_some, letter.exponent?]
  rfl

theorem plain_digits (digits : List Digit) :
    ∀ byte ∈ digits.map digitByte, Token.isDelimiter byte = false := by
  have digit_plain : ∀ digit, Token.isDelimiter (digitByte digit) = false := by decide
  intro byte member
  obtain ⟨digit, -, rfl⟩ := List.mem_map.1 member
  exact digit_plain digit

theorem Power.plain {exponent : Option (Bool × List Digit)} {bytes : Bytes}
    (power : Power exponent bytes) : ∀ byte ∈ bytes, Token.isDelimiter byte = false := by
  have letter_plain {letter : UInt8} (either : letter = 0x65 ∨ letter = 0x45) :
      Token.isDelimiter letter = false := by
    rcases either with rfl | rfl <;> rfl
  cases power with
  | absent => simp
  | bare either => exact List.forall_mem_cons.2 ⟨letter_plain either, plain_digits _⟩
  | plus either =>
      exact List.forall_mem_cons.2 ⟨letter_plain either,
        List.forall_mem_cons.2 ⟨rfl, plain_digits _⟩⟩
  | minus either =>
      exact List.forall_mem_cons.2 ⟨letter_plain either,
        List.forall_mem_cons.2 ⟨rfl, plain_digits _⟩⟩

theorem Decimals.plain {fraction : List Digit} {bytes : Bytes}
    (decimals : Decimals fraction bytes) : ∀ byte ∈ bytes, Token.isDelimiter byte = false := by
  cases decimals with
  | absent => simp
  | point nonempty => exact List.forall_mem_cons.2 ⟨rfl, plain_digits fraction⟩

theorem Written.begins {numeral : Numeral} {bytes : Bytes} (written : numeral.Written bytes) :
    ∃ first more, bytes = first :: more ∧ (first = 0x2d ∨ ∃ digit, first = digitByte digit) := by
  obtain ⟨nonempty, -, -, -⟩ := written
  next negative whole fraction exponent decimals power =>
  obtain ⟨digit, more, rfl⟩ := List.exists_cons_of_ne_nil nonempty
  cases negative with
  | true => exact ⟨_, _, rfl, .inl rfl⟩
  | false => exact ⟨_, _, rfl, .inr ⟨digit, rfl⟩⟩

theorem Written.plain {numeral : Numeral} {bytes : Bytes} (written : numeral.Written bytes) :
    ∀ byte ∈ bytes, Token.isDelimiter byte = false := by
  obtain ⟨-, -, point, letter⟩ := written
  next negative whole fraction exponent decimals power =>
  simp only [List.forall_mem_append]
  refine ⟨?_, plain_digits whole, point.plain, letter.plain⟩
  cases negative with
  | true => exact List.forall_mem_singleton.2 rfl
  | false => exact fun byte member => absurd member List.not_mem_nil

theorem Written.scalar? {numeral : Numeral} {bytes : Bytes} (written : numeral.Written bytes) :
    Token.scalar? bytes = some (.number numeral) := by
  have digit_no_letter : ∀ digit, digitByte digit ≠ 0x6e ∧ digitByte digit ≠ 0x74 ∧
      digitByte digit ≠ 0x66 := by
    decide
  have read := written.ofBytes?
  obtain ⟨first, more, rfl, front⟩ := written.begins
  rw [Token.scalar?, read]
  rcases front with rfl | ⟨digit, rfl⟩
  · simp
  · simp [digit_no_letter]

theorem Written.spells {numeral : Numeral} {bytes : Bytes} (written : numeral.Written bytes) :
    Token.Spells bytes [.scalar (.number numeral)] := by
  refine Token.spells_scalar ?_ written.plain written.scalar?
  obtain ⟨first, more, rfl, -⟩ := written.begins
  exact List.cons_ne_nil first more

end Numeral

/-- The bytes are the tokens of a value. -/
def Reads (bytes : Bytes) (value : Json) : Prop :=
  ∃ meant, Token.Spells bytes meant ∧ Machine.Takes meant value

theorem reads_scalar {bytes : Bytes} {value : Json} (spells : Token.Spells bytes [.scalar value]) :
    Reads bytes value :=
  ⟨[.scalar value], spells, Machine.takes_scalar value⟩

/-- What the grammar spells is read, wherever in a document it stands. -/
theorem Written.reads {value : Json} {bytes : Bytes} (written : Written value bytes) :
    Reads bytes value := by
  induction written with
  | null => exact reads_scalar (Token.spells_scalar (by decide) (by decide +kernel) rfl)
  | true => exact reads_scalar (Token.spells_scalar (by decide) (by decide +kernel) rfl)
  | false => exact reads_scalar (Token.spells_scalar (by decide) (by decide +kernel) rfl)
  | number written => exact reads_scalar written.spells
  | text written => exact ⟨_, Token.spells_inQuotes written, Machine.takes_quoted _⟩
  | @array space items isBlank _ induction =>
      choose! mean spells takes using induction
      have opening : Token.punctuation? 0x5b = some .openArray := rfl
      have closing : Token.punctuation? 0x5d = some .closeArray := rfl
      have inside := Token.spells_commaSeparated Prod.snd mean items spells
      have closed := (inside.join closing Token.spells_nil).blanks_append isBlank
      exact ⟨_, Token.spells_nil.join opening closed, Machine.takes_array takes⟩
  | @object space members isBlank names _ induction =>
      choose! mean spells takes using induction
      have opening : Token.punctuation? 0x7b = some .openObject := rfl
      have colon : Token.punctuation? 0x3a = some .colon := rfl
      have closing : Token.punctuation? 0x7d = some .closeObject := rfl
      have inside := Token.spells_commaSeparated
        (fun member : WrittenMember => member.nameBytes ++ 0x3a :: member.valueBytes)
        (fun member => .quoted member.name.pieces :: .colon :: mean member) members
        fun member listed =>
          (Token.spells_inQuotes (names member listed)).join colon (spells member listed)
      have closed := (inside.join closing Token.spells_nil).blanks_append isBlank
      exact ⟨_, Token.spells_nil.join opening closed, Machine.takes_object _ takes⟩
  | before isBlank _ induction =>
      obtain ⟨meant, spells, takes⟩ := induction
      exact ⟨meant, spells.before isBlank, takes⟩
  | after isBlank _ induction =>
      obtain ⟨meant, spells, takes⟩ := induction
      exact ⟨meant, spells.after isBlank, takes⟩

/-- A space at the end of a document makes no difference. -/
theorem Token.run_append_space (tokens : List Token) (mode : Mode) (bytes : Bytes) :
    run tokens mode (bytes ++ [0x20]) = run tokens mode bytes := by
  induction bytes generalizing tokens mode with
  | nil =>
      cases mode with
      | scalar seen =>
          have ended : isDelimiter 0x20 = true := rfl
          cases read : scalar? seen.reverse with
          | none => simp [run, step, ended, read]
          | some value => simp [run, step, startAt, isBlank, ended, read]
      | _ => rfl
  | cons byte bytes induction =>
      rw [List.cons_append, run, run]
      cases step tokens byte mode with
      | none => rfl
      | some next => exact induction next.2 next.1

/-- What the grammar spells is read. -/
theorem Written.ofBytes? {value : Json} {bytes : Bytes} (written : Written value bytes) :
    Json.ofBytes? bytes = some value := by
  obtain ⟨meant, spells, takes⟩ := written.reads
  have read : Token.run [] .idle bytes = some meant := by
    rw [← Token.run_append_space, spells [] 0x20 [] rfl]
    simp [Token.run, Token.step, Token.startAt, Token.isBlank]
  have completed := takes.completes [] []
  rw [List.append_nil] at completed
  rw [Json.ofBytes?, Token.ofBytes?, read, Option.bind_some]
  exact completed

end Json

end PadRelay
