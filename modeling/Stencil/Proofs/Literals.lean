import Mathlib.Data.Int.ModEq
import Stencil.PatchValue
import Stencil.Proofs.Printing

/-!
# Literals in programs and in values

The same literal can stand for a constant of a program and for a patch value. The
parser reads a magnitude and checks it together with its sign; a value is read as a
signed 64-bit number and then narrowed. Both accept exactly the numerals whose signed
number lies between `-2 ^ 31` and `2 ^ 32 - 1`, and give the 32-bit value that is
congruent to it.

A literal between `2 ^ 63` and `2 ^ 64` fails for one reason here and for another one
there; the proof only uses that the accepted range lies below both limits.
-/

namespace Stencil

namespace Numeral

/-! ### Numerals are unambiguous -/

/-- The number that the digits among some characters make up. -/
def positional (base : Nat) (characters : List Char) : Nat :=
  (characters.filterMap digitValue?).foldl (fun value digit => value * base + digit) 0

theorem positional_of_digits {base : Nat} {digits : List Char} {value : Nat}
    (run : Digits base digits value) : positional base digits = value := by
  have underscore : digitValue? '_' = none := by decide
  induction run with
  | single isDigit small => simp [positional, isDigit]
  | append before isDigit small ih =>
      rw [positional] at ih ⊢
      simp [isDigit, ih]
  | separate before isDigit small ih =>
      rw [positional] at ih ⊢
      simp [isDigit, underscore, ih]

theorem digit_of_mem_digits {base : Nat} {digits : List Char} {value : Nat}
    (run : Digits base digits value) :
    ∀ character ∈ digits,
      character = '_' ∨ ∃ digit, digitValue? character = some digit ∧ digit < base := by
  induction run with
  | single isDigit small => simp [isDigit, small]
  | append before isDigit small ih => simpa [or_imp, forall_and, isDigit, small] using ih
  | separate before isDigit small ih => simpa [or_imp, forall_and, isDigit, small] using ih

theorem parts_of_octal_digits {digits : List Char} {value : Nat}
    (run : Digits 8 ('0' :: digits) value) :
    parts ('0' :: digits) = { base := 8, marked := false, digits := '0' :: digits } := by
  rcases parts_cases ('0' :: digits) with ⟨letter, first, rest, base, shape, mark, _⟩ |
    ⟨_, _, parts_eq⟩ | ⟨noZero, _⟩
  · -- The letter of a mark is no octal digit.
    rcases not_octal_of_markedBase? mark with ⟨notUnderscore, large⟩
    rcases digit_of_mem_digits run letter (by simp [shape]) with
      underscore | ⟨digit, isDigit, small⟩
    · exact absurd underscore notUnderscore
    · exact absurd small (Nat.not_lt.mpr (large digit isDigit))
  · exact parts_eq
  · simp at noZero

theorem positional_of_denotes {characters : List Char} {value : Nat}
    (denotes : Denotes characters value) :
    positional (parts characters).base (parts characters).digits = value := by
  cases denotes with
  | decimal run noZero =>
      rcases parts_cases characters with ⟨letter, first, rest, base, rfl, _⟩ | ⟨rest, rfl, _⟩ |
        ⟨_, parts_eq⟩
      · simp at noZero
      · simp at noZero
      · rw [parts_eq]
        exact positional_of_digits run
  | octal run =>
      rw [parts_of_octal_digits run]
      exact positional_of_digits run
  | @marked letter base digits _ mark run =>
      cases digits with
      | nil => exact absurd rfl (ne_nil_of_digits run)
      | cons first rest =>
          simp only [parts, mark]
          exact positional_of_digits run
  | @markedSeparate letter base digits _ mark run =>
      have underscore : digitValue? '_' = none := by decide
      have skipped : positional base ('_' :: digits) = positional base digits := by
        simp [positional, underscore]
      simp only [parts, mark, skipped]
      exact positional_of_digits run

theorem denotes_unique {characters : List Char} {first second : Nat}
    (denotesFirst : Denotes characters first) (denotesSecond : Denotes characters second) :
    first = second := by
  rw [← positional_of_denotes denotesFirst, positional_of_denotes denotesSecond]

/-! ### Signed numerals -/

/-- The integer of a magnitude behind a minus sign or without one. -/
def signed (negative : Bool) (magnitude : Nat) : Int :=
  if negative then -(magnitude : Int) else magnitude

/-- A numeral with a sign is read as a signed 64-bit number. -/
theorem integer_signed_iff {digits : List Char}
    (unsigned : digits.head? ≠ some '-' ∧ digits.head? ≠ some '+') (negative : Bool)
    (value : Int) :
    integer ((if negative then ['-'] else []) ++ digits) = .ok value ↔
      ∃ magnitude, natural digits = .ok magnitude ∧
        (-2 ^ 63 ≤ signed negative magnitude ∧ signed negative magnitude < 2 ^ 63) ∧
        signed negative magnitude = value := by
  cases negative with
  | true =>
      rw [if_pos rfl, List.singleton_append]
      cases read : natural digits with
      | error error => simp [integer, read]
      | ok magnitude =>
          have power : Nat.pow 2 63 = 2 ^ 63 := rfl
          simp only [integer, read, Outcome.ite_error_eq_ok_iff, signed, if_true,
            Except.ok.injEq, exists_eq_left', power]
          omega
  | false =>
      have plain : integer digits = integer.positive digits := by
        unfold integer
        split
        · simp at unsigned
        · simp at unsigned
        · rfl
      rw [if_neg Bool.false_ne_true, List.nil_append, plain, integer.positive]
      cases natural digits with
      | error error => simp
      | ok magnitude => simp [Outcome.ite_error_eq_ok_iff, signed]

end Numeral

namespace Lexer

/-- A digit followed by letters, digits and underscores. -/
def IsNumberText (literal : String) : Prop :=
  ∃ first rest, literal.toList = first :: rest ∧ isDigit (byteOf first) = true ∧
    ∀ character ∈ first :: rest, IsWordCharacter character

theorem not_isBlank_of_word {character : Char} (inside : IsWordCharacter character) :
    Blank.isBlank character = false := by
  have seen := visible_of_word inside
  have visible : ¬Blank.isBlank character = true := by
    simp only [Blank.isBlank, Bool.or_eq_true, Bool.and_eq_true, decide_eq_true_eq, beq_iff_eq]
    omega
  simpa using visible

theorem unsigned_of_isNumberText {literal : String} (isNumber : IsNumberText literal) :
    literal.toList.head? ≠ some '-' ∧ literal.toList.head? ≠ some '+' := by
  rcases isNumber with ⟨first, rest, characters, _, inside⟩
  have word := inside first List.mem_cons_self
  rw [characters]
  constructor
  · rintro ⟨⟩
    exact absurd word (by decide)
  · rintro ⟨⟩
    exact absurd word (by decide)

end Lexer

theorem Blank.trimmed_eq_self {characters : List Char}
    (visible : ∀ character ∈ characters, isBlank character = false) :
    trimmed characters = characters := by
  have skipped : ∀ {others : List Char}, (∀ character ∈ others, isBlank character = false) →
      others.dropWhile isBlank = others := by
    intro others othersVisible
    cases others with
    | nil => rfl
    | cons first rest => simp [othersVisible first List.mem_cons_self]
  rw [trimmed, skipped visible, skipped (by simpa using visible), List.reverse_reverse]

namespace PatchValue

theorem ofTexts_singleton_iff (text : String) (values : List Int32) :
    ofTexts [text] = .ok values ↔ ∃ value, ofText text = .ok value ∧ values = [value] := by
  simp only [ofTexts, List.mapM_cons, List.mapM_nil, Outcome.bind_eq_ok_iff, pure, Except.pure,
    Except.ok.injEq]
  constructor
  · rintro ⟨value, read, _, rfl, rfl⟩
    exact ⟨value, read, rfl⟩
  · rintro ⟨value, read, rfl⟩
    exact ⟨value, read, [], rfl, rfl⟩

theorem ofText_eq_ok_iff (text : String) (value : Int32) :
    ofText text = .ok value ↔
      ∃ integer, Numeral.integer (Blank.trimmed text.toList) = .ok integer ∧
        ofInt? integer = some value := by
  unfold ofText
  cases Numeral.integer (Blank.trimmed text.toList) with
  | error error => cases error <;> simp
  | ok integer => cases narrowed : ofInt? integer <;> simp [narrowed]

/-- The integer fits in 32 bits, with a sign or without one. -/
def Fits (integer : Int) : Prop :=
  -2 ^ 31 ≤ integer ∧ integer ≤ 2 ^ 32 - 1

instance (integer : Int) : Decidable (Fits integer) :=
  inferInstanceAs (Decidable (_ ∧ _))

theorem magnitude_lt_of_fits {negative : Bool} {magnitude : Nat}
    (fits : Fits (Numeral.signed negative magnitude)) : magnitude < 2 ^ 64 := by
  rw [Fits, Numeral.signed] at fits
  split_ifs at fits with isNegative
  · omega
  · omega

theorem ofInt?_eq_some_iff (integer : Int) (value : Int32) :
    ofInt? integer = some value ↔ Fits integer ∧ Int32.ofInt integer = value := by
  have range : -Int.pow 2 31 ≤ integer ∧ integer < Int.pow 2 32 ↔ Fits integer := by
    have lower : Int.pow 2 31 = 2 ^ 31 := rfl
    have upper : Int.pow 2 32 = 2 ^ 32 := rfl
    rw [lower, upper, Fits]
    omega
  simp only [ofInt?, range, Option.ite_none_right_eq_some, Option.some.injEq]

/-- The 32-bit value of an integer is the only one congruent to it. -/
theorem toInt_modEq_iff (integer : Int) (value : Int32) :
    value.toInt ≡ integer [ZMOD 2 ^ 32] ↔ Int32.ofInt integer = value := by
  have lower := value.le_toInt
  have upper := value.toInt_lt
  rw [Int32.ofInt_eq_iff_bmod_eq_toInt, Int.bmod_eq_iff (by decide), Int.modEq_iff_dvd]
  push_cast
  omega

theorem toList_signedText (negative : Bool) (literal : String) :
    (Fault.signedText negative literal).toList =
      (if negative then ['-'] else []) ++ literal.toList := by
  cases negative <;> simp [Fault.signedText]

theorem trimmed_signedText {literal : String} (isNumber : Lexer.IsNumberText literal)
    (negative : Bool) :
    Blank.trimmed (Fault.signedText negative literal).toList =
      (if negative then ['-'] else []) ++ literal.toList := by
  rcases isNumber with ⟨first, rest, characters, _, inside⟩
  rw [toList_signedText, characters]
  apply Blank.trimmed_eq_self
  intro character characterMem
  rcases List.mem_append.mp characterMem with sign | digit
  · cases negative with
    | false => simp at sign
    | true =>
        rw [List.mem_singleton.mp sign]
        decide
  · exact Lexer.not_isBlank_of_word (inside character digit)

/-- A literal is a value exactly if its signed number fits. -/
theorem ofText_signedText_iff {literal : String} (isNumber : Lexer.IsNumberText literal)
    (negative : Bool) (value : Int32) :
    ofText (Fault.signedText negative literal) = .ok value ↔
      ∃ magnitude, Numeral.Denotes literal.toList magnitude ∧
        Fits (Numeral.signed negative magnitude) ∧
        Int32.ofInt (Numeral.signed negative magnitude) = value := by
  have unsigned := Lexer.unsigned_of_isNumberText isNumber
  rw [ofText_eq_ok_iff, trimmed_signedText isNumber]
  simp only [ofInt?_eq_some_iff, Numeral.integer_signed_iff unsigned, Numeral.natural_eq_ok_iff]
  constructor
  · rintro ⟨_, ⟨magnitude, ⟨denotes, _⟩, _, rfl⟩, fits, narrowed⟩
    exact ⟨magnitude, denotes, fits, narrowed⟩
  · rintro ⟨magnitude, denotes, fits, narrowed⟩
    have bounded := magnitude_lt_of_fits fits
    have range : -2 ^ 63 ≤ Numeral.signed negative magnitude ∧
        Numeral.signed negative magnitude < 2 ^ 63 := by
      rw [Fits] at fits
      omega
    exact ⟨_, ⟨magnitude, ⟨denotes, bounded⟩, range, rfl⟩, fits, narrowed⟩

theorem ofTexts_signedText_iff {literal : String} (isNumber : Lexer.IsNumberText literal)
    (negative : Bool) (values : List Int32) :
    ofTexts [Fault.signedText negative literal] = .ok values ↔
      ∃ magnitude, Numeral.Denotes literal.toList magnitude ∧
        Fits (Numeral.signed negative magnitude) ∧
        values = [Int32.ofInt (Numeral.signed negative magnitude)] := by
  simp only [ofTexts_singleton_iff, ofText_signedText_iff isNumber]
  constructor
  · rintro ⟨_, ⟨magnitude, denotes, fits, rfl⟩, rfl⟩
    exact ⟨magnitude, denotes, fits, rfl⟩
  · rintro ⟨magnitude, denotes, fits, rfl⟩
    exact ⟨_, ⟨magnitude, denotes, fits, rfl⟩, rfl⟩

end PatchValue

namespace Parser

open Grammar

/-- The parser accepts a magnitude with its sign exactly if the signed number fits. -/
theorem isConstant_iff (negative : Bool) (magnitude : Nat) (value : Int32) :
    IsConstant negative magnitude value ↔
      PatchValue.Fits (Numeral.signed negative magnitude) ∧
        Int32.ofInt (Numeral.signed negative magnitude) = value := by
  rw [← immediateOf_eq_ok_iff, immediateOf]
  cases negative with
  | true =>
      have range : magnitude ≤ Nat.pow 2 31 ↔ PatchValue.Fits (-(magnitude : Int)) := by
        have power : Nat.pow 2 31 = 2 ^ 31 := rfl
        rw [power, PatchValue.Fits]
        omega
      simp [Outcome.ite_error_eq_ok_iff, range, Numeral.signed]
  | false =>
      have range : magnitude < Nat.pow 2 32 ↔ PatchValue.Fits (magnitude : Int) := by
        have power : Nat.pow 2 32 = 2 ^ 32 := rfl
        rw [power, PatchValue.Fits]
        omega
      simp [Outcome.ite_error_eq_ok_iff, range, Numeral.signed]

/-- The tokens of a literal, with a minus sign or without one, and of a semicolon. -/
def LiteralTokens (negative : Bool) (literal : String) (tokens : List Token) : Prop :=
  ∃ signs number closing, tokens = signs ++ [number, closing] ∧ Optional .minus signs negative ∧
    number.kind = .number ∧ number.text = literal ∧ closing.isMark .semicolon

/-- The tokens of the statement that pushes a literal. -/
def PushTokens (negative : Bool) (literal : String) (tokens : List Token) : Prop :=
  ∃ name rest, tokens = name :: rest ∧ NamesMnemonic name .push ∧
    LiteralTokens negative literal rest

/-- Reading a source goes on behind a literal exactly if its signed number fits. -/
theorem run_literal_iff (mnemonic : Mnemonic) (destination : Operand) {signs : List Token}
    {number : Token} {negative : Bool} (signed : Optional .minus signs negative)
    (isNumber : number.kind = .number) (rest : List Token) (program : List Instruction) :
    run (.operand (.source mnemonic destination)) (signs ++ number :: rest) = .ok program ↔
      ∃ magnitude value, IsNumber number magnitude ∧ IsConstant negative magnitude value ∧
        run (.terminator { mnemonic, destination, source := { shape := .immediate value } }) rest =
          .ok program := by
  cases signed with
  | absent =>
      rw [List.nil_append, run_eq_ok_iff_next (by simp) (by simp)]
      constructor
      · rintro ⟨_, _, next, ⟨⟩, stepped, accepted⟩
        have noMark := Token.not_isMark_of_number isNumber
        rcases (step_source_iff _ _ _ _).mp stepped with ⟨_, names, _⟩ | ⟨isMark, _⟩ | ⟨isMark, _⟩ |
          ⟨isMark, _⟩ | ⟨magnitude, value, denotes, fits, next_eq⟩
        · simp [NamesRegister, isNumber] at names
        · exact absurd isMark (noMark _)
        · exact absurd isMark (noMark _)
        · exact absurd isMark (noMark _)
        · rcases next_eq with ⟨⟩
          exact ⟨magnitude, value, denotes, fits, accepted⟩
      · rintro ⟨magnitude, value, denotes, fits, accepted⟩
        have stepped := (step_source_iff mnemonic destination number _).mpr
          (.inr (.inr (.inr (.inr ⟨magnitude, value, denotes, fits, rfl⟩))))
        exact ⟨number, rest, _, rfl, stepped, accepted⟩
  | @present minus isMinus =>
      have stepped := (step_source_iff mnemonic destination minus _).mpr
        (.inr (.inr (.inr (.inl ⟨isMinus, rfl⟩))))
      rw [List.singleton_append, run, stepped]
      dsimp only
      rw [run_negated_iff]
      constructor
      · rintro ⟨_, _, magnitude, value, ⟨⟩, denotes, fits, accepted⟩
        exact ⟨magnitude, value, denotes, fits, accepted⟩
      · rintro ⟨magnitude, value, denotes, fits, accepted⟩
        exact ⟨number, rest, magnitude, value, rfl, denotes, fits, accepted⟩

/-- The parser accepts the push of a literal exactly if its signed number fits. -/
theorem program_push_iff {negative : Bool} {literal : String} {tokens : List Token}
    (spelled : PushTokens negative literal tokens) (program : List Instruction) :
    Parser.program tokens = .ok program ↔
      ∃ magnitude, Numeral.Denotes literal.toList magnitude ∧
        PatchValue.Fits (Numeral.signed negative magnitude) ∧
        program = [{ mnemonic := .push, source :=
          { shape := .immediate (Int32.ofInt (Numeral.signed negative magnitude)) } }] := by
  rcases spelled with
    ⟨name, _, rfl, names, signs, number, closing, rfl, signed, isNumber, rfl, closes⟩
  rw [program_eq_ok_iff_run, run_name (by decide) names]
  change run (.operand (.source .push .absent)) (signs ++ [number, closing]) = .ok program ↔ _
  rw [run_literal_iff _ _ signed isNumber]
  simp only [isConstant_iff, IsNumber, isNumber, true_and]
  constructor
  · rintro ⟨magnitude, _, ⟨denotes, _⟩, ⟨fits, rfl⟩, accepted⟩
    rcases (run_terminator_iff _ _ _).mp accepted with ⟨_, _, later, ⟨⟩, _, ended, rfl⟩
    simp only [run, if_true, Except.ok.injEq] at ended
    subst ended
    exact ⟨magnitude, denotes, fits, rfl⟩
  · rintro ⟨magnitude, denotes, fits, rfl⟩
    have bounded := PatchValue.magnitude_lt_of_fits fits
    refine ⟨magnitude, _, ⟨denotes, bounded⟩, ⟨fits, rfl⟩, ?_⟩
    rw [run_terminator_iff]
    exact ⟨closing, [], [], rfl, closes, rfl, rfl⟩

theorem reads_literal {literal : String} (isNumber : Lexer.IsNumberText literal) (negative : Bool) :
    Lexer.Reads (Lexer.bytesOf (Fault.signedText negative literal) ++ Lexer.bytesOf ";")
      (LiteralTokens negative literal) := by
  rcases isNumber with ⟨first, rest, characters, starts, inside⟩
  have literal_eq : literal = String.ofList (first :: rest) := by
    rw [← characters, String.ofList_toList]
  have number := Lexer.Reads.wordText inside (Lexer.boundary_mark .semicolon [])
    (Lexer.Reads.mark .semicolon Lexer.Reads.empty)
  have kind_eq : Lexer.wordClass (Lexer.byteOf first) = .number := by
    rw [Lexer.wordClass, if_pos starts]
  rw [← literal_eq, kind_eq] at number
  rw [Fault.signedText, Lexer.bytesOf_append, List.append_assoc]
  cases negative with
  | false =>
      apply number.mono
      rintro _ ⟨_, _, rfl, ⟨number, rfl, isNumber, text_eq⟩, _, _, rfl, ⟨closing, rfl, closes⟩, rfl⟩
      exact ⟨[], number, closing, rfl, .absent, isNumber, text_eq, closes⟩
  | true =>
      apply (Lexer.Reads.mark .minus number).mono
      rintro _ ⟨_, _, rfl, ⟨minus, rfl, isMinus⟩, _, _, rfl, ⟨number, rfl, isNumber, text_eq⟩, _, _,
        rfl, ⟨closing, rfl, closes⟩, rfl⟩
      exact ⟨[minus], number, closing, rfl, .present isMinus, isNumber, text_eq, closes⟩

theorem reads_push {literal : String} (isNumber : Lexer.IsNumberText literal) (negative : Bool) :
    Lexer.Reads (Lexer.bytesOf ("push " ++ Fault.signedText negative literal ++ ";"))
      (PushTokens negative literal) := by
  have name_eq : Lexer.bytesOf "push " = Lexer.bytesOf Mnemonic.push.text ++ Lexer.bytesOf " " := by
    decide
  rcases Lexer.reads_space (reads_literal isNumber negative) with ⟨boundary, literalRead⟩
  have read := Lexer.reads_mnemonic (by decide : Mnemonic.push ∈ Mnemonic.all) boundary literalRead
  rw [Lexer.bytesOf_append, Lexer.bytesOf_append, name_eq, List.append_assoc, List.append_assoc]
  apply read.mono
  rintro _ ⟨_, rest, rfl, ⟨name, rfl, names⟩, spelled⟩
  exact ⟨name, rest, rfl, names, spelled⟩

end Parser

/-- A literal is a constant of a program exactly if it is a patch value, which is the case
exactly if it denotes a number that, with its sign, lies between `-2 ^ 31` and
`2 ^ 32 - 1`. Both then give the one 32-bit value that is congruent to this number. -/
theorem constants_agree_with_patchValues (literal : String)
    (isNumber : Lexer.IsNumberText literal) (negative : Bool) :
    let text := (if negative then "-" else "") ++ literal
    ∃ tokens, Lexer.tokens (Lexer.bytesOf ("push " ++ text ++ ";")) = .ok tokens ∧
      ((∃ program, Parser.program tokens = .ok program) ↔
        ∃ values, PatchValue.ofTexts [text] = .ok values) ∧
      ((∃ values, PatchValue.ofTexts [text] = .ok values) ↔
        ∃ magnitude, Numeral.Denotes literal.toList magnitude ∧
          PatchValue.Fits (Numeral.signed negative magnitude)) ∧
      ∀ program values magnitude, Parser.program tokens = .ok program →
        PatchValue.ofTexts [text] = .ok values → Numeral.Denotes literal.toList magnitude →
        ∃ value, program = [{ mnemonic := .push, source := { shape := .immediate value } }] ∧
          values = [value] ∧
          ∀ other : Int32,
            other.toInt ≡ Numeral.signed negative magnitude [ZMOD 2 ^ 32] ↔ other = value := by
  intro text
  have text_eq : text = Fault.signedText negative literal := rfl
  rcases Parser.reads_push isNumber negative Position.start with ⟨tokens, read, spelled⟩
  have parsed := Parser.program_push_iff spelled
  have narrowed := PatchValue.ofTexts_signedText_iff isNumber negative
  rw [← text_eq] at narrowed
  refine ⟨tokens, read, ?_, ?_, ?_⟩
  · simp only [parsed, narrowed]
    constructor
    · rintro ⟨_, magnitude, denotes, fits, _⟩
      exact ⟨_, magnitude, denotes, fits, rfl⟩
    · rintro ⟨_, magnitude, denotes, fits, _⟩
      exact ⟨_, magnitude, denotes, fits, rfl⟩
  · simp only [narrowed]
    constructor
    · rintro ⟨_, magnitude, denotes, fits, _⟩
      exact ⟨magnitude, denotes, fits⟩
    · rintro ⟨magnitude, denotes, fits⟩
      exact ⟨_, magnitude, denotes, fits, rfl⟩
  · intro program values magnitude accepted given denotes
    rcases (parsed program).mp accepted with ⟨parsedMagnitude, parsedDenotes, _, rfl⟩
    rcases (narrowed values).mp given with ⟨givenMagnitude, givenDenotes, _, rfl⟩
    rw [Numeral.denotes_unique parsedDenotes denotes, Numeral.denotes_unique givenDenotes denotes]
    refine ⟨_, rfl, rfl, ?_⟩
    intro other
    rw [PatchValue.toInt_modEq_iff]
    exact eq_comm

theorem constants_agree_with_patchValues_least :
    Lexer.IsNumberText "0x8000_0000" ∧
      ∃ tokens program values, Lexer.tokens (Lexer.bytesOf "push -0x8000_0000;") = .ok tokens ∧
        Parser.program tokens = .ok program ∧
        PatchValue.ofTexts ["-0x8000_0000"] = .ok values ∧
        ∃ value, program = [{ mnemonic := .push, source := { shape := .immediate value } }] ∧
          values = [value] ∧
          ∀ other : Int32, other.toInt ≡ -2147483648 [ZMOD 2 ^ 32] ↔ other = value := by
  have inside : ('0' :: "x8000_0000".toList).all
      fun character => decide (Lexer.IsWordCharacter character) := by
    decide
  have isNumber : Lexer.IsNumberText "0x8000_0000" := by
    refine ⟨'0', "x8000_0000".toList, by decide, by decide, ?_⟩
    simpa only [List.all_eq_true, decide_eq_true_eq] using inside
  have denotes : Numeral.Denotes "0x8000_0000".toList 2147483648 :=
    ((Numeral.natural_eq_ok_iff _ _).mp (by decide)).1
  have fits : PatchValue.Fits (Numeral.signed true 2147483648) := by
    decide
  rcases constants_agree_with_patchValues "0x8000_0000" isNumber true with
    ⟨tokens, read, agree, accepted, same⟩
  rcases accepted.mpr ⟨_, denotes, fits⟩ with ⟨values, given⟩
  rcases agree.mpr ⟨values, given⟩ with ⟨program, parsed⟩
  exact ⟨isNumber, tokens, program, values, read, parsed, given,
    same program values _ parsed given denotes⟩

end Stencil
