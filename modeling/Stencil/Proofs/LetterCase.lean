import Stencil.Proofs.Layout

/-!
# Letter case does not matter

Texts that differ only in the case of ASCII letters assemble alike. The argument goes
through the text in lower case. A letter stays a letter there and no other byte changes,
so the lexer finds the same tokens at the same places, with their texts in lower case.
The parser looks at the text of a token in four ways: as a mark, as the name of an
operation, as the name of a register and as a numeral. None of them depends on the case.
-/

namespace Stencil

/-! ### Characters in lower case -/

theorem isUpper_iff (character : Char) :
    character.isUpper = true ↔ 65 ≤ character.toNat ∧ character.toNat ≤ 90 :=
  decide_eq_true_iff

theorem isLower_iff (character : Char) :
    character.isLower = true ↔ 97 ≤ character.toNat ∧ character.toNat ≤ 122 :=
  Bool.and_eq_true_iff.trans (and_congr decide_eq_true_iff decide_eq_true_iff)

theorem toLower_of_not_isUpper {character : Char} (notCapital : ¬character.isUpper = true) :
    character.toLower = character := by
  rw [isUpper_iff] at notCapital
  exact dif_neg notCapital

theorem toNat_toLower {character : Char} (capital : character.isUpper = true) :
    character.toLower.toNat = character.toNat + 32 := by
  rw [isUpper_iff] at capital
  have lower_eq : character.toLower.toNat = (character.toNat + 32) % 2 ^ 32 :=
    congrArg Char.toNat (dif_pos capital)
  exact lower_eq.trans (Nat.mod_eq_of_lt (by omega))

/-- A character that is no letter is the lower-case form of itself alone. -/
theorem toLower_eq_iff {character other : Char} (noLetter : other.isAlpha = false) :
    character.toLower = other ↔ character = other := by
  have neither : other.isUpper = false ∧ other.isLower = false := Bool.or_eq_false_iff.mp noLetter
  rw [← Bool.not_eq_true, ← Bool.not_eq_true, isUpper_iff, isLower_iff] at neither
  by_cases capital : character.isUpper = true
  · have lower_eq := toNat_toLower capital
    rw [isUpper_iff] at capital
    rw [← Char.toNat_inj, ← Char.toNat_inj, lower_eq]
    omega
  · rw [toLower_of_not_isUpper capital]

theorem LowerCase.character_toLower (letter : Char) :
    character letter.toLower = character letter := by
  by_cases capital : letter.isUpper = true
  · have lower_eq := toNat_toLower capital
    have range := (isUpper_iff letter).mp capital
    have different : ∀ other : Char, 122 < other.toNat → letter.toLower ≠ other := by
      rintro _ beyond rfl
      omega
    have notCapital : ¬letter.toLower.isUpper = true := by
      rw [isUpper_iff]
      omega
    rw [character, if_neg notCapital, if_neg (different _ (by decide)),
      if_neg (different _ (by decide)), character, if_pos capital]
  · rw [toLower_of_not_isUpper capital]

/-- The text with its ASCII letters in lower case. -/
def lowerText (text : String) : String :=
  String.ofList (text.toList.map Char.toLower)

theorem LowerCase.text_lowerText (name : String) : text (lowerText name) = text name := by
  simp [text, lowerText, Function.comp_def, character_toLower]

theorem lowerText_eq_singleton_iff {text : String} {character : Char}
    (noLetter : character.isAlpha = false) :
    lowerText text = String.singleton character ↔ text = String.singleton character := by
  rw [← String.toList_inj, ← String.toList_inj, lowerText, String.toList_ofList,
    String.toList_singleton, List.map_eq_singleton_iff]
  simp only [toLower_eq_iff noLetter, exists_eq_right]

/-! ### Numerals in lower case -/

namespace Numeral

theorem digitValue?_toLower (character : Char) :
    digitValue? character.toLower = digitValue? character := by
  by_cases capital : character.isUpper = true
  · have ordered : ∀ first second : Char, first ≤ second ↔ first.toNat ≤ second.toNat := by
      intro first second
      rfl
    have lower_eq := toNat_toLower capital
    rw [isUpper_iff] at capital
    simp only [digitValue?, ordered, Char.reduceToNat, lower_eq]
    rw [if_neg (by omega), if_pos (by omega), if_neg (by omega), if_neg (by omega), if_pos capital,
      Option.some.injEq]
    omega
  · rw [toLower_of_not_isUpper capital]

theorem markedBase?_toLower (letter : Char) : markedBase? letter.toLower = markedBase? letter := by
  by_cases capital : letter.isUpper = true
  · have lower_eq := toNat_toLower capital
    rw [isUpper_iff] at capital
    have sixteen : letter.toNat + 32 = 120 ∨ letter.toNat + 32 = 88 ↔
        letter.toNat = 120 ∨ letter.toNat = 88 := by
      omega
    have eight : letter.toNat + 32 = 111 ∨ letter.toNat + 32 = 79 ↔
        letter.toNat = 111 ∨ letter.toNat = 79 := by
      omega
    have two : letter.toNat + 32 = 98 ∨ letter.toNat + 32 = 66 ↔
        letter.toNat = 98 ∨ letter.toNat = 66 := by
      omega
    simp only [markedBase?, ← Char.toNat_inj, lower_eq, Char.reduceToNat, sixteen, eight, two]
  · rw [toLower_of_not_isUpper capital]

theorem parts_map_toLower (characters : List Char) :
    parts (characters.map Char.toLower) =
      { parts characters with digits := (parts characters).digits.map Char.toLower } := by
  rcases characters with _ | ⟨zero, rest⟩
  · rfl
  · by_cases isZero : zero = '0'
    · subst isZero
      have stays : '0'.toLower = '0' := by decide
      rcases rest with _ | ⟨letter, _ | ⟨first, rest⟩⟩
      · rfl
      · rfl
      · simp only [List.map_cons, stays, parts, markedBase?_toLower]
        cases markedBase? letter with
        | none => rfl
        | some base => rfl
    · have notZero : zero.toLower ≠ '0' := by
        rwa [ne_eq, toLower_eq_iff (by decide)]
      have plain : ∀ {first : Char} {others : List Char}, first ≠ '0' →
          parts (first :: others) = { base := 10, marked := false, digits := first :: others } := by
        intro first others different
        unfold parts
        split <;> simp_all
      rw [List.map_cons, plain notZero, plain isZero, List.map_cons]

theorem accumulate_map_toLower (base value : Nat) (characters : List Char) :
    accumulate base value (characters.map Char.toLower) = accumulate base value characters := by
  induction characters generalizing value with
  | nil => rfl
  | cons character rest ih =>
      simp only [List.map_cons, accumulate, toLower_eq_iff (by decide : '_'.isAlpha = false),
        digitValue?_toLower, ih]

theorem separated_map_toLower (afterDigit : Bool) (characters : List Char) :
    separated afterDigit (characters.map Char.toLower) = separated afterDigit characters := by
  induction characters generalizing afterDigit with
  | nil => rfl
  | cons character rest ih =>
      simp only [List.map_cons, separated, toLower_eq_iff (by decide : '_'.isAlpha = false), ih]

theorem natural_map_toLower (characters : List Char) :
    natural (characters.map Char.toLower) = natural characters := by
  simp only [natural, parts_map_toLower, accumulate_map_toLower, separated_map_toLower]

end Numeral

/-! ### Tokens in lower case -/

/-- The token with its text in lower case. -/
def Token.lowered (token : Token) : Token :=
  { token with text := lowerText token.text }

namespace Parser

/-- A token is looked at as a mark, as a name or as a numeral. -/
theorem alike_of_readings {first second : Token} (kind_eq : first.kind = second.kind)
    (mark_eq : ∀ mark, first.isMark mark = second.isMark mark)
    (mnemonic_eq : Mnemonic.ofName? first.text = Mnemonic.ofName? second.text)
    (register_eq : Register.ofName? first.text = Register.ofName? second.text)
    (numeral_eq : Numeral.natural first.text.toList = Numeral.natural second.text.toList) :
    Alike first second := by
  have word_eq : first.isWord = second.isWord := by
    rw [Token.isWord, Token.isWord, kind_eq]
  have number_eq : first.isNumber = second.isNumber := by
    rw [Token.isNumber, Token.isNumber, kind_eq]
  have registers : register first = register second := by
    rw [register, register, register_eq]
  have literals : literal first = literal second := by
    rw [literal, literal, numeral_eq]
  intro state
  cases state with
  | operand role =>
      cases role <;>
        simp only [State.step, startOperand, startDestination, startSource, readImmediate, mark_eq,
          word_eq, number_eq, registers, literals]
  | _ =>
      simp only [State.step, readDisplacement, readImmediate, readAddress, mark_eq, word_eq,
        number_eq, mnemonic_eq, registers, literals]

theorem alike_lowered (token : Token) : Alike token token.lowered := by
  apply alike_of_readings
  · rfl
  · intro mark
    have noLetter : mark.character.isAlpha = false := by
      cases mark <;> decide
    rw [Bool.eq_iff_iff, Token.isMark_iff, Token.isMark_iff, Token.lowered, Mark.text,
      lowerText_eq_singleton_iff noLetter]
  · rw [Mnemonic.ofName?, Mnemonic.ofName?, Token.lowered, LowerCase.text_lowerText]
  · rw [Register.ofName?, Register.ofName?, Token.lowered, LowerCase.text_lowerText]
  · rw [Token.lowered, lowerText, String.toList_ofList, Numeral.natural_map_toLower]

end Parser

namespace Lexer

/-- An ASCII capital. -/
def isCapital (byte : UInt8) : Bool := 65 ≤ byte && byte ≤ 90

/-- The bytes are equal, or one letter in its two cases. -/
def SameButCase (first second : UInt8) : Prop :=
  first = second ∨ (isCapital first = true ∧ second = first + 32) ∨
    (isCapital second = true ∧ first = second + 32)

instance (first second : UInt8) : Decidable (SameButCase first second) :=
  inferInstanceAs (Decidable (_ ∨ _))

/-- The byte with an ASCII capital in lower case. -/
def lowered (byte : UInt8) : UInt8 := if isCapital byte then byte + 32 else byte

theorem lowered_of_not_isCapital {byte : UInt8} (notCapital : ¬isCapital byte = true) :
    lowered byte = byte := by
  rw [lowered, if_neg notCapital]

theorem isLetter_of_isCapital {byte : UInt8} (capital : isCapital byte = true) :
    isLetter byte = true ∧ isLetter (byte + 32) = true ∧ isCapital (byte + 32) = false := by
  simp only [isCapital, Bool.and_eq_true, decide_eq_true_eq, UInt8.le_iff_toNat_le,
    UInt8.reduceToNat] at capital
  have sum_eq : (byte + 32).toNat = byte.toNat + 32 := by
    simp only [UInt8.toNat_add, UInt8.reduceToNat]
    exact Nat.mod_eq_of_lt (by omega)
  simp only [isLetter, isCapital, Bool.or_eq_true, Bool.and_eq_true, Bool.and_eq_false_iff,
    decide_eq_true_eq, decide_eq_false_iff_not, UInt8.le_iff_toNat_le, UInt8.reduceToNat, sum_eq]
  omega

theorem lowered_eq_of_sameButCase {first second : UInt8} (same : SameButCase first second) :
    lowered first = lowered second := by
  rcases same with rfl | ⟨capital, rfl⟩ | ⟨capital, rfl⟩
  · rfl
  · rcases isLetter_of_isCapital capital with ⟨_, _, notCapital⟩
    rw [lowered, if_pos capital, lowered_of_not_isCapital (by simp [notCapital])]
  · rcases isLetter_of_isCapital capital with ⟨_, _, notCapital⟩
    rw [lowered_of_not_isCapital (by simp [notCapital]), lowered, if_pos capital]

/-- A byte in lower case is the byte itself, or both are letters. -/
theorem lowered_cases (byte : UInt8) :
    lowered byte = byte ∨ (isLetter byte = true ∧ isLetter (lowered byte) = true) := by
  by_cases capital : isCapital byte = true
  · right
    rcases isLetter_of_isCapital capital with ⟨letter, lower, _⟩
    rw [lowered, if_pos capital]
    exact ⟨letter, lower⟩
  · left
    exact lowered_of_not_isCapital capital

theorem isWordByte_lowered (byte : UInt8) : isWordByte (lowered byte) = isWordByte byte := by
  rcases lowered_cases byte with same | ⟨letter, lower⟩
  · rw [same]
  · rw [isWordByte_of_isLetter letter, isWordByte_of_isLetter lower]

theorem isDigit_lowered (byte : UInt8) : isDigit (lowered byte) = isDigit byte := by
  rcases lowered_cases byte with same | ⟨letter, lower⟩
  · rw [same]
  · rw [not_isDigit_of_isLetter letter, not_isDigit_of_isLetter lower]

/-- Only letters change, so a byte of no word stands for itself. -/
theorem lowered_of_not_isWordByte {byte : UInt8} (outside : ¬isWordByte byte = true) :
    lowered byte = byte := by
  rcases lowered_cases byte with same | ⟨letter, _⟩
  · exact same
  · exact absurd (isWordByte_of_isLetter letter) outside

theorem lowered_eq_iff {byte other : UInt8} (outside : ¬isWordByte other = true) :
    lowered byte = other ↔ byte = other := by
  constructor
  · rintro rfl
    rw [isWordByte_lowered] at outside
    exact (lowered_of_not_isWordByte outside).symm
  · rintro rfl
    exact lowered_of_not_isWordByte outside

theorem ofUInt8_lowered (byte : UInt8) :
    Char.ofUInt8 (lowered byte) = (Char.ofUInt8 byte).toLower := by
  have capital_iff : isCapital byte = true ↔ (Char.ofUInt8 byte).isUpper = true := by
    rw [isUpper_iff, toNat_ofUInt8, isCapital, Bool.and_eq_true, decide_eq_true_eq,
      decide_eq_true_eq]
    rfl
  by_cases capital : isCapital byte = true
  · have lower_eq := toNat_toLower (capital_iff.mp capital)
    have bounded := ((isUpper_iff _).mp (capital_iff.mp capital)).2
    rw [toNat_ofUInt8] at lower_eq bounded
    rw [← Char.toNat_inj, lower_eq, toNat_ofUInt8, lowered, if_pos capital]
    simp only [UInt8.toNat_add, UInt8.reduceToNat]
    exact Nat.mod_eq_of_lt (by omega)
  · rw [lowered_of_not_isCapital capital, toLower_of_not_isUpper (mt capital_iff.mpr capital)]

theorem textOf_map_lowered (bytes : List UInt8) :
    textOf (bytes.map lowered) = lowerText (textOf bytes) := by
  simp [textOf, lowerText, Function.comp_def, ofUInt8_lowered]

theorem startsComment_lowered (byte : UInt8) (rest : List UInt8) :
    startsComment (lowered byte) (rest.map lowered) = startsComment byte rest := by
  have hash_eq : (lowered byte == hash) = (byte == hash) := by
    rw [Bool.eq_iff_iff, beq_iff_eq, beq_iff_eq, lowered_eq_iff (by decide)]
  have slash_eq : ∀ other, (lowered other == slash) = (other == slash) := by
    intro other
    rw [Bool.eq_iff_iff, beq_iff_eq, beq_iff_eq, lowered_eq_iff (by decide)]
  rw [startsComment, startsComment, hash_eq, slash_eq]
  cases rest with
  | nil => rfl
  | cons next rest => simp [slash_eq]

theorem startsComment_map_lowered {byte : UInt8} (stays : lowered byte = byte)
    (rest : List UInt8) : startsComment byte (rest.map lowered) = startsComment byte rest := by
  have lowered_eq := startsComment_lowered byte rest
  rwa [stays] at lowered_eq

theorem map_lowered_cons (token : Token) (outcome : Except StrayByte (List Token)) :
    (outcome.map (token :: ·)).map (List.map Token.lowered) =
      (outcome.map (List.map Token.lowered)).map (token.lowered :: ·) := by
  cases outcome <;> rfl

/-- The lexer finds the same tokens in a text in lower case, and the same stray byte. -/
theorem tokensFrom_map_lowered (position : Position) (bytes : List UInt8) :
    tokensFrom position (bytes.map lowered) =
      (tokensFrom position bytes).map (List.map Token.lowered) := by
  -- The cases are those of the lexer. All bytes but those of words stay as they are.
  fun_induction tokensFrom position bytes with
  | case1 position =>
      rw [List.map_nil, tokensFrom]
      rfl
  | case2 position rest ih =>
      have stays : lowered newline = newline := by decide
      rw [List.map_cons, stays, tokensFrom_newline, ih]
  | case3 position byte rest notNewline blank ih =>
      have stays : lowered byte = byte := by
        apply lowered_of_not_isWordByte
        simp [isWordByte_of_isBlank blank]
      rw [List.map_cons, stays, tokensFrom_blank blank, ih]
  | case4 position byte rest notNewline notBlank comment ih =>
      have stays : lowered byte = byte := by
        apply lowered_of_not_isWordByte
        intro inside
        simp [(not_separator_of_isWordByte inside).2.2] at comment
      have inLine : (· != newline) ∘ lowered = (· != newline) := by
        funext other
        rw [Function.comp_apply, bne, bne, Bool.not_inj_iff, Bool.eq_iff_iff, beq_iff_eq,
          beq_iff_eq, lowered_eq_iff (by decide)]
      rw [← startsComment_map_lowered stays rest] at comment
      rw [List.map_cons, stays, tokensFrom, if_neg notNewline, if_neg notBlank, if_pos comment,
        List.dropWhile_map, inLine, ih]
  | case5 position byte rest notNewline notBlank noComment inside word token ih =>
      have loweredInside : isWordByte (lowered byte) = true := by
        rwa [isWordByte_lowered]
      have words : isWordByte ∘ lowered = isWordByte := by
        funext other
        exact isWordByte_lowered other
      rcases not_separator_of_isWordByte loweredInside with ⟨noLine, noBlank, noComment⟩
      have class_eq : wordClass (lowered byte) = wordClass byte := by
        rw [wordClass, isDigit_lowered, wordClass]
      rw [List.map_cons, tokensFrom, if_neg noLine, if_neg (by simp [noBlank]),
        if_neg (by simp [noComment]), if_pos loweredInside]
      dsimp only
      rw [List.takeWhile_map, List.dropWhile_map, words, ← List.map_cons, textOf_map_lowered,
        class_eq, List.length_map, ih, map_lowered_cons]
      rfl
  | case6 position byte rest notNewline notBlank noComment outside marked token ih =>
      have stays := lowered_of_not_isWordByte outside
      rw [← startsComment_map_lowered stays rest] at noComment
      rw [List.map_cons, stays, tokensFrom, if_neg notNewline, if_neg notBlank, if_neg noComment,
        if_neg outside, if_pos marked, ih, map_lowered_cons]
      have text_eq := textOf_map_lowered [byte]
      rw [List.map_cons, List.map_nil, stays] at text_eq
      rw [Token.lowered, ← text_eq]
  | case7 position byte rest notNewline notBlank noComment outside unmarked =>
      have stays := lowered_of_not_isWordByte outside
      rw [← startsComment_map_lowered stays rest] at noComment
      rw [List.map_cons, stays, tokensFrom, if_neg notNewline, if_neg notBlank, if_neg noComment,
        if_neg outside, if_neg unmarked]
      rfl

/-- Texts that differ in case only have tokens that differ in case only, or the same stray byte. -/
theorem tokens_of_sameButCase {first second : List UInt8}
    (same : List.Forall₂ SameButCase first second) :
    (tokens first).map (List.map Token.lowered) = (tokens second).map (List.map Token.lowered) := by
  have lowered_eq : first.map lowered = second.map lowered := by
    rw [← List.forall₂_eq_eq_eq, List.forall₂_map_left_iff, List.forall₂_map_right_iff]
    exact same.imp fun _ _ => lowered_eq_of_sameButCase
  rw [tokens, tokens, ← tokensFrom_map_lowered, ← tokensFrom_map_lowered, lowered_eq]

end Lexer

/-- Changing the case of letters changes neither the template nor the category of a failure. -/
theorem assembleAlike_of_sameButCase {first second : List UInt8}
    (same : List.Forall₂ Lexer.SameButCase first second) : AssembleAlike first second := by
  have tokens_eq := Lexer.tokens_of_sameButCase same
  cases read : Lexer.tokens first with
  | error stray =>
      rw [read] at tokens_eq
      have readAgain := Outcome.map_eq_error_iff.mp tokens_eq.symm
      apply assembleAlike_of_programOf
      rw [Assembly.programOf, read, Assembly.programOf, readAgain]
  | ok firstTokens =>
      rw [read] at tokens_eq
      rcases Outcome.map_eq_ok_iff.mp tokens_eq.symm with ⟨secondTokens, readAgain, lowered_eq⟩
      apply assembleAlike_of_tokens read readAgain
      have lowered_eq := lowered_eq.symm
      rw [← List.forall₂_eq_eq_eq, List.forall₂_map_left_iff, List.forall₂_map_right_iff]
        at lowered_eq
      apply lowered_eq.imp
      intro token other same state
      rw [Parser.alike_lowered token, same, ← Parser.alike_lowered other]

theorem assembleAlike_of_sameButCase_marks_and_digits :
    let first := Lexer.bytesOf "mOv eAx, $0XfF # Kk"
    let second := Lexer.bytesOf "MoV EaX, $0xFf # kK"
    List.Forall₂ Lexer.SameButCase first second ∧ AssembleAlike first second ∧
      assemble second = .ok { code := [0xB8, 0xFF, 0x00, 0x00, 0x00], slots := [1] } := by
  intro first second
  have same : List.Forall₂ Lexer.SameButCase first second := by
    decide +kernel
  refine ⟨same, assembleAlike_of_sameButCase same, ?_⟩
  decide +kernel

end Stencil
