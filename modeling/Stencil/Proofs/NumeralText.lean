import Mathlib.Tactic.SplitIfs
import Stencil.Bytes.Hexadecimal
import Stencil.Proofs.Lexing
import Stencil.Proofs.Numeral

/-!
# Numerals in a text

A numeral consists of letters, digits and underscores and starts with a digit, so
the lexer takes it for one number. The digits that are printed for a number, in base
ten or with the mark of base sixteen, are a numeral that denotes it; in base ten this
needs that no leading zero is printed, which would change the base.
-/

namespace Stencil.Numeral

open Lexer

/-! ### Numerals as words -/

theorem word_of_digit {character : Char} {digit : Nat}
    (isDigit : digitValue? character = some digit) :
    IsWordCharacter character ∧ (digit < 10 → Lexer.isDigit (byteOf character) = true) := by
  have ordered : ∀ lower upper : Char, lower ≤ character ∧ character ≤ upper ↔
      lower.toNat ≤ character.toNat ∧ character.toNat ≤ upper.toNat := by
    intro lower upper
    rfl
  simp only [digitValue?, ordered, Char.reduceToNat] at isDigit
  simp only [IsWordCharacter, isWordByte, isLetter, Lexer.isDigit, Bool.or_eq_true,
    Bool.and_eq_true, decide_eq_true_eq, UInt8.le_iff_toNat_le, UInt8.reduceToNat]
  split_ifs at isDigit with decimal small capital
  all_goals
    simp only [Option.some.injEq] at isDigit
    rw [toNat_byteOf (by omega)]
    omega

theorem words_of_digits {base : Nat} {digits : List Char} {value : Nat}
    (run : Digits base digits value) : ∀ character ∈ digits, IsWordCharacter character := by
  have underscore : IsWordCharacter '_' := by decide
  induction run with
  | single isDigit small => simpa using (word_of_digit isDigit).1
  | append before isDigit small ih =>
      simpa [or_imp, forall_and] using ⟨ih, (word_of_digit isDigit).1⟩
  | separate before isDigit small ih =>
      simpa [or_imp, forall_and] using ⟨ih, underscore, (word_of_digit isDigit).1⟩

theorem head_of_digits {base : Nat} {digits : List Char} {value : Nat}
    (run : Digits base digits value) :
    ∃ first rest digit, digits = first :: rest ∧ digitValue? first = some digit ∧ digit < base := by
  induction run with
  | @single character digit isDigit small => exact ⟨character, [], digit, rfl, isDigit, small⟩
  | append before isDigit small ih =>
      rcases ih with ⟨first, rest, digit, rfl, firstDigit, firstSmall⟩
      exact ⟨first, _, digit, rfl, firstDigit, firstSmall⟩
  | separate before isDigit small ih =>
      rcases ih with ⟨first, rest, digit, rfl, firstDigit, firstSmall⟩
      exact ⟨first, _, digit, rfl, firstDigit, firstSmall⟩

theorem word_of_markedBase? {letter : Char} {base : Nat} (mark : markedBase? letter = some base) :
    IsWordCharacter letter := by
  simp only [markedBase?] at mark
  split_ifs at mark with hexadecimal octal binary
  · rcases hexadecimal with rfl | rfl <;> decide
  · rcases octal with rfl | rfl <;> decide
  · rcases binary with rfl | rfl <;> decide

theorem word_of_denotes {characters : List Char} {value : Nat}
    (denotes : Denotes characters value) :
    ∃ first rest, characters = first :: rest ∧ wordClass (byteOf first) = .number ∧
      ∀ character ∈ first :: rest, IsWordCharacter character := by
  have zero : IsWordCharacter '0' := by decide
  have underscore : IsWordCharacter '_' := by decide
  cases denotes with
  | decimal run noZero =>
      have inside := words_of_digits run
      rcases head_of_digits run with ⟨first, rest, digit, rfl, isDigit, small⟩
      have starts := (word_of_digit isDigit).2 small
      exact ⟨first, rest, rfl, by rw [wordClass, if_pos starts], inside⟩
  | octal run => exact ⟨'0', _, rfl, rfl, words_of_digits run⟩
  | marked mark run =>
      refine ⟨'0', _, rfl, rfl, ?_⟩
      simpa [or_imp, forall_and] using ⟨zero, word_of_markedBase? mark, words_of_digits run⟩
  | markedSeparate mark run =>
      refine ⟨'0', _, rfl, rfl, ?_⟩
      simpa [or_imp, forall_and] using
        ⟨zero, word_of_markedBase? mark, underscore, words_of_digits run⟩

/-! ### The digits that are printed -/

theorem digitValue?_hexadecimal {value : Nat} (small : value < 16) :
    digitValue? (Hexadecimal.digit value) = some value := by
  have table : ∀ digit : Fin 16, digitValue? (Hexadecimal.digit digit) = some digit.val := by
    decide
  exact table ⟨value, small⟩

theorem digitValue?_decimal {value : Nat} (small : value < 10) :
    digitValue? (Nat.digitChar value) = some value := by
  have table : ∀ digit : Fin 10, digitValue? (Nat.digitChar digit) = some digit.val := by
    decide
  exact table ⟨value, small⟩

theorem digits_decimal (value : Nat) : Digits 10 (Nat.toDigits 10 value) value := by
  induction value using Nat.strongRecOn with
  | ind value ih =>
      rw [Nat.toDigits_eq_if (by decide)]
      split_ifs with small
      · exact .single (digitValue?_decimal small) small
      · have last : value % 10 < 10 := Nat.mod_lt value (by decide)
        have run := (ih (value / 10) (by omega)).append (digitValue?_decimal last) last
        rwa [Nat.div_add_mod'] at run

theorem head?_toDigits_ne_zero {value : Nat} (positive : 0 < value) :
    (Nat.toDigits 10 value).head? ≠ some '0' := by
  induction value using Nat.strongRecOn with
  | ind value ih =>
      rw [Nat.toDigits_eq_if (by decide)]
      split_ifs with small
      · have table : ∀ digit : Fin 10, 0 < digit.val → Nat.digitChar digit ≠ '0' := by decide
        simpa using table ⟨value, small⟩ positive
      · have before := ih (value / 10) (by omega) (by omega)
        rcases head_of_digits (digits_decimal (value / 10)) with ⟨first, rest, _, digits_eq, _⟩
        rw [digits_eq] at before ⊢
        simpa using before

theorem denotes_decimal (value : Nat) : Denotes (Nat.toDigits 10 value) value := by
  rcases Nat.eq_zero_or_pos value with rfl | positive
  · exact .octal (.single (by decide : digitValue? '0' = some 0) (by decide))
  · exact .decimal (digits_decimal value) (head?_toDigits_ne_zero positive)

theorem halves_lt (byte : UInt8) : byte.toNat / 16 < 16 ∧ byte.toNat % 16 < 16 := by
  have bounded := byte.toNat_lt
  omega

theorem digits_byte (byte : UInt8) : Digits 16 (Hexadecimal.byteDigits byte) byte.toNat := by
  rcases halves_lt byte with ⟨high, low⟩
  have run := Digits.append (.single (digitValue?_hexadecimal high) high)
    (digitValue?_hexadecimal low) low
  rwa [Nat.div_add_mod'] at run

theorem digits_append_byte {digits : List Char} {value : Nat} (run : Digits 16 digits value)
    (byte : UInt8) :
    Digits 16 (digits ++ Hexadecimal.byteDigits byte) (value * 256 + byte.toNat) := by
  rcases halves_lt byte with ⟨high, low⟩
  have longer := (run.append (digitValue?_hexadecimal high) high).append
    (digitValue?_hexadecimal low) low
  have value_eq : (value * 16 + byte.toNat / 16) * 16 + byte.toNat % 16 =
      value * 256 + byte.toNat := by
    omega
  rw [value_eq, List.append_assoc] at longer
  exact longer

theorem digits_word (value : UInt32) :
    Digits 16 ((LittleEndian.bytes value).reverse.flatMap Hexadecimal.byteDigits)
      value.toNat := by
  have run := digits_append_byte (digits_append_byte (digits_append_byte
    (digits_byte (value >>> 24).toUInt8) (value >>> 16).toUInt8) (value >>> 8).toUInt8)
    value.toUInt8
  have value_eq : (((value >>> 24).toUInt8.toNat * 256 + (value >>> 16).toUInt8.toNat) * 256 +
      (value >>> 8).toUInt8.toNat) * 256 + value.toUInt8.toNat = value.toNat := by
    have bounded := value.toNat_lt
    simp only [UInt32.toNat_toUInt8, UInt32.toNat_shiftRight, UInt32.reduceToNat, Nat.reduceMod,
      Nat.shiftRight_eq_div_pow, Nat.reducePow]
    omega
  rw [value_eq] at run
  simpa [LittleEndian.bytes] using run

theorem denotes_hexadecimal {digits : List Char} {value : Nat} (run : Digits 16 digits value) :
    Denotes ('0' :: 'x' :: digits) value :=
  .marked rfl run

end Stencil.Numeral
