import Mathlib.Algebra.Group.Nat.Defs
import Stencil.Numeral
import Stencil.Proofs.Outcome

/-!
# What numerals denote

This file says which texts are numerals and what number each one denotes, without
reading it from left to right with an accumulator: a run of digits is a digit, or a
run of digits followed by a digit, with at most one underscore in front of it. The
main result, `Numeral.natural_eq_ok_iff`, says that reading a text succeeds exactly
on the numerals that denote a 64-bit number, and gives this number.
-/

namespace Stencil.Numeral

/-- A run of digits of a base, with single underscores between digits, and its value. -/
inductive Digits (base : Nat) : List Char → Nat → Prop where
  | single {character : Char} {digit : Nat} (isDigit : digitValue? character = some digit)
      (small : digit < base) : Digits base [character] digit
  | append {digits : List Char} {value : Nat} {character : Char} {digit : Nat}
      (before : Digits base digits value) (isDigit : digitValue? character = some digit)
      (small : digit < base) : Digits base (digits ++ [character]) (value * base + digit)
  | separate {digits : List Char} {value : Nat} {character : Char} {digit : Nat}
      (before : Digits base digits value) (isDigit : digitValue? character = some digit)
      (small : digit < base) : Digits base (digits ++ ['_', character]) (value * base + digit)

/--
The number that a text denotes: decimal digits that do not start with a zero, octal
digits that do, or a mark of the base followed by digits and perhaps an underscore
between the two.
-/
inductive Denotes : List Char → Nat → Prop where
  | decimal {digits : List Char} {value : Nat} (run : Digits 10 digits value)
      (noZero : digits.head? ≠ some '0') : Denotes digits value
  | octal {digits : List Char} {value : Nat} (run : Digits 8 ('0' :: digits) value) :
      Denotes ('0' :: digits) value
  | marked {letter : Char} {base : Nat} {digits : List Char} {value : Nat}
      (mark : markedBase? letter = some base) (run : Digits base digits value) :
      Denotes ('0' :: letter :: digits) value
  | markedSeparate {letter : Char} {base : Nat} {digits : List Char} {value : Nat}
      (mark : markedBase? letter = some base) (run : Digits base digits value) :
      Denotes ('0' :: letter :: '_' :: digits) value

/-! ### Reading runs of digits -/

theorem ne_underscore_of_digit {character : Char} {digit : Nat}
    (isDigit : digitValue? character = some digit) : character ≠ '_' := by
  rintro rfl
  simp [digitValue?] at isDigit

theorem accumulate_append (base value : Nat) (first second : List Char) :
    accumulate base value (first ++ second) =
      accumulate base value first >>= fun value => accumulate base value second := by
  induction first generalizing value with
  | nil => rfl
  | cons character rest ih =>
      simp only [List.cons_append, accumulate]
      split
      · exact ih value
      · cases digitValue? character with
        | none => rfl
        | some digit =>
            dsimp only
            split
            · split
              · exact ih _
              · rfl
            · rfl

theorem accumulate_digit {base digit : Nat} (value : Nat) {character : Char}
    (isDigit : digitValue? character = some digit) (small : digit < base)
    (bounded : value * base + digit < limit) :
    accumulate base value [character] = .ok (value * base + digit) := by
  simp [accumulate, ne_underscore_of_digit isDigit, isDigit, small, bounded]

theorem accumulate_underscore (base value : Nat) (rest : List Char) :
    accumulate base value ('_' :: rest) = accumulate base value rest := by
  simp [accumulate]

theorem lt_limit_of_append {base digit value : Nat} (small : digit < base)
    (bounded : value * base + digit < limit) : value < limit := by
  have factor : value * 1 ≤ value * base := Nat.mul_le_mul_left value (by omega)
  omega

theorem accumulate_of_digits {base : Nat} {digits : List Char} {value : Nat}
    (run : Digits base digits value) (bounded : value < limit) :
    accumulate base 0 digits = .ok value := by
  induction run with
  | single isDigit small =>
      simpa using accumulate_digit 0 isDigit small (by simpa using bounded)
  | @append digits value character digit before isDigit small ih =>
      rw [accumulate_append, ih (lt_limit_of_append small bounded)]
      exact accumulate_digit value isDigit small bounded
  | @separate digits value character digit before isDigit small ih =>
      rw [accumulate_append, ih (lt_limit_of_append small bounded)]
      change accumulate base value ['_', character] = _
      rw [accumulate_underscore]
      exact accumulate_digit value isDigit small bounded

theorem ne_nil_of_digits {base : Nat} {digits : List Char} {value : Nat}
    (run : Digits base digits value) : digits ≠ [] := by
  cases run <;> simp

theorem separated_append_of_digits {base : Nat} {digits : List Char} {value : Nat}
    (run : Digits base digits value) (afterDigit : Bool) (rest : List Char) :
    separated afterDigit (digits ++ rest) = separated true rest := by
  induction run generalizing afterDigit rest with
  | single isDigit small => simp [separated, ne_underscore_of_digit isDigit]
  | append before isDigit small ih =>
      rw [List.append_assoc, ih]
      simp [separated, ne_underscore_of_digit isDigit]
  | separate before isDigit small ih =>
      rw [List.append_assoc, ih]
      simp [separated, ne_underscore_of_digit isDigit]

theorem separated_of_digits {base : Nat} {digits : List Char} {value : Nat}
    (run : Digits base digits value) (afterDigit : Bool) : separated afterDigit digits = true := by
  have separate := separated_append_of_digits run afterDigit []
  rw [List.append_nil] at separate
  exact separate

/-! ### Runs of digits that are read -/

theorem accumulate_cons_eq_ok_iff (base value : Nat) (character : Char) (rest : List Char)
    (result : Nat) :
    accumulate base value (character :: rest) = .ok result ↔
      (character = '_' ∧ accumulate base value rest = .ok result) ∨
      ∃ digit, digitValue? character = some digit ∧ digit < base ∧
        value * base + digit < limit ∧
        accumulate base (value * base + digit) rest = .ok result := by
  by_cases underscore : character = '_'
  · subst underscore
    have noDigit : digitValue? '_' = none := by decide
    simp [accumulate_underscore, noDigit]
  · cases isDigit : digitValue? character with
    | none => simp [accumulate, underscore, isDigit]
    | some digit =>
        by_cases small : digit < base
        · by_cases bounded : value * base + digit < limit
          · simp [accumulate, underscore, isDigit, small, bounded]
          · simp [accumulate, underscore, isDigit, small, bounded]
        · simp [accumulate, underscore, isDigit, small]

theorem lt_limit_of_accumulate {base value result : Nat} {characters : List Char}
    (start : value < limit) (read : accumulate base value characters = .ok result) :
    result < limit := by
  induction characters generalizing value with
  | nil =>
      simp only [accumulate, Except.ok.injEq] at read
      omega
  | cons character rest ih =>
      rw [accumulate_cons_eq_ok_iff] at read
      rcases read with ⟨_, read⟩ | ⟨digit, _, _, bounded, read⟩
      · exact ih start read
      · exact ih bounded read

/--
Reading on behind a run of digits gives a longer run, whether the next character has
to be a digit because an underscore stands in front of it or not.
-/
theorem digits_append_of_accumulate {base value result : Nat} {before characters : List Char}
    (run : Digits base before value) (read : accumulate base value characters = .ok result) :
    (separated true characters = true → Digits base (before ++ characters) result) ∧
      (separated false characters = true → Digits base (before ++ '_' :: characters) result) := by
  induction characters generalizing before value with
  | nil =>
      simp only [accumulate, Except.ok.injEq] at read
      subst result
      simpa [separated] using run
  | cons character rest ih =>
      rw [accumulate_cons_eq_ok_iff] at read
      rcases read with ⟨rfl, read⟩ | ⟨digit, isDigit, small, bounded, read⟩
      · have later := (ih run read).2
        simpa [separated] using later
      · have plain := (ih (run.append isDigit small) read).1
        have underscored := (ih (run.separate isDigit small) read).1
        have notUnderscore := ne_underscore_of_digit isDigit
        constructor
        · intro separate
          simpa using plain (by simpa [separated, notUnderscore] using separate)
        · intro separate
          simpa using underscored (by simpa [separated, notUnderscore] using separate)

theorem digits_of_accumulate {base result : Nat} {characters : List Char}
    (read : accumulate base 0 characters = .ok result)
    (separate : separated false characters = true) : Digits base characters result := by
  cases characters with
  | nil => simp [separated] at separate
  | cons character rest =>
      rw [accumulate_cons_eq_ok_iff] at read
      rcases read with ⟨rfl, read⟩ | ⟨digit, isDigit, small, bounded, read⟩
      · simp [separated] at separate
      · simp only [Nat.zero_mul, Nat.zero_add] at read
        apply (digits_append_of_accumulate (.single isDigit small) read).1
        simpa [separated, ne_underscore_of_digit isDigit] using separate

/-! ### Numerals -/

/-- A numeral has a mark of its base, or starts with a plain zero, or does neither. -/
theorem parts_cases (characters : List Char) :
    (∃ letter first rest base, characters = '0' :: letter :: first :: rest ∧
      markedBase? letter = some base ∧
      parts characters = { base, marked := true, digits := first :: rest }) ∨
    (∃ rest, characters = '0' :: rest ∧
      parts characters = { base := 8, marked := false, digits := characters }) ∨
    (characters.head? ≠ some '0' ∧
      parts characters = { base := 10, marked := false, digits := characters }) := by
  rcases characters with _ | ⟨zero, rest⟩
  · exact .inr (.inr ⟨by simp, rfl⟩)
  · by_cases isZero : zero = '0'
    · subst isZero
      rcases rest with _ | ⟨letter, _ | ⟨first, rest⟩⟩
      · exact .inr (.inl ⟨_, rfl, rfl⟩)
      · exact .inr (.inl ⟨_, rfl, rfl⟩)
      · cases mark : markedBase? letter with
        | none => exact .inr (.inl ⟨_, rfl, by simp [parts, mark]⟩)
        | some base => exact .inl ⟨letter, first, rest, base, rfl, mark, by simp [parts, mark]⟩
    · refine .inr (.inr ⟨by simpa using isZero, ?_⟩)
      unfold parts
      split <;> simp_all

theorem natural_eq_ok_iff_parts (characters : List Char) (value : Nat) :
    natural characters = .ok value ↔
      accumulate (parts characters).base 0 (parts characters).digits = .ok value ∧
      separated (parts characters).marked (parts characters).digits = true := by
  cases read : accumulate (parts characters).base 0 (parts characters).digits with
  | error error => simp [natural, read]
  | ok result =>
      by_cases separate : separated (parts characters).marked (parts characters).digits
      · simp [natural, read, separate]
      · simp [natural, read, separate]

theorem denotes_of_natural {characters : List Char} {value : Nat}
    (read : natural characters = .ok value) : Denotes characters value ∧ value < 2 ^ 64 := by
  rw [natural_eq_ok_iff_parts] at read
  rcases read with ⟨read, separate⟩
  have bounded : value < limit := lt_limit_of_accumulate (by decide) read
  refine ⟨?_, bounded⟩
  rcases parts_cases characters with ⟨letter, first, rest, base, rfl, mark, parts_eq⟩ |
    ⟨rest, rfl, parts_eq⟩ | ⟨noZero, parts_eq⟩
  · simp only [parts_eq] at read separate
    by_cases underscore : first = '_'
    · subst underscore
      rw [accumulate_underscore] at read
      exact .markedSeparate mark (digits_of_accumulate read (by simpa [separated] using separate))
    · refine .marked mark (digits_of_accumulate read ?_)
      simpa [separated, underscore] using separate
  · simp only [parts_eq] at read separate
    exact .octal (digits_of_accumulate read separate)
  · simp only [parts_eq] at read separate
    exact .decimal (digits_of_accumulate read separate) noZero

theorem not_octal_of_markedBase? {letter : Char} {base : Nat}
    (mark : markedBase? letter = some base) :
    letter ≠ '_' ∧ ∀ digit, digitValue? letter = some digit → 8 ≤ digit := by
  unfold markedBase? at mark
  split at mark
  · rename_i isHexadecimal
    rcases isHexadecimal with rfl | rfl <;> simp [digitValue?]
  · split at mark
    · rename_i isOctal
      rcases isOctal with rfl | rfl <;> simp [digitValue?]
    · split at mark
      · rename_i isBinary
        rcases isBinary with rfl | rfl <;> simp [digitValue?]
      · simp at mark

theorem parts_of_octal {digits : List Char} {value : Nat}
    (read : accumulate 8 0 ('0' :: digits) = .ok value) :
    parts ('0' :: digits) = { base := 8, marked := false, digits := '0' :: digits } := by
  rcases parts_cases ('0' :: digits) with ⟨letter, first, rest, base, shape, mark, _⟩ |
    ⟨_, _, parts_eq⟩ | ⟨noZero, _⟩
  · -- The letter of a mark is no octal digit, so these digits cannot be read.
    simp only [List.cons.injEq, true_and] at shape
    subst digits
    rcases not_octal_of_markedBase? mark with ⟨notUnderscore, large⟩
    have zero_eq : digitValue? '0' = some 0 := by decide
    simp only [accumulate_cons_eq_ok_iff _ _ '0', zero_eq, accumulate_cons_eq_ok_iff _ _ letter,
      notUnderscore] at read
    rcases read with ⟨impossible, _⟩ | ⟨_, _, _, _, ⟨impossible, _⟩ | ⟨digit, isDigit, small, _⟩⟩
    · simp at impossible
    · exact impossible.elim
    · exact absurd small (Nat.not_lt.mpr (large digit isDigit))
  · exact parts_eq
  · simp at noZero

theorem natural_of_denotes {characters : List Char} {value : Nat}
    (denotes : Denotes characters value) (bounded : value < 2 ^ 64) :
    natural characters = .ok value := by
  rw [natural_eq_ok_iff_parts]
  cases denotes with
  | decimal run noZero =>
      rcases parts_cases characters with ⟨letter, first, rest, base, rfl, _⟩ | ⟨rest, rfl, _⟩ |
        ⟨_, parts_eq⟩
      · simp at noZero
      · simp at noZero
      · rw [parts_eq]
        exact ⟨accumulate_of_digits run bounded, separated_of_digits run false⟩
  | octal run =>
      have read := accumulate_of_digits run bounded
      rw [parts_of_octal read]
      exact ⟨read, separated_of_digits run false⟩
  | @marked letter base digits _ mark run =>
      have read := accumulate_of_digits run bounded
      cases digits with
      | nil => exact absurd rfl (ne_nil_of_digits run)
      | cons first rest =>
          simp only [parts, mark]
          exact ⟨read, separated_of_digits run true⟩
  | @markedSeparate letter base digits _ mark run =>
      have read := accumulate_of_digits run bounded
      simp only [parts, mark, accumulate_underscore]
      exact ⟨read, by simpa [separated] using separated_of_digits run false⟩

/-- Reading a numeral succeeds exactly if it denotes a 64-bit number, and gives the number. -/
theorem natural_eq_ok_iff (characters : List Char) (value : Nat) :
    natural characters = .ok value ↔ Denotes characters value ∧ value < 2 ^ 64 := by
  constructor
  · exact denotes_of_natural
  · rintro ⟨denotes, bounded⟩
    exact natural_of_denotes denotes bounded

end Stencil.Numeral
