/-!
# Numerals

Integers are written in base ten, or in another base that the first characters
announce: `0x` for sixteen, `0o` for eight, `0b` for two, and a plain leading
zero for eight as well. Letters count in either case. Underscores may separate
digits; such a mark of the base counts as a digit in this respect, so `0x_1` is
a numeral and `_1`, `1_` and `1__0` are not.

A natural number has to stay below `2 ^ 64` and a signed one within 64 bits of
two's complement. Digits are taken from left to right, and the first one that
makes the number too large or that is no digit of the base decides the error.
-/

namespace Stencil

/-- The reasons for which a text is no numeral. -/
inductive NumeralError where
  | malformed
  | tooLarge
deriving DecidableEq

namespace Numeral

/-- A numeral split into its base, whether a mark with a letter announced it, and its digits. -/
structure Parts where
  base : Nat
  marked : Bool
  digits : List Char
deriving DecidableEq

/-- The value of a digit or letter, in bases of up to thirty-six. -/
def digitValue? (character : Char) : Option Nat :=
  if '0' ≤ character ∧ character ≤ '9' then some (character.toNat - '0'.toNat)
  else if 'a' ≤ character ∧ character ≤ 'z' then some (character.toNat - 'a'.toNat + 10)
  else if 'A' ≤ character ∧ character ≤ 'Z' then some (character.toNat - 'A'.toNat + 10)
  else none

/-- The base that a letter after a leading zero announces. -/
def markedBase? (letter : Char) : Option Nat :=
  if letter = 'x' ∨ letter = 'X' then some 16
  else if letter = 'o' ∨ letter = 'O' then some 8
  else if letter = 'b' ∨ letter = 'B' then some 2
  else none

/--
Splits a numeral. A mark with a letter needs something after it; a leading zero
without one announces base eight and is itself a digit.
-/
def parts (characters : List Char) : Parts :=
  match characters with
  | '0' :: letter :: first :: rest =>
    match markedBase? letter with
    | some base => { base, marked := true, digits := first :: rest }
    | none => { base := 8, marked := false, digits := characters }
  | '0' :: _ => { base := 8, marked := false, digits := characters }
  | _ => { base := 10, marked := false, digits := characters }

/-- The first number that is too large. -/
def limit : Nat := Nat.pow 2 64

/-- Takes digits from left to right, skipping underscores. -/
def accumulate (base : Nat) (value : Nat) : List Char → Except NumeralError Nat
  | [] => .ok value
  | character :: rest =>
    if character = '_' then accumulate base value rest
    else
      match digitValue? character with
      | none => .error .malformed
      | some digit =>
        if digit < base then
          if value * base + digit < limit then accumulate base (value * base + digit) rest
          else .error .tooLarge
        else .error .malformed

/--
Every underscore stands between two digits, and there is at least one digit.
`afterDigit` says whether a digit, or a mark, stands before the characters.
-/
def separated (afterDigit : Bool) : List Char → Bool
  | [] => afterDigit
  | character :: rest =>
    if character = '_' then afterDigit && separated false rest else separated true rest

/-- The natural number that a numeral without a sign denotes. -/
def natural (characters : List Char) : Except NumeralError Nat :=
  let parts := parts characters
  match accumulate parts.base 0 parts.digits with
  | .error error => .error error
  | .ok value => if separated parts.marked parts.digits then .ok value else .error .malformed

/-- The integer that a numeral with or without a sign denotes. -/
def integer (characters : List Char) : Except NumeralError Int :=
  match characters with
  | '-' :: digits =>
    match natural digits with
    | .error error => .error error
    | .ok value => if value ≤ Nat.pow 2 63 then .ok (-(value : Int)) else .error .tooLarge
  | '+' :: digits => positive digits
  | _ => positive characters
where
  /-- A natural number that is also a signed one. -/
  positive (digits : List Char) : Except NumeralError Int :=
    match natural digits with
    | .error error => .error error
    | .ok value => if value < Nat.pow 2 63 then .ok (value : Int) else .error .tooLarge

end Numeral

end Stencil
