import Stencil.Decimal
import Stencil.Numeral

/-!
# Numbers in YAML

A text stands for an integer if it is a numeral once its underscores are removed. Of
a decimal number with a point or an exponent the integer part is taken.
-/

namespace Stencil.Yaml

namespace Number

/-- The digits of a base, with a sign, as a 64-bit integer. -/
def signedDigits? (base : Nat) (characters : List Char) : Option Int :=
  let (negative, digits) := Decimal.splitSign characters
  match digits, Numeral.accumulate base 0 digits with
  | _ :: _, .ok value =>
    if negative then if value ≤ Nat.pow 2 63 then some (-(value : Int)) else none
    else if value < Nat.pow 2 63 then some value
    else none
  | _, _ => none

/-- Reads digits in base two or eight after a mark of the base, with the sign behind the mark. -/
def marked? : List Char → Option Int
  | '0' :: 'b' :: digits => signedDigits? 2 digits
  | '0' :: 'o' :: digits => signedDigits? 8 digits
  | _ => none

/-- Every underscore stands between two digits; `afterDigit` tells what stands in front. -/
def areSeparators (afterDigit : Bool) : List Char → Bool
  | [] => true
  | character :: rest =>
    (character ≠ '_' || (afterDigit && (rest.head?.map Char.isDigit).getD false)) &&
      areSeparators character.isDigit rest

/-- A text without its underscores. -/
def withoutUnderscores (characters : List Char) : List Char := characters.filter (· ≠ '_')

end Number

/-- What a plain text stands for. -/
inductive Meaning where
  | null
  | boolean
  /-- A signed 64-bit integer. -/
  | integer (value : Int)
  /-- An integer above the signed 64-bit ones. -/
  | largeInteger
  /-- A number with a fraction, cut to an integer if that is possible. -/
  | real (value : Option Int)
  | text
deriving DecidableEq

namespace Meaning

/-- The texts that stand for something by themselves. -/
def words : List (String × Meaning) :=
  ["", "~", "null", "Null", "NULL"].map (·, null) ++
    ["true", "True", "TRUE", "false", "False", "FALSE"].map (·, boolean) ++
    [".nan", ".NaN", ".NAN"].map (·, real none) ++
    [".inf", ".Inf", ".INF", "+.inf", "+.Inf", "+.INF"].map (·, real none) ++
    ["-.inf", "-.Inf", "-.INF"].map (·, real (some (-Int.pow 2 63)))

/-- What a decimal number stands for; one that overflows is only a text. -/
def ofDecimal (decimal : Decimal) : Meaning :=
  if decimal.magnitude?.isSome then real decimal.integer? else text

/-- What a text stands for that starts with a sign or a digit. -/
def ofDigits (characters : List Char) : Meaning :=
  let plain := Number.withoutUnderscores characters
  match Numeral.integer plain, Numeral.natural plain with
  | .ok value, _ => integer value
  | .error _, .ok _ => largeInteger
  | .error _, .error _ =>
    match (Decimal.ofText? plain).map ofDecimal, Number.marked? plain with
    | some (real value), _ => real value
    | _, some value => integer value
    | _, none => text

/-- What a text stands for that starts with a point. -/
def ofFraction (characters : List Char) : Meaning :=
  if Number.areSeparators false characters then
    ((Decimal.ofText? (Number.withoutUnderscores characters)).map ofDecimal).getD text
  else text

/-- What a plain text stands for. -/
def ofText (plain : String) : Meaning :=
  match words.lookup plain, plain.toList with
  | some meaning, _ => meaning
  | none, [] => text
  | none, first :: rest =>
    if first = '.' then ofFraction (first :: rest)
    else if first.isDigit || first = '+' || first = '-' then ofDigits (first :: rest)
    else text

end Meaning

end Stencil.Yaml
