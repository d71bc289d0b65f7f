/-!
# Decimal numbers

A decimal number is written with a point or an exponent. It stands for the nearest
number with 53 significant binary digits, a half going to the even one; numbers that
are too large for an exponent of 1024 overflow.
-/

namespace Stencil

/-- A decimal number: a sign and a whole number times a power of ten. -/
structure Decimal where
  negative : Bool
  digits : Nat
  exponent : Int
deriving DecidableEq

namespace Decimal

/-- A quotient rounded to a whole number, a half to the even one. -/
def roundedQuotient (numerator denominator : Nat) : Nat :=
  let quotient := numerator / denominator
  let twice := 2 * (numerator % denominator)
  if twice < denominator then quotient
  else if denominator < twice then quotient + 1
  else quotient + quotient % 2

/-- The number of binary digits that a number keeps. -/
def precision : Nat := 53

/-- The integer part of a quotient after rounding it to the digits that are kept. -/
def integerPart (numerator denominator : Nat) : Nat :=
  if 2 * numerator < denominator then 0
  else
    let length := if numerator < denominator then 0 else (numerator / denominator).log2 + 1
    if length ≤ precision then
      let scale := Nat.pow 2 (precision - length)
      roundedQuotient (numerator * scale) denominator / scale
    else
      let scale := Nat.pow 2 (length - precision)
      roundedQuotient numerator (denominator * scale) * scale

/-- The decimal order beyond which a number overflows, or vanishes on the other side. -/
def orderLimit : Int := 400

/-- Numbers that round to this one or a larger one overflow. -/
def overflow : Nat := Nat.pow 2 1024

/-- The size of a decimal number: its integer part, unless the number overflows. -/
def magnitude? (decimal : Decimal) : Option Nat :=
  let order := (Nat.toDigits 10 decimal.digits).length + decimal.exponent
  if decimal.digits = 0 ∨ order < -orderLimit then some 0
  else if orderLimit < order then none
  else
    let part :=
      if decimal.exponent < 0 then integerPart decimal.digits (Nat.pow 10 (-decimal.exponent).toNat)
      else integerPart (decimal.digits * Nat.pow 10 decimal.exponent.toNat) 1
    if part < overflow then some part else none

/--
The 64-bit integer that a decimal number is cut to. A number above the range is
refused; one below it becomes the least integer.
-/
def integer? (decimal : Decimal) : Option Int :=
  match decimal.magnitude? with
  | none => none
  | some magnitude =>
    if decimal.negative then some (-(min magnitude (Nat.pow 2 63) : Nat))
    else if magnitude ≤ Nat.pow 2 63 then some magnitude
    else none

/-! ### Reading -/

/-- The value of a run of decimal digits. -/
def digitsValue (digits : List Char) : Nat :=
  digits.foldl (fun value digit => 10 * value + (digit.toNat - '0'.toNat)) 0

/-- A sign in front of a number, and what follows it. -/
def splitSign : List Char → Bool × List Char
  | '-' :: rest => (true, rest)
  | '+' :: rest => (false, rest)
  | rest => (false, rest)

/-- The exponent at the end of a number; nothing at all is the exponent zero. -/
def exponent? : List Char → Option Int
  | [] => some 0
  | letter :: rest =>
    let (negative, digits) := splitSign rest
    if (letter = 'e' ∨ letter = 'E') ∧ digits ≠ [] ∧ digits.all Char.isDigit then
      some (if negative then -(digitsValue digits : Int) else digitsValue digits)
    else none

/-- Reads a decimal number: digits, a point with digits after it, an exponent. -/
def ofText? (characters : List Char) : Option Decimal :=
  let (negative, unsigned) := splitSign characters
  let whole := unsigned.takeWhile Char.isDigit
  let rest := unsigned.dropWhile Char.isDigit
  let (fraction, tail) :=
    match rest with
    | '.' :: after => (after.takeWhile Char.isDigit, after.dropWhile Char.isDigit)
    | _ => ([], rest)
  if whole = [] ∧ fraction = [] then none
  else
    (exponent? tail).map fun exponent =>
      { negative, digits := digitsValue (whole ++ fraction)
        exponent := exponent - fraction.length }

end Decimal

end Stencil
