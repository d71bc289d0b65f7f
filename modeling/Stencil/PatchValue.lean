import Stencil.Category
import Stencil.Numeral
import Stencil.Text.Blank
import Stencil.Text.Quoted

/-!
# Patch values

A value for a slot is an integer that fits in 32 bits, signed or unsigned; a
value above the signed range stands for the one with the same bits. Values given
as texts are numerals, with blanks allowed around them.
-/

namespace Stencil

/-- The reasons for which a list of texts gives no values. -/
inductive ValueError where
  | malformed (text : String)
  /-- The numeral does not fit in 64 bits. -/
  | beyondNumerals (text : String)
  /-- The value does not fit in 32 bits. -/
  | range (text : String)
deriving DecidableEq

namespace ValueError

/-- The words for a text that could not be read as a numeral. -/
def invalid (text reason : String) : String :=
  "invalid value " ++ Quoted.text text ++ ": strconv.ParseInt: parsing " ++
    Quoted.text (Blank.trim text) ++ ": " ++ reason

/-- The message for a bad value. -/
def message : ValueError → String
  | malformed text => invalid text "invalid syntax"
  | beyondNumerals text => invalid text "value out of range"
  | range text => text ++ ": " ++ Category.valueRange.text

end ValueError

namespace PatchValue

/-- The 32-bit value of an integer, if it fits. -/
def ofInt? (value : Int) : Option Int32 :=
  if -Int.pow 2 31 ≤ value ∧ value < Int.pow 2 32 then some (Int32.ofInt value) else none

/-- The value of a text. -/
def ofText (text : String) : Except ValueError Int32 :=
  match Numeral.integer (Blank.trimmed text.toList) with
  | .error .malformed => .error (.malformed text)
  | .error .tooLarge => .error (.beyondNumerals text)
  | .ok value =>
    match ofInt? value with
    | some value => .ok value
    | none => .error (.range text)

/-- The values of a list of texts; the first bad one decides the error. -/
def ofTexts (texts : List String) : Except ValueError (List Int32) :=
  texts.mapM ofText

end PatchValue

end Stencil
