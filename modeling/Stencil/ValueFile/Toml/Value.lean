import Stencil.Decimal
import Stencil.Numeral
import Stencil.ValueFile.Toml.Text

/-!
# Values of TOML

Only integers and collections keep their contents, since nothing else can be part of
a list of integers; numbers with a fraction, dates and words are read to check their
form.
-/

namespace Stencil.Toml

/-- A value of a document. -/
inductive Value where
  | integer (value : Int)
  | array (items : List Value)
  | table (entries : List (String × Value))
  /-- Tables that share a name, in the order in which they were started. -/
  | tables (elements : List (List (String × Value)))
  | other

/-- The entries of a table. -/
abbrev Entries := List (String × Value)

namespace Value

/-- The value is an array that was written with brackets. -/
def isArray : Value → Bool
  | array _ => true
  | _ => false

end Value

/-! ### Numbers -/

/-- Digits with single underscores between them; at least one digit. -/
def areDigits (isDigit : Char → Bool) (text : List Char) : Bool :=
  Numeral.separated false text && text.all fun character => character = '_' || isDigit character

/-- The digits of a decimal number, without zeros in front of others. -/
def isWhole (text : List Char) : Bool :=
  areDigits Char.isDigit text && (text.head? ≠ some '0' || text.length = 1)

/-- A text without its sign. -/
def unsigned : List Char → List Char
  | '-' :: rest => rest
  | '+' :: rest => rest
  | text => text

/-- A text is an integer. -/
def isInteger (text : List Char) : Bool :=
  match text with
  | '0' :: 'x' :: digits => areDigits (fun digit => (Hexadecimal.value? digit).isSome) digits
  | '0' :: 'o' :: digits => areDigits (fun digit => '0' ≤ digit && digit ≤ '7') digits
  | '0' :: 'b' :: digits => areDigits (fun digit => digit = '0' || digit = '1') digits
  | _ => isWhole (unsigned text)

/-- A text is the exponent of a number. -/
def isExponent : List Char → Bool
  | letter :: rest => (letter = 'e' || letter = 'E') && areDigits Char.isDigit (unsigned rest)
  | [] => false

/-- A text is a number with a fraction or an exponent. -/
def isFraction (text : List Char) : Bool :=
  let text := unsigned text
  let isDigit (character : Char) : Bool := character.isDigit || character = '_'
  let whole := text.takeWhile isDigit
  isWhole whole &&
    match text.dropWhile isDigit with
    | '.' :: rest =>
      let tail := rest.dropWhile isDigit
      areDigits Char.isDigit (rest.takeWhile isDigit) && (tail = [] || isExponent tail)
    | tail => isExponent tail

/-- A text is a number with a fraction that does not overflow, or a word for such a number. -/
def isFloat (text : List Char) : Bool :=
  unsigned text = ['i', 'n', 'f'] || unsigned text = ['n', 'a', 'n'] ||
    (isFraction text &&
      ((Decimal.ofText? (text.filter (· ≠ '_'))).bind Decimal.magnitude?).isSome)

/-! ### Dates and times -/

/-- The value of a number of digits, and what follows them. -/
def digits? : Nat → Nat → List Char → Option (Nat × List Char)
  | 0, value, rest => some (value, rest)
  | _ + 1, _, [] => none
  | count + 1, value, digit :: rest =>
    if digit.isDigit then digits? count (10 * value + (digit.toNat - '0'.toNat)) rest else none

/-- Two digits with a value in the given range, and what follows them. -/
def pair? (low high : Nat) (text : List Char) : Option (Nat × List Char) :=
  (digits? 2 0 text).filter fun (value, _) => low ≤ value && value ≤ high

/-- The number of days of a month. -/
def daysIn (year month : Nat) : Nat :=
  if month = 2 then
    if year % 4 = 0 ∧ (year % 100 ≠ 0 ∨ year % 400 = 0) then 29 else 28
  else if month = 4 ∨ month = 6 ∨ month = 9 ∨ month = 11 then 30
  else 31

/-- Moves over a time of day. -/
def time? (text : List Char) : Option (List Char) := do
  let (_, text) ← pair? 0 23 text
  let (_, text) ← pair? 0 59 (← expect? ':' text)
  let (_, text) ← pair? 0 59 (← expect? ':' text)
  match text with
  | '.' :: rest =>
    if rest.takeWhile Char.isDigit = [] then none else some (rest.dropWhile Char.isDigit)
  | _ => some text

/-- Moves over a date. -/
def date? (text : List Char) : Option (List Char) := do
  let (year, text) ← digits? 4 0 text
  let (month, text) ← pair? 1 12 (← expect? '-' text)
  let (_, text) ← pair? 1 (daysIn year month) (← expect? '-' text)
  return text

/-- A text is an offset from universal time, or nothing at all. -/
def isOffset (text : List Char) : Bool :=
  match text with
  | [] => true
  | sign :: rest =>
    ((sign = 'Z' || sign = 'z') && rest = []) ||
      ((sign = '+' || sign = '-') &&
        (do
          let (_, text) ← pair? 0 24 rest
          let (_, text) ← pair? 0 60 (← expect? ':' text)
          return text) = some [])

/-- A text is a date, a time of day or both. -/
def isDateTime (text : List Char) : Bool :=
  time? text = some [] ||
    match date? text with
    | none => false
    | some [] => true
    | some (separator :: rest) =>
      (separator = 'T' || separator = 't' || separator = ' ') &&
        ((time? rest).map isOffset).getD false

/-! ### Words -/

/-- A character of a number, date or bare word. -/
def isWordCharacter (character : Char) : Bool :=
  character.isAlphanum || ['_', '+', '-', '.', ':'].contains character

/-- Splits off a number, date or bare word; a space may divide a date from a time. -/
def splitWord (text : List Char) : List Char × List Char :=
  let word := text.takeWhile isWordCharacter
  let rest := text.dropWhile isWordCharacter
  match rest with
  | ' ' :: after =>
    let time := after.takeWhile isWordCharacter
    if date? word = some [] ∧ (after.head?.map Char.isDigit).getD false then
      (word ++ ' ' :: time, after.dropWhile isWordCharacter)
    else (word, rest)
  | _ => (word, rest)

/-- The value of a number, date or bare word. -/
def wordValue? (word : List Char) : Option Value :=
  if isInteger word then
    match Numeral.integer word with
    | .ok value => some (.integer value)
    | .error _ => none
  else if isFloat word ∨ isDateTime word ∨ word = ['t', 'r', 'u', 'e'] ∨
      word = ['f', 'a', 'l', 's', 'e'] then
    some .other
  else none

/-- Reads a number, date or bare word. -/
def word? (text : List Char) : Option (Value × List Char) :=
  let (word, rest) := splitWord text
  (wordValue? word).map fun value => (value, rest)

/-- Reads a string; `text` starts with its opening quote. -/
def string? (quote : Char) (text : List Char) : Option (Value × List Char) :=
  let rest := text.tail
  let escapes := quote = doubleQuote
  if rest.take 2 = [quote, quote] then
    (longString? quote escapes (rest.length + 1) false (rest.drop 2)).map (Value.other, ·)
  else if escapes then
    (basic? (rest.length + 1) rest).map fun (_, after) => (.other, after)
  else (literal? rest).map fun (_, after) => (.other, after)

end Stencil.Toml
