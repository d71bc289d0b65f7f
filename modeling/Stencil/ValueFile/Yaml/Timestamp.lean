/-!
# Times in YAML

A time is a date of the calendar: a year of four digits, a month and a day. The time of
the day may follow it: either behind a `T` and with the distance of its zone, or behind
spaces and without one. Numbers other than the year have one or two digits, and the
seconds may have a fraction.
-/

namespace Stencil.Yaml.Timestamp

/-- Reads a number of two digits, or of one if no other follows. -/
def number? : List Char → Option (Nat × List Char)
  | [] => none
  | first :: rest =>
    let value (digit : Char) : Nat := digit.toNat - '0'.toNat
    if first.isDigit then
      match rest with
      | [] => some (value first, [])
      | second :: more =>
        if second.isDigit then some (10 * value first + value second, more)
        else some (value first, rest)
    else none

/-- Reads a number below a limit. -/
def below? (limit : Nat) (characters : List Char) : Option (List Char) := do
  let (value, rest) ← number? characters
  if value < limit then return rest else none

/-- Reads a given character. -/
def literal? (expected : Char) : List Char → Option (List Char)
  | [] => none
  | character :: rest => if character = expected then some rest else none

/-! ### Dates -/

/-- The year has a leap day. -/
def isLeapYear (year : Nat) : Bool := year % 4 = 0 && (year % 100 ≠ 0 || year % 400 = 0)

/-- The number of days of a month, which counts from one. -/
def daysIn (year month : Nat) : Nat :=
  if month = 2 then if isLeapYear year then 29 else 28
  else if [4, 6, 9, 11].contains month then 30
  else 31

/-- Reads a date: gives what follows it, if the calendar has that day. -/
def date? (characters : List Char) : Option (List Char) := do
  let digits := characters.takeWhile Char.isDigit
  let year := digits.foldl (fun value digit => 10 * value + (digit.toNat - '0'.toNat)) 0
  let (month, rest) ← number? (← literal? '-' (characters.drop digits.length))
  let (day, rest) ← number? (← literal? '-' rest)
  if digits.length = 4 ∧ 1 ≤ month ∧ month ≤ 12 ∧ 1 ≤ day ∧ day ≤ daysIn year month then return rest
  else none

/-! ### Times of the day -/

/-- Moves over a fraction, which is a point or a comma with digits behind it. -/
def skipFraction : List Char → List Char
  | [] => []
  | mark :: rest =>
    if (mark = '.' || mark = ',') && rest.head?.any Char.isDigit then
      rest.dropWhile Char.isDigit
    else mark :: rest

/-- Reads hours, minutes and seconds. -/
def clock? (characters : List Char) : Option (List Char) := do
  let rest ← literal? ':' (← below? 24 characters)
  let rest ← literal? ':' (← below? 60 rest)
  return skipFraction (← below? 60 rest)

/-- The characters are a zone: a `Z`, or a sign, two digits, a colon and two digits. -/
def isZone : List Char → Bool
  | ['Z'] => true
  | [sign, hourTens, hours, ':', minuteTens, minutes] =>
    let within (limit : Nat) (digits : List Char) : Bool :=
      digits.all Char.isDigit && (number? digits).any fun (value, _) => value ≤ limit
    (sign = '+' || sign = '-') && within 24 [hourTens, hours] && within 60 [minuteTens, minutes]
  | _ => false

/-- The characters are what may follow a date. -/
def isTimeOfDay : List Char → Bool
  | [] => true
  | character :: rest =>
    if character = 'T' || character = 't' then (clock? rest).any isZone
    else character = ' ' && clock? (rest.dropWhile (· = ' ')) = some []

/-- The text is a time. -/
def isTimestamp (text : String) : Bool := (date? text.toList).any isTimeOfDay

end Stencil.Yaml.Timestamp
