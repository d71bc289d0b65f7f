/-!
# Records of comma-separated fields

A list of texts can be given as one record: fields with commas between them. A
field that starts with a double quote runs to the closing quote, may hold commas
and line ends, and has every quote inside it doubled. A field without quotes may
not hold one. Only the first record of a text counts, and empty lines in front of
it are skipped; a text without any record is an error.

Errors name the line, and the column counted in bytes from one.
-/

namespace Stencil

/-- The reasons for which a text holds no record. -/
inductive RecordError where
  | endOfText
  /-- A quote inside a field that did not start with one. -/
  | bareQuote (start line column : Nat)
  /-- Text after a closing quote, or no closing quote. -/
  | strayQuote (start line column : Nat)
deriving DecidableEq

namespace RecordError

/-- The words for the place of an error in a record that starts at line `start`. -/
def place (start line column : Nat) : String :=
  (if start = line then "" else s!"record on line {start}; ") ++
    s!"parse error on line {line}, column {column}: "

/-- The message for a bad record. -/
def message : RecordError → String
  | endOfText => "EOF"
  | bareQuote start line column => place start line column ++ "bare \" in non-quoted-field"
  | strayQuote start line column =>
    place start line column ++ "extraneous or missing \" in quoted-field"

end RecordError

namespace Record

def quote : Char := '\x22'

/-- The number of bytes of a text. -/
def byteLength (characters : List Char) : Nat := (String.ofList characters).utf8ByteSize

/-- Splits a text into lines; each one but the last keeps its newline. -/
def splitLines : List Char → List (List Char)
  | [] => []
  | character :: rest =>
    if character = '\n' then ['\n'] :: splitLines rest
    else
      match splitLines rest with
      | [] => [[character]]
      | first :: others => (character :: first) :: others

/-- Leaves out a carriage return at the end of a line, in front of its newline if it has one. -/
def normalizeLine (line : List Char) : List Char :=
  match line.reverse with
  | '\n' :: '\r' :: front => (('\n' :: front).reverse)
  | '\r' :: front => front.reverse
  | _ => line

/-- The lines of a text. -/
def lines (text : List Char) : List (List Char) := (splitLines text).map normalizeLine

/-- There is nothing in a line, or nothing more. -/
def isLineEnd (line : List Char) : Bool := line = [] || line = ['\n']

/-- Where a reader stands: the line of the record's start, the current line and column. -/
structure Place where
  start : Nat
  line : Nat
  column : Nat

/-- The place a number of bytes further on. -/
def Place.advance (place : Place) (count : Nat) : Place :=
  { place with column := place.column + count }

mutual

/-- Reads the fields of a record from the start of one of them on. -/
def fields : Nat → Place → List Char → List (List Char) → Except RecordError (List (List Char))
  | 0, _, _, _ => .error .endOfText
  | fuel + 1, place, line, more =>
    if line.head? = some quote then quotedField fuel (place.advance 1) [] line.tail more
    else
      let field := line.takeWhile fun character => character ≠ ',' && character ≠ '\n'
      let rest := line.drop field.length
      if quote ∈ field then
        let before := field.takeWhile (· ≠ quote)
        .error (.bareQuote place.start place.line (place.column + byteLength before))
      else
        match rest with
        | ',' :: next =>
          (fields fuel (place.advance (byteLength field + 1)) next more).map (field :: ·)
        | _ => .ok [field]

/-- Reads the rest of a quoted field, of which `text` has been read, and the fields after it. -/
def quotedField : Nat → Place → List Char → List Char → List (List Char) →
    Except RecordError (List (List Char))
  | 0, _, _, _, _ => .error .endOfText
  | fuel + 1, place, text, line, more =>
    if quote ∈ line then
      let before := line.takeWhile (· ≠ quote)
      let rest := line.drop (before.length + 1)
      let place := place.advance (byteLength before + 1)
      let text := text ++ before
      match rest with
      | ',' :: next => (fields fuel (place.advance 1) next more).map (text :: ·)
      | next =>
        if next.head? = some quote then
          quotedField fuel (place.advance 1) (text ++ [quote]) next.tail more
        else if isLineEnd next then .ok [text]
        else .error (.strayQuote place.start place.line (place.column - 1))
    else
      match line, more with
      | _ :: _, next :: others =>
        let place :=
          if next = [] then place.advance (byteLength line)
          else { place with line := place.line + 1, column := 1 }
        quotedField fuel place (text ++ line) next others
      | _, _ => .error (.strayQuote place.start place.line (place.column + byteLength line))

end

/-- Reads the first record of the lines from line number `line` on. -/
def first (fuel line : Nat) : List (List Char) → Except RecordError (List (List Char))
  | [] => .error .endOfText
  | current :: more =>
    if isLineEnd current then first fuel (line + 1) more
    else fields fuel { start := line, line, column := 1 } current more

/-- The fields of the first record of a text. -/
def parse (text : String) : Except RecordError (List String) :=
  let characters := text.toList
  (first (2 * characters.length + 2) 1 (lines characters)).map (·.map String.ofList)

end Record

end Stencil
