import Stencil.Bytes.Hexadecimal
import Stencil.ValueFile.Yaml.Cursor

/-!
# Scalars of YAML

Scalars are written plain, between quotes or as a block. A gap inside a plain or
quoted scalar keeps its blanks if it lies within a line. If it holds breaks, it is
folded: a single break becomes a space, and of several breaks the first is dropped.
-/

namespace Stencil.Yaml

/-- A scalar that was read, and the place behind it. -/
structure ReadScalar where
  text : List Char
  cursor : Cursor
  /-- The place behind the scalar is in a later line than its last character. -/
  endsLine : Bool := false

namespace Scalar

/-- The breaks of a gap as a scalar has them. -/
def breaksOf (gap : List Char) : List Char :=
  (gap.filter isBreak).map fun character => if character = '\r' then '\n' else character

/-- The text that a gap inside a scalar stands for. -/
def folded (gap : List Char) : List Char :=
  match breaksOf gap with
  | [] => gap
  | ['\n'] => [' ']
  | '\n' :: more => more
  | breaks => breaks

/-! ### Plain scalars -/

/-- A character that ends a plain scalar inside flow collections. -/
def isFlowIndicator (character : Char) : Bool :=
  [',', '?', '[', ']', '\x7b', '\x7d'].contains character

/-- The characters of a plain scalar up to the next gap or to its end. -/
def plainRun (flow : Bool) : List Char → List Char
  | [] => []
  | character :: rest =>
    if isGap character || (character = ':' && gapFollows rest) ||
        (flow && isFlowIndicator character) then []
    else character :: plainRun flow rest

/-- A tab stands in front of the given column of a line that starts inside a gap. -/
def hasTabBefore (indent : Int) (inIndent : Bool) (column : Nat) : List Char → Bool
  | [] => false
  | character :: rest =>
    if isBreak character then hasTabBefore indent true 0 rest
    else
      (inIndent && character = '\t' && (column : Int) < indent) ||
        hasTabBefore indent inIndent (column + 1) rest

/--
Reads on in a plain scalar after a gap. Lines of a scalar outside of flow collections
start at the column `indent` or behind it, and none has a tab in front of that column.
-/
def plainFrom (flow : Bool) (indent : Int) : Nat → List Char → Cursor → Option ReadScalar
  | 0, _, _ => none
  | fuel + 1, gap, cursor =>
    let cursor := cursor.require Cursor.markerLength
    let run := if cursor.atMarker || cursor.sees '#' then [] else plainRun flow cursor.rest
    if run = [] then some { text := [], cursor, endsLine := gap.any isBreak }
    else
      let text := folded gap ++ run
      let cursor := cursor.skip run.length
      let gap := cursor.run isGap
      let ahead := cursor.skip gap.length
      if hasTabBefore indent false cursor.column gap then none
      else if gap = [] || (!flow && (ahead.column : Int) < indent) then
        some { text, cursor := ahead, endsLine := gap.any isBreak }
      else
        (plainFrom flow indent fuel gap ahead).map fun scalar =>
          { scalar with text := text ++ scalar.text }

/-- Reads a plain scalar. -/
def plain (flow : Bool) (indent : Int) (cursor : Cursor) : Option ReadScalar :=
  plainFrom flow indent (cursor.rest.length + 1) [] cursor

/-! ### Quoted scalars -/

/-- The number of hexadecimal digits after an escape letter that takes some. -/
def escapeLength? (letter : Char) : Option Nat :=
  if letter = 'x' then some 2
  else if letter = 'u' then some 4
  else if letter = 'U' then some 8
  else none

/-- The character that a one-letter escape stands for. -/
def escaped? (letter : Char) : Option Char :=
  [('0', '\x00'), ('a', '\x07'), ('b', '\x08'), ('t', '\t'), ('\t', '\t'), ('n', '\n'),
    ('v', '\x0b'), ('f', '\x0c'), ('r', '\r'), ('e', '\x1b'), (' ', ' '),
    (doubleQuote, doubleQuote), (singleQuote, singleQuote), ('\\', '\\'),
    ('N', '\u0085'), ('_', '\u00a0'), ('L', '\u2028'), ('P', '\u2029')].lookup letter

/-- The value of hexadecimal digits. -/
def hexadecimal? (digits : List Char) : Option Nat :=
  digits.foldl
    (fun value? digit => do return 16 * (← value?) + (← Hexadecimal.value? digit)) (some 0)

/-- Reads an escape that starts here: gives its text, and the place behind it. -/
def escape? (cursor : Cursor) : Option (List Char × Cursor) :=
  let cursor := cursor.next
  match cursor.rest with
  | [] => none
  | letter :: rest =>
    if isBreak letter then
      let cursor := cursor.next
      some (breaksOf (cursor.run isGap), (cursor.skipWhile isGap).require Cursor.markerLength)
    else
      match escapeLength? letter with
      | none => (escaped? letter).map fun character => ([character], cursor.next)
      | some length => do
        let digits := rest.take length
        let value ← hexadecimal? digits
        if digits.length = length ∧ value.isValidChar then
          some ([Char.ofNat value], cursor.next.skip length)
        else none

/-- Reads on in a quoted scalar up to its closing quote. -/
def quotedFrom (quote : Char) : Nat → Cursor → Option ReadScalar
  | 0, _ => none
  | fuel + 1, cursor =>
    let goOn (text : List Char) (cursor : Cursor) : Option ReadScalar :=
      (quotedFrom quote fuel cursor).map fun scalar => { scalar with text := text ++ scalar.text }
    if cursor.atMarker then none
    else
      match cursor.rest with
      | [] => none
      | character :: rest =>
        if isGap character then
          let gap := cursor.run isGap
          goOn (folded gap) ((cursor.skip gap.length).require Cursor.markerLength)
        else if character = quote then
          if quote = singleQuote && rest.head? = some singleQuote then
            goOn [singleQuote] (cursor.skip 2)
          else some { text := [], cursor := cursor.next }
        else if quote = doubleQuote && character = '\\' then
          match escape? cursor with
          | none => none
          | some (text, cursor) => goOn text cursor
        else goOn [character] cursor.next

/-- Reads a quoted scalar that starts with its opening quote. -/
def quoted (quote : Char) (cursor : Cursor) : Option ReadScalar :=
  quotedFrom quote (cursor.rest.length + 1) (cursor.next.require Cursor.markerLength)

/-! ### Block scalars -/

/-- What happens to the breaks at the end of a block scalar. -/
inductive Chomping where
  | strip
  | clip
  | keep
deriving DecidableEq

/-- The chomping that a sign asks for. -/
def chomping? (cursor : Cursor) : Option Chomping :=
  if cursor.sees '+' then some .keep else if cursor.sees '-' then some .strip else none

/-- The digit here; nothing if there is none. -/
def digit? (cursor : Cursor) : Option Nat :=
  match cursor.rest with
  | [] => none
  | character :: _ => if character.isDigit then some (character.toNat - '0'.toNat) else none

/-- Reads the signs behind the indicator of a block scalar. An indentation of zero is refused. -/
def blockHeader? (cursor : Cursor) : Option (Chomping × Nat × Cursor) :=
  let (chomping, increment, cursor) :=
    match chomping? cursor, digit? cursor with
    | some chomping, _ =>
      match digit? cursor.next with
      | some digit => (chomping, some digit, cursor.skip 2)
      | none => (chomping, none, cursor.next)
    | none, some digit =>
      match chomping? cursor.next with
      | some chomping => (chomping, some digit, cursor.skip 2)
      | none => (.clip, some digit, cursor.next)
    | none, none => (.clip, none, cursor)
  let ahead := (cursor.skipWhile isBlank).skipLineComment
  if increment = some 0 ∨ !lineEnds ahead.rest then none
  else some (chomping, increment.getD 0, ahead.next)

/--
Reads the empty lines in front of a line of a block scalar and the indentation of that
line. If `indent` is zero, all spaces count as indentation. Gives the breaks and the
widest indentation; a tab in the indentation is refused.
-/
def blockBreaks (indent : Nat) : Nat → Nat → Cursor → Option (List Char × Nat × Cursor)
  | 0, _, _ => none
  | fuel + 1, widest, cursor =>
    let spaces := (cursor.run (· = ' ')).length
    let cursor := cursor.skip (if indent = 0 then spaces else min spaces (indent - cursor.column))
    let widest := max widest cursor.column
    if (indent = 0 || cursor.column < indent) && cursor.sees '\t' then none
    else
      match cursor.rest with
      | [] => some ([], widest, cursor)
      | character :: _ =>
        if isBreak character then
          (blockBreaks indent fuel widest cursor.next).map fun (breaks, found) =>
            (breaksOf [character] ++ breaks, found)
        else some ([], widest, cursor)

/-- The break between two lines of a folded block scalar. -/
def foldedBreak (afterBlank beforeBlank : Bool) (leading trailing : List Char) : List Char :=
  if !afterBlank && !beforeBlank && leading.head? = some '\n' then
    if trailing = [] then [' '] else []
  else leading

/-- Reads the lines of a block scalar; `leading` and `trailing` are breaks that stand in front. -/
def blockLines (literal : Bool) (chomping : Chomping) (indent : Nat) :
    Nat → Bool → List Char → List Char → Cursor → Option ReadScalar
  | 0, _, _, _, _ => none
  | fuel + 1, afterBlank, leading, trailing, cursor =>
    if cursor.column = indent && cursor.rest ≠ [] then do
      let beforeBlank := (cursor.rest.head?.map isBlank).getD false
      let joint := if literal then leading else foldedBreak afterBlank beforeBlank leading trailing
      let line := cursor.run (!isBreak ·)
      let lineEnd := cursor.skip line.length
      let (breaks, _, start) ← blockBreaks indent (cursor.rest.length + 1) 0 lineEnd.next
      let leading := breaksOf (lineEnd.rest.take 1)
      let scalar ← blockLines literal chomping indent fuel beforeBlank leading breaks start
      return { scalar with text := joint ++ trailing ++ line ++ scalar.text }
    else
      let final :=
        match chomping with
        | .strip => []
        | .clip => leading
        | .keep => leading ++ trailing
      some { text := final, cursor, endsLine := true }

/--
Reads a block scalar that starts with its indicator, inside collections that are
indented by `outer`.
-/
def block (literal : Bool) (outer : Int) (cursor : Cursor) : Option ReadScalar := do
  let (chomping, increment, start) ← blockHeader? cursor.next
  let fuel := cursor.rest.length + 1
  let given := if increment = 0 then 0 else outer.toNat + increment
  let (breaks, widest, first) ← blockBreaks given fuel 0 start
  let indent := if given = 0 then max widest (max (outer + 1).toNat 1) else given
  blockLines literal chomping indent fuel false [] breaks first

end Scalar

end Stencil.Yaml
