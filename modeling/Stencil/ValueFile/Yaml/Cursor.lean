import Stencil.ValueFile.Yaml.Window

/-!
# Places in a YAML text

A cursor is a place in a text: the characters from there on, with the line, the
column and the number of characters in front, and the window on the text. Line ends
are breaks; spaces and tabs are blanks.

Every line end is one character here. The common ones of one character are newlines,
and a line end of two characters is a carriage return.
-/

namespace Stencil.Yaml

/-- A place in a text. -/
structure Cursor where
  rest : List Char
  line : Nat := 0
  column : Nat := 0
  offset : Nat := 0
  window : Window := {}
deriving DecidableEq

def doubleQuote : Char := '\x22'
def singleQuote : Char := '\x27'

/-- A space or a tab. -/
def isBlank (character : Char) : Bool := character = ' ' || character = '\t'

/-- The end of a line. -/
def isBreak (character : Char) : Bool :=
  character = '\n' || character = '\r' || character = '\u2028' || character = '\u2029'

/-- The text with every line end as one character. -/
def normalizeLines : List Char → List Char
  | [] => []
  | '\r' :: '\n' :: rest => '\r' :: normalizeLines rest
  | character :: rest =>
    (if character = '\r' || character = '\u0085' then '\n' else character) :: normalizeLines rest

/-- The number of characters of a text that one character stands for. -/
def width (character : Char) : Nat := if character = '\r' then 2 else 1

/-- A character that separates words. -/
def isGap (character : Char) : Bool := isBlank character || isBreak character

/-- The text ends here, or a blank or break follows. -/
def gapFollows : List Char → Bool
  | [] => true
  | character :: _ => isGap character

/-- The line ends here. -/
def lineEnds : List Char → Bool
  | [] => true
  | character :: _ => isBreak character

/-- A character of a name. -/
def isNameCharacter (character : Char) : Bool :=
  character.isAlphanum || character = '_' || character = '-'

namespace Cursor

/-- The start of a text. -/
def ofText (text : List Char) : Cursor :=
  let blocks := Window.blocksOfMarked text
  let fetchable := blocks.takeWhile (·.all Window.isAllowed)
  let rest := normalizeLines fetchable.flatten
  let window : Window :=
    { blocks := fetchable.map List.length, damaged := fetchable.length < blocks.length }
  { rest, window := window.require 1 rest }

/-- Requires a number of characters in the window. -/
def require (cursor : Cursor) (wanted : Nat) : Cursor :=
  { cursor with window := cursor.window.require wanted cursor.rest }

/-- Moves on by one character. -/
def next (cursor : Cursor) : Cursor :=
  match cursor.rest with
  | [] => cursor
  | character :: rest =>
    if isBreak character then
      { rest
        line := cursor.line + 1
        column := 0
        offset := cursor.offset + width character
        window := (cursor.require 2).window.pass (width character) rest }
    else
      { cursor with
        rest
        column := cursor.column + 1
        offset := cursor.offset + 1
        window := cursor.window.pass 1 rest }

/--
Passes over the first character of a line if the window starts with a byte order mark.
The line goes on even if that character ends it; of a line end of two characters, the
second one stays.
-/
def passMark (cursor : Cursor) : Cursor :=
  match cursor.rest with
  | [] => cursor
  | character :: rest =>
    if cursor.column = 0 && cursor.window.marked then
      let rest := if character = '\r' then '\n' :: rest else rest
      { cursor with
        rest
        column := 1
        offset := cursor.offset + 1
        window := cursor.window.pass 1 rest }
    else cursor

/-- Moves on by a number of characters. -/
def skip (cursor : Cursor) : Nat → Cursor
  | 0 => cursor
  | count + 1 => cursor.next.skip count

/-- The characters from here on that satisfy a condition. -/
def run (cursor : Cursor) (condition : Char → Bool) : List Char :=
  cursor.rest.takeWhile condition

/-- Moves over the characters that satisfy a condition. -/
def skipWhile (cursor : Cursor) (condition : Char → Bool) : Cursor :=
  cursor.skip (cursor.run condition).length

/-- The next character is the given one. -/
def sees (cursor : Cursor) (character : Char) : Bool :=
  cursor.rest.head? = some character

/-- The number of characters that show a marker of a document, with what follows it. -/
def markerLength : Nat := 4

/-- Three of the given character stand alone at the start of a line. -/
def atTriple (character : Char) (cursor : Cursor) : Bool :=
  cursor.column = 0 && cursor.rest.take 3 = [character, character, character] &&
    gapFollows (cursor.rest.drop 3)

/-- A marker that starts or ends a document stands here. -/
def atMarker (cursor : Cursor) : Bool := atTriple '-' cursor || atTriple '.' cursor

/-- Moves to the end of the line. -/
def skipLine (cursor : Cursor) : Cursor := cursor.skipWhile (!isBreak ·)

/-- Moves over a comment in the same line, if one follows. -/
def skipLineComment (cursor : Cursor) : Cursor :=
  let ahead := cursor.skipWhile isBlank
  if ahead.sees '#' then ahead.skipLine else cursor

/--
Moves over a comment and over all comments that follow it with nothing but gaps
between them, up to the end of the last one's line.
-/
def skipComments : Nat → Cursor → Cursor
  | 0, cursor => cursor
  | fuel + 1, cursor =>
    let lineEnd := cursor.skipLine
    let lineEnd := lineEnd.require (((lineEnd.run isGap).map width).sum + 1)
    let ahead := lineEnd.skipWhile isGap
    if ahead.sees '#' then ahead.skipComments fuel else lineEnd

end Cursor

end Stencil.Yaml
