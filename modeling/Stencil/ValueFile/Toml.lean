import Stencil.ValueFile.Toml.Document

/-!
# Values in TOML

A values file in TOML assigns an array of integers to the key `values` of its
top-level table, in any letter case; other keys are ignored. Files that are not
well formed are refused, and so is any other kind of value under that key.

The explicit bound on the depth of recursion is the length of the text, and every
call uses up at least one character before the next.
-/

namespace Stencil.Toml

/-- What is left to read, and the document so far. -/
structure Reading where
  rest : List Char
  document : Document := {}

/-- Readers take characters, or refuse them. -/
abbrev Reader := StateT Reading Option

namespace Reader

/-- Takes what a function on texts reads. -/
def take {α : Type} (read? : List Char → Option (α × List Char)) : Reader α := do
  let reading ← get
  match read? reading.rest with
  | none => failure
  | some (result, rest) =>
    set { reading with rest }
    return result

/-- Moves on as a function on texts does. -/
def move (next? : List Char → Option (List Char)) : Reader Unit :=
  take fun text => (next? text).map ((), ·)

/-- Changes the document. -/
def change (next? : Document → Option Document) : Reader Unit := do
  let reading ← get
  match next? reading.document with
  | none => failure
  | some document => set { reading with document }

/-- The next character, if there is one. -/
def peek : Reader (Option Char) := do return (← get).rest.head?

/-- Reads a key. -/
def key : Reader Path := take fun text => key? (text.length + 1) text

mutual

/-- Reads the value of a name of the current table, or an item of an array that is. -/
def value (inArray : Bool) (name : String) : Nat → Reader Value
  | 0 => failure
  | fuel + 1 => do
    match ← peek with
    | none => failure
    | some character =>
      if character = doubleQuote || character = singleQuote then take (string? character)
      else if character = '[' then
        move (expect? '[')
        change fun document => some (document.noteArray name true)
        return .array (← items name fuel)
      else if character = openBrace then
        move (expect? openBrace)
        inlineTable inArray name fuel
      else take word?

/-- Reads the items of an array up to its closing bracket. -/
def items (name : String) : Nat → Reader (List Value)
  | 0 => failure
  | fuel + 1 => do
    move fun text => some (skipGap false text)
    if (← peek) = some ']' then
      move (expect? ']')
      return []
    else
      let item ← value true name fuel
      move fun text => some (skipGap false text)
      if (← peek) = some ',' then
        move (expect? ',')
        return item :: (← items name fuel)
      else
        move (expect? ']')
        return [item]

/-- Reads a table on one line after its opening brace. -/
def inlineTable (inArray : Bool) (name : String) : Nat → Reader Value
  | 0 => failure
  | fuel + 1 => do
    let outer := (← get).document.current
    let path := outer ++ [name]
    change fun document => (document.addImplicit path).openTable? path inArray
    move fun text => some (skipSpaces text)
    let entries ←
      if (← peek) = some closeBrace then do
        move (expect? closeBrace)
        pure []
      else inlineEntries [] fuel
    change fun document => some { document with current := outer }
    return .table entries

/-- Reads the entries of a table on one line up to its closing brace. -/
def inlineEntries (entries : Entries) : Nat → Reader Entries
  | 0 => failure
  | fuel + 1 => do
    let (path, given) ← assignment fuel
    match entries.putAt given path with
    | none => failure
    | some entries =>
      move fun text => some (skipSpaces text)
      if (← peek) = some ',' then
        move (expect? ',')
        inlineEntries entries fuel
      else
        move (expect? closeBrace)
        return entries

/-- Reads a key and its value, and gives the name the value: gives the key and the value. -/
def assignment : Nat → Reader (Path × Value)
  | 0 => failure
  | fuel + 1 => do
    let path ← key
    move (expect? '=')
    move fun text => some (skipSpaces text)
    let outer := (← get).document.current
    let name := path.getLast?.getD ""
    change fun document => document.descend? path.dropLast
    let given ← value false name fuel
    change fun document =>
      (document.assign? name given).map fun document => document.noteArray name given.isArray
    change fun document => some { document with current := outer }
    return (path, given)

end

/-- Reads the name of a table behind its opening brackets, and makes the table the current one. -/
def header (shared : Bool) : Reader Unit := do
  let path ← key
  move (expect? ']')
  if shared then move (expect? ']')
  change fun document =>
    (document.openTable? path shared).map fun document => document.noteArray "" false

/-- Reads a document line by line. -/
def lines : Nat → Reader Unit
  | 0 => failure
  | fuel + 1 => do
    move fun text => some (skipGap false text)
    match (← get).rest with
    | [] => return ()
    | '[' :: '[' :: rest =>
      move fun _ => some rest
      header true
      move lineEnd?
      lines fuel
    | '[' :: rest =>
      move fun _ => some rest
      header false
      move lineEnd?
      lines fuel
    | text =>
      let _ ← assignment (4 * text.length + 4)
      move lineEnd?
      lines fuel

/-- The entries of the document that a text holds. -/
def entriesOf? (text : List Char) : Option Entries :=
  (lines (text.length + 1) { rest := text }).map fun (_, reading) => reading.document.entries

end Reader

/-- The character may stand in a text. -/
def isAllowed (character : Char) : Bool :=
  character = '\t' || character = '\n' || (' ' ≤ character && character ≠ '\x7f')

/-- The text with every carriage return in front of a line end left out. -/
def normalizeLines : List Char → List Char
  | [] => []
  | '\r' :: '\n' :: rest => '\n' :: normalizeLines rest
  | character :: rest => character :: normalizeLines rest

/-- A letter without regard to case; the long form of the letter `s` is one as well. -/
def fold (character : Char) : Char :=
  if character = '\u017f' then 's' else character.toLower

/-- A name is the key of the values, in any letter case. -/
def isValuesKey (name : String) : Bool :=
  name.toList.map fold = ['v', 'a', 'l', 'u', 'e', 's']

/-- The integer that an item of an array is. -/
def integer? : Value → Option Int
  | .integer value => some value
  | _ => none

/-- The integers of an array. -/
def integers? : Value → Option (List Int)
  | .array items => items.mapM integer?
  | _ => none

/-- The integers under the key of the values; of keys that differ in case, the last one counts. -/
def integersOf? (entries : Entries) : Option (List Int) := do
  let lists ← (entries.filter fun (name, _) => isValuesKey name).mapM fun (_, value) =>
    integers? value
  return lists.getLast?.getD []

/-- The integers of a values file. -/
def values? (text : String) : Option (List Int) :=
  let characters := normalizeLines text.toList
  let characters := if characters.head? = some '\ufeff' then characters.tail else characters
  if characters.all isAllowed then (Reader.entriesOf? characters).bind integersOf? else none

end Stencil.Toml
