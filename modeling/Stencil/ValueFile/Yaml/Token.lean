import Stencil.ValueFile.Yaml.Scalar

/-!
# Tokens of YAML

Tokens are the indicators of a text, its scalars, names, tags and directives, and
the tokens that show where block collections start and end, which follow from the
indentation.
-/

namespace Stencil.Yaml

/-- A token of a text. -/
inductive Token where
  | streamEnd
  | documentStart
  | documentEnd
  | version (major minor : Nat)
  | tagDirective (handle start : String)
  | blockSequenceStart
  | blockMappingStart
  | blockEnd
  | flowSequenceStart
  | flowSequenceEnd
  | flowMappingStart
  | flowMappingEnd
  | flowEntry
  | blockEntry
  | key
  | value
  | reference (name : String)
  | anchor (name : String)
  | tag (handle suffix : String)
  | scalar (text : String) (plain : Bool)
deriving DecidableEq

namespace Token

/-- Reads the name behind the indicator of an anchor or a reference. -/
def name? (cursor : Cursor) : Option (String × Cursor) :=
  let start := cursor.next
  let name := start.run isNameCharacter
  let cursor := start.skip name.length
  let isEnd : Bool :=
    match cursor.rest with
    | [] => true
    | character :: _ =>
      isGap character || ['?', ':', ',', ']', '\x7d', '%', '@', '\x60'].contains character
  if name ≠ [] ∧ isEnd then some (String.ofList name, cursor) else none

/-! ### Tags -/

/-- A character of a tag, apart from escapes. -/
def isTagCharacter (character : Char) : Bool :=
  isNameCharacter character ||
    [';', '/', '?', ':', '@', '&', '=', '+', '$', ',', '.', '!', '~', '*', singleQuote, '(', ')',
      '[', ']'].contains character

/-- The byte that an escape in a tag stands for. -/
def escapedByte? : List Char → Option Nat
  | '%' :: high :: low :: _ => do
    return 16 * (← Hexadecimal.value? high) + (← Hexadecimal.value? low)
  | _ => none

/-- The number of bytes of the character that starts with the given one. -/
def encodedLength? (first : Nat) : Option Nat :=
  if first < 0x80 then some 1
  else if 0xc0 ≤ first ∧ first < 0xe0 then some 2
  else if 0xe0 ≤ first ∧ first < 0xf0 then some 3
  else if 0xf0 ≤ first ∧ first < 0xf8 then some 4
  else none

/-- Reads escaped bytes that continue a character. -/
def continuation? : Nat → Cursor → Option (List Char × Cursor)
  | 0, cursor => some ([], cursor)
  | count + 1, cursor => do
    let byte ← escapedByte? cursor.rest
    if 0x80 ≤ byte ∧ byte < 0xc0 then
      let (bytes, final) ← continuation? count (cursor.skip 3)
      return (Char.ofNat byte :: bytes, final)
    else none

/-- Reads the characters of a tag; escaped bytes are kept as the characters with their numbers. -/
def tagText? : Nat → Cursor → Option (List Char × Cursor)
  | 0, _ => none
  | fuel + 1, cursor =>
    match cursor.rest with
    | [] => some ([], cursor)
    | character :: _ =>
      if character = '%' then do
        let first ← escapedByte? cursor.rest
        let length ← encodedLength? first
        let (bytes, cursor) ← continuation? (length - 1) (cursor.skip 3)
        let (text, final) ← tagText? fuel cursor
        return (Char.ofNat first :: bytes ++ text, final)
      else if isTagCharacter character then do
        let (text, final) ← tagText? fuel cursor.next
        return (character :: text, final)
      else some ([], cursor)

/-- Reads a tag handle, or the start of a tag that looks like one: marks and a name. -/
def handle? (cursor : Cursor) : Option (List Char × Cursor) :=
  if cursor.sees '!' then
    let name := cursor.next.run isNameCharacter
    let ahead := cursor.next.skip name.length
    if ahead.sees '!' then some ('!' :: name ++ ['!'], ahead.next) else some ('!' :: name, ahead)
  else none

/-- A handle ends in a mark that is not its first one. -/
def isHandle (handle : List Char) : Bool :=
  2 ≤ handle.length && handle.getLast? = some '!'

/-- Reads a tag in one of its forms: in brackets, with a handle, or without one. -/
def tagParts? (cursor : Cursor) : Option (String × String × Cursor) := do
  let fuel := cursor.rest.length + 1
  if cursor.next.sees '<' then
    let (text, final) ← tagText? fuel (cursor.skip 2)
    if text ≠ [] ∧ final.sees '>' then return ("", String.ofList text, final.next) else none
  else
    let (handle, ahead) ← handle? cursor
    let (text, final) ← tagText? fuel ahead
    if isHandle handle then
      if text = [] then none else return (String.ofList handle, String.ofList text, final)
    else
      let suffix := handle.tail ++ text
      if suffix = [] then return ("", "!", final) else return ("!", String.ofList suffix, final)

/-- Reads a tag, which a gap has to follow. -/
def tag? (cursor : Cursor) : Option (Token × Cursor) := do
  let (handle, suffix, final) ← tagParts? cursor
  if gapFollows final.rest then return (.tag handle suffix, final) else none

/-! ### Directives -/

/-- Reads a part of a version number, of at most two digits. -/
def versionPart? (cursor : Cursor) : Option (Nat × Cursor) :=
  let digits := cursor.run Char.isDigit
  if 1 ≤ digits.length ∧ digits.length ≤ 2 then
    some (digits.foldl (fun value digit => 10 * value + (digit.toNat - '0'.toNat)) 0,
      cursor.skip digits.length)
  else none

/-- Reads a version. -/
def version? (cursor : Cursor) : Option (Token × Cursor) := do
  let (major, cursor) ← versionPart? cursor
  if cursor.sees '.' then
    let (minor, cursor) ← versionPart? cursor.next
    return (.version major minor, cursor)
  else none

/-- Reads a handle and what it stands for. -/
def tagDirective? (cursor : Cursor) : Option (Token × Cursor) := do
  let (handle, cursor) ← handle? cursor
  if (handle = ['!'] ∨ isHandle handle) ∧ (cursor.run isBlank) ≠ [] then
    let (text, cursor) ← tagText? (cursor.rest.length + 1) (cursor.skipWhile isBlank)
    if text ≠ [] ∧ gapFollows cursor.rest then
      return (.tagDirective (String.ofList handle) (String.ofList text), cursor)
    else none
  else none

/-- Reads a directive that starts here, with the rest of its line. -/
def directive? (cursor : Cursor) : Option (Token × Cursor) := do
  let start := cursor.next
  let name := start.run isNameCharacter
  let behind := start.skip name.length
  let ahead := behind.skipWhile isBlank
  let (token, final) ←
    if !gapFollows behind.rest then none
    else if String.ofList name = "YAML" then version? ahead
    else if String.ofList name = "TAG" then tagDirective? ahead
    else none
  let final := final.skipLineComment.skipWhile isBlank
  if lineEnds final.rest then return (token, final.next) else none

end Token

end Stencil.Yaml
