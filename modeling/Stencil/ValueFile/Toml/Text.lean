import Stencil.Bytes.Hexadecimal

/-!
# Gaps, strings and keys of TOML

Functions that read something give it with the text that follows it.
-/

namespace Stencil.Toml

/-- A sequence of names from the top-level table down. -/
abbrev Path := List String

def doubleQuote : Char := '\x22'
def singleQuote : Char := '\x27'
def openBrace : Char := '\x7b'
def closeBrace : Char := '\x7d'

/-- A space or a tab. -/
def isSpace (character : Char) : Bool := character = ' ' || character = '\t'

/-- Moves over spaces and tabs. -/
def skipSpaces (text : List Char) : List Char := text.dropWhile isSpace

/-- Moves over spaces, line ends and comments. -/
def skipGap (comment : Bool) : List Char → List Char
  | [] => []
  | character :: rest =>
    if character = '\n' then skipGap false rest
    else if comment then skipGap true rest
    else if isSpace character then skipGap false rest
    else if character = '#' then skipGap true rest
    else character :: rest

/-! ### Strings and keys -/

/-- A character of a key without quotes. -/
def isKeyCharacter (character : Char) : Bool :=
  character.isAlphanum || character = '_' || character = '-'

/-- The value of hexadecimal digits. -/
def hexadecimal? (digits : List Char) : Option Nat :=
  digits.foldl
    (fun value? digit => do return 16 * (← value?) + (← Hexadecimal.value? digit)) (some 0)

/-- The character that a one-letter escape stands for. -/
def escaped? (letter : Char) : Option Char :=
  [('b', '\x08'), ('t', '\t'), ('n', '\n'), ('f', '\x0c'), ('r', '\r'),
    (doubleQuote, doubleQuote), ('\\', '\\')].lookup letter

/-- Reads the rest of an escape after its backslash. -/
def escape? : List Char → Option (Char × List Char)
  | [] => none
  | letter :: rest =>
    let length := if letter = 'u' then 4 else if letter = 'U' then 8 else 0
    if length = 0 then (escaped? letter).map fun character => (character, rest)
    else do
      let value ← hexadecimal? (rest.take length)
      if length ≤ rest.length ∧ value.isValidChar then
        some (Char.ofNat value, rest.drop length)
      else none

/-- Reads text with escapes up to its closing quote, on one line. -/
def basic? : Nat → List Char → Option (List Char × List Char)
  | 0, _ => none
  | _ + 1, [] => none
  | fuel + 1, character :: rest =>
    if character = doubleQuote then some ([], rest)
    else if character = '\n' then none
    else if character = '\\' then do
      let (character, rest) ← escape? rest
      let (text, final) ← basic? fuel rest
      return (character :: text, final)
    else do
      let (text, final) ← basic? fuel rest
      return (character :: text, final)

/-- Reads text without escapes up to its closing quote, on one line. -/
def literal? : List Char → Option (List Char × List Char)
  | [] => none
  | character :: rest =>
    if character = singleQuote then some ([], rest)
    else if character = '\n' then none
    else (literal? rest).map fun (text, final) => (character :: text, final)

/--
Moves over the text of a string of several lines, which ends in three quotes. Up to two
quotes may stand in front of these, and one more `afterBackslash`, that is, behind an
escaped backslash.
-/
def longString? (quote : Char) (escapes : Bool) : Nat → Bool → List Char → Option (List Char)
  | 0, _, _ => none
  | _ + 1, _, [] => none
  | fuel + 1, afterBackslash, character :: rest =>
    if character = quote ∧ rest.take 2 = [quote, quote] then
      let after := rest.drop 2
      let extra := (after.takeWhile (· = quote)).length
      if extra ≤ (if afterBackslash then 3 else 2) then some (after.drop extra) else none
    else if escapes ∧ character = '\\' then
      let blanks := rest.takeWhile isSpace
      if (rest.drop blanks.length).head? = some '\n' then
        longString? quote escapes fuel false (rest.drop blanks.length)
      else do
        let (_, after) ← escape? rest
        longString? quote escapes fuel (rest.head? = some '\\') after
    else longString? quote escapes fuel false rest

/-- Reads one name of a key. -/
def name? (text : List Char) : Option (String × List Char) :=
  match text with
  | [] => none
  | character :: rest =>
    if character = doubleQuote then
      (basic? (rest.length + 1) rest).map fun (name, after) => (String.ofList name, after)
    else if character = singleQuote then
      (literal? rest).map fun (name, after) => (String.ofList name, after)
    else
      let name := text.takeWhile isKeyCharacter
      if name = [] then none else some (String.ofList name, text.dropWhile isKeyCharacter)

/-- Reads a key: names with points between them. -/
def key? : Nat → List Char → Option (Path × List Char)
  | 0, _ => none
  | fuel + 1, text => do
    let (name, after) ← name? (skipSpaces text)
    match skipSpaces after with
    | '.' :: rest => do
      let (path, final) ← key? fuel rest
      return (name :: path, final)
    | after => return ([name], after)

/-- Moves over a character that has to be there. -/
def expect? (character : Char) (text : List Char) : Option (List Char) :=
  if text.head? = some character then some text.tail else none

/-- Moves over the end of a line, with a comment in front of it. -/
def lineEnd? (text : List Char) : Option (List Char) :=
  match skipSpaces text with
  | [] => some []
  | '\n' :: rest => some rest
  | '#' :: rest => some (rest.dropWhile (· ≠ '\n'))
  | _ => none

end Stencil.Toml
