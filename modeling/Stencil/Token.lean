/-!
# Tokens

The words, numbers and marks of the source language, each with the place at
which it starts. Lines and columns count from one, and columns count bytes.
-/

namespace Stencil

/-- A place in a source text. -/
structure Position where
  line : Int
  column : Int
deriving DecidableEq, Inhabited

/-- The marks of the source language. -/
inductive Mark where
  | comma
  | semicolon
  | plus
  | minus
  | openBracket
  | closeBracket
  | dollar
deriving DecidableEq, Inhabited

/-- The class of a token. -/
inductive TokenClass where
  /-- A word that starts with a letter or an underscore. -/
  | word
  /-- A word that starts with a digit. -/
  | number
  | mark
  /-- A class that no source text gives; the grammar has no place for it. -/
  | unknown (code : Int64)
deriving DecidableEq, Inhabited

/-- A word, number or mark with its place. -/
structure Token where
  kind : TokenClass
  text : String
  position : Position
deriving DecidableEq, Inhabited

namespace Position

/-- The place at which every source text starts. -/
def start : Position := ⟨1, 1⟩

/-- The start of the next line. -/
def nextLine (position : Position) : Position := ⟨position.line + 1, 1⟩

/-- The place a number of bytes further on in the same line. -/
def advance (position : Position) (count : Nat) : Position :=
  ⟨position.line, position.column + count⟩

/-- The text of a place in messages. -/
def text (position : Position) : String :=
  toString position.line ++ ":" ++ toString position.column

end Position

namespace Mark

/-- The marks. -/
def all : List Mark := [comma, semicolon, plus, minus, openBracket, closeBracket, dollar]

/-- The character of a mark. -/
def character : Mark → Char
  | comma => ','
  | semicolon => ';'
  | plus => '+'
  | minus => '-'
  | openBracket => '['
  | closeBracket => ']'
  | dollar => '$'

/-- The text of a mark. -/
def text (mark : Mark) : String := String.singleton mark.character

end Mark

namespace TokenClass

/-- The code of a class. -/
def code : TokenClass → Int64
  | word => 0
  | number => 1
  | mark => 2
  | unknown code => code

/-- The class with the given code. -/
def ofCode (code : Int64) : TokenClass :=
  if code = 0 then .word
  else if code = 1 then .number
  else if code = 2 then .mark
  else .unknown code

end TokenClass

namespace Token

/-- The token is the given mark. -/
def isMark (token : Token) (mark : Mark) : Bool :=
  token.kind = .mark ∧ token.text = mark.text

/-- The token is a word. -/
def isWord (token : Token) : Bool := token.kind = .word

/-- The token is a number. -/
def isNumber (token : Token) : Bool := token.kind = .number

/-- The place directly after a token. -/
def endPosition (token : Token) : Position :=
  token.position.advance token.text.utf8ByteSize

/--
The semicolon that closes the last statement of a source text, so that the text
itself may leave it out. It stands directly after the last token.
-/
def terminator (tokens : List Token) : Token :=
  { kind := .mark
    text := Mark.semicolon.text
    position := (tokens.getLast?.map endPosition).getD .start }

end Token

end Stencil
