import Stencil.Category
import Stencil.Text.Quoted
import Stencil.Token

/-!
# From bytes to tokens

The source is a list of bytes. Blanks, line ends and comments separate tokens; a
comment starts with `#` or `//` and runs to the end of its line. A word or number
is a maximal run of letters, digits and underscores. Any other byte outside a
comment has to be a mark, and the first one that is not stops the work.
-/

namespace Stencil

/-- A byte that has no place in a source text. -/
structure StrayByte where
  position : Position
  byte : UInt8
deriving DecidableEq

namespace StrayByte

/-- The category of a stray byte. -/
def category (_ : StrayByte) : Category := .invalidText

/-- The message for a stray byte, which is shown as the character of the same number. -/
def message (stray : StrayByte) : String :=
  stray.position.text ++ ": unexpected character " ++
    Quoted.character (Char.ofUInt8 stray.byte) ++ ": " ++ stray.category.text

end StrayByte

namespace Lexer

/-- The byte of an ASCII character. -/
def byteOf (character : Char) : UInt8 := character.toNat.toUInt8

def newline : UInt8 := 10
def hash : UInt8 := 35
def slash : UInt8 := 47

/-- A space, a tab or a carriage return. -/
def isBlank (byte : UInt8) : Bool := byte == 32 || byte == 9 || byte == 13

/-- A digit. -/
def isDigit (byte : UInt8) : Bool := 48 ≤ byte && byte ≤ 57

/-- A letter or an underscore. -/
def isLetter (byte : UInt8) : Bool :=
  byte == 95 || (97 ≤ byte && byte ≤ 122) || (65 ≤ byte && byte ≤ 90)

/-- A letter, an underscore or a digit. -/
def isWordByte (byte : UInt8) : Bool := isLetter byte || isDigit byte

/-- The byte of a mark. -/
def isMark (byte : UInt8) : Bool := Mark.all.any fun mark => byteOf mark.character == byte

/-- A comment starts at `byte` if `rest` follows it. -/
def startsComment (byte : UInt8) (rest : List UInt8) : Bool :=
  byte == hash || (byte == slash && rest.head? == some slash)

/-- The text of ASCII bytes. -/
def textOf (bytes : List UInt8) : String := String.ofList (bytes.map Char.ofUInt8)

/-- The bytes of a text. -/
def bytesOf (text : String) : List UInt8 := text.toUTF8.data.toList

/-- The class of a word or number, which its first byte decides. -/
def wordClass (first : UInt8) : TokenClass := if isDigit first then .number else .word

/-- The tokens of the bytes from a position on. -/
def tokensFrom (position : Position) : List UInt8 → Except StrayByte (List Token)
  | [] => .ok []
  | byte :: rest =>
    if byte = newline then tokensFrom position.nextLine rest
    else if isBlank byte then tokensFrom (position.advance 1) rest
    else if startsComment byte rest then tokensFrom position (rest.dropWhile (· != newline))
    else if isWordByte byte then
      let word := byte :: rest.takeWhile isWordByte
      let token := { kind := wordClass byte, text := textOf word, position }
      (tokensFrom (position.advance word.length) (rest.dropWhile isWordByte)).map (token :: ·)
    else if isMark byte then
      let token := { kind := .mark, text := textOf [byte], position }
      (tokensFrom (position.advance 1) rest).map (token :: ·)
    else .error { position, byte }
termination_by bytes => bytes.length
decreasing_by
  · exact Nat.lt_succ_self _
  · exact Nat.lt_succ_self _
  · exact Nat.lt_succ_of_le (List.dropWhile_suffix _).length_le
  · exact Nat.lt_succ_of_le (List.dropWhile_suffix _).length_le
  · exact Nat.lt_succ_self _

/-- The tokens of a source text. -/
def tokens (source : List UInt8) : Except StrayByte (List Token) :=
  tokensFrom .start source

end Lexer

end Stencil
