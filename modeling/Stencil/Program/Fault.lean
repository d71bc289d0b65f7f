import Stencil.Category
import Stencil.Text.Quoted
import Stencil.Token

/-!
# Refusals of the parser

A token list is refused either at one of its tokens, which cannot continue what
has been read, or at its end, where something is still missing. The fault says
why a token was refused; together with the token it gives the message.
-/

namespace Stencil

/-- The parts of a statement in which a token may be out of place. -/
inductive Place where
  | statement
  | destination
  | source
  | address
  | displacement
deriving DecidableEq

/-- The reasons for which a token is refused. -/
inductive Fault where
  | unexpected (place : Place)
  | missingSemicolon
  | missingComma
  | missingBracket
  | missingNumber
  | missingAddress
  | templatedDestination
  | unknownMnemonic
  | unknownRegister
  | malformedLiteral
  | displacementRange (negative : Bool)
  | immediateRange (negative : Bool)
  | addressRange
deriving DecidableEq

/-- Where the reading of a token list stopped. -/
inductive Stop where
  | endOfInput
  | refused (token : Token) (fault : Fault)
deriving DecidableEq

/-- A refused token list: where reading stopped, and the last token of the list. -/
structure ParseError where
  stop : Stop
  last : Option Token
deriving DecidableEq

namespace Place

/-- The words for a place. -/
def text : Place → String
  | statement => "at start of instruction"
  | destination => "in destination"
  | source => "in source"
  | address => "in address"
  | displacement => "in displacement"

end Place

namespace Fault

/-- The category of a fault. -/
def category : Fault → Category
  | unexpected _ => .invalidText
  | missingSemicolon => .invalidText
  | missingComma => .invalidText
  | missingBracket => .invalidText
  | missingNumber => .invalidText
  | missingAddress => .invalidText
  | templatedDestination => .invalidText
  | unknownMnemonic => .unknownMnemonic
  | unknownRegister => .unknownRegister
  | malformedLiteral => .invalidLiteral
  | displacementRange _ => .invalidLiteral
  | immediateRange _ => .invalidLiteral
  | addressRange => .invalidLiteral

/-- The words for a mark that was expected and the text found in its place. -/
def missingText (mark : Mark) (context found : String) : String :=
  "expected " ++ Quoted.character mark.character ++ " " ++ context ++ ", found " ++
    Quoted.text found

/-- A literal as it was meant, with the sign in front of it. -/
def signedText (negative : Bool) (literal : String) : String :=
  (if negative then "-" else "") ++ literal

/-- The words for a fault at a token of the given text. -/
def text (found : String) : Fault → String
  | unexpected place => "unexpected " ++ Quoted.text found ++ " " ++ place.text
  | missingSemicolon => missingText .semicolon "after instruction" found
  | missingComma => missingText .comma "between operands" found
  | missingBracket => missingText .closeBracket "to close address" found
  | missingNumber => "expected a number, found " ++ Quoted.text found
  | missingAddress => "expected an address, found " ++ Quoted.text found
  | templatedDestination => "a destination cannot be a template"
  | unknownMnemonic => found
  | unknownRegister => found
  | malformedLiteral => found
  | displacementRange negative =>
    "displacement " ++ signedText negative found ++ " does not fit in a signed byte"
  | immediateRange negative => signedText negative found ++ " does not fit in 32 bits"
  | addressRange => "address " ++ found ++ " does not fit in 32 bits"

end Fault

namespace Stop

/-- The category of a stop. -/
def category : Stop → Category
  | endOfInput => .unexpectedEnd
  | refused _ fault => fault.category

end Stop

namespace ParseError

/-- The category of a refused token list. -/
def category (error : ParseError) : Category := error.stop.category

/-- The message for a refused token list. -/
def message (error : ParseError) : String :=
  match error.stop with
  | .refused token fault =>
    token.position.text ++ ": " ++ fault.text token.text ++ ": " ++ fault.category.text
  | .endOfInput =>
    match error.last with
    | none => Category.unexpectedEnd.text
    | some last =>
      last.position.text ++ ": after " ++ Quoted.text last.text ++ ": " ++
        Category.unexpectedEnd.text

end ParseError

end Stencil
