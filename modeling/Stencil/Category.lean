/-!
# Categories of refusal

Every refusal of the assembler belongs to one of a few categories, and its
message ends in the fixed text of that category. What precedes the text tells
where the refusal arose.
-/

namespace Stencil

/-- The categories of refusal. -/
inductive Category where
  | invalidText
  | unknownMnemonic
  | unknownRegister
  | unexpectedEnd
  | invalidLiteral
  | unsupportedOperands
  | templatedShift
  | shiftCountRange
  | stackBase
  | slotCount
  | valueRange
deriving DecidableEq, Inhabited

namespace Category

/-- The text that ends every message of a category. -/
def text : Category → String
  | invalidText => "syntax error"
  | unknownMnemonic => "unknown instruction"
  | unknownRegister => "unknown register"
  | unexpectedEnd => "unexpected end of input"
  | invalidLiteral => "invalid literal"
  | unsupportedOperands => "unsupported operand combination"
  | templatedShift => "shift count cannot be a template"
  | shiftCountRange => "shift count out of range"
  | stackBase => "esp cannot be a memory base without a SIB byte"
  | slotCount => "template value count mismatch"
  | valueRange => "value does not fit in 32 bits"

end Category

end Stencil
