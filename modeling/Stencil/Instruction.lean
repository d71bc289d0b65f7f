import Stencil.Mnemonic
import Stencil.Operand

/-!
# Instructions

An instruction is an operation with its two operands; an operand that the
operation does not take is absent. The text of an instruction shows exactly the
operands that its operation takes.
-/

namespace Stencil

/-- One statement of a program. -/
structure Instruction where
  mnemonic : Mnemonic
  destination : Operand := .absent
  source : Operand := .absent
deriving DecidableEq, Inhabited

namespace Instruction

/-- The text of an instruction in the source language, without its final semicolon. -/
def text (instruction : Instruction) : String :=
  match instruction.mnemonic.form with
  | .plain => instruction.mnemonic.text
  | .destination => instruction.mnemonic.text ++ " " ++ instruction.destination.text
  | .source => instruction.mnemonic.text ++ " " ++ instruction.source.text
  | .destinationAndSource =>
    instruction.mnemonic.text ++ " " ++ instruction.destination.text ++ ", " ++
      instruction.source.text

end Instruction

end Stencil
