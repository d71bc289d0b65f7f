import Mathlib.Data.List.Forall2
import Stencil.Program.Parser
import Stencil.Proofs.Outcome
import Stencil.Token.Lexer

/-!
# Places do not matter

The place of a token only shows in messages. Wherever a text stands, the lexer gives it
the same lexemes, that is, tokens of the same classes and texts, or refuses it; and the
parser treats token lists alike if it cannot tell their tokens apart. What it completes
is then the same, and so is the category of a refusal.
-/

namespace Stencil

namespace Token

/-- The tokens differ in their places at most. -/
def SameLexeme (first second : Token) : Prop :=
  first.kind = second.kind ∧ first.text = second.text

end Token

namespace Lexer

/-- Both texts have the same lexemes, or both are refused. -/
inductive Agree : Except StrayByte (List Token) → Except StrayByte (List Token) → Prop where
  | read {first second : List Token} (same : List.Forall₂ Token.SameLexeme first second) :
      Agree (.ok first) (.ok second)
  | refused (first second : StrayByte) : Agree (.error first) (.error second)

theorem agree_cons {first second : Except StrayByte (List Token)} {token other : Token}
    (same : token.SameLexeme other) (agree : Agree first second) :
    Agree (first.map (token :: ·)) (second.map (other :: ·)) := by
  cases agree with
  | read rest => exact .read (.cons same rest)
  | refused stray otherStray => exact .refused stray otherStray

theorem tokensFrom_agree (bytes : List UInt8) (first second : Position) :
    Agree (tokensFrom first bytes) (tokensFrom second bytes) := by
  fun_induction tokensFrom first bytes generalizing second with
  | case1 position =>
      rw [tokensFrom]
      exact .read .nil
  | case2 position rest ih =>
      rw [tokensFrom, if_pos rfl]
      exact ih _
  | case3 position byte rest notNewline blank ih =>
      rw [tokensFrom, if_neg notNewline, if_pos blank]
      exact ih _
  | case4 position byte rest notNewline notBlank comment ih =>
      rw [tokensFrom, if_neg notNewline, if_neg notBlank, if_pos comment]
      exact ih _
  | case5 position byte rest notNewline notBlank noComment inside word token ih =>
      rw [tokensFrom, if_neg notNewline, if_neg notBlank, if_neg noComment, if_pos inside]
      exact agree_cons ⟨rfl, rfl⟩ (ih _)
  | case6 position byte rest notNewline notBlank noComment outside marked token ih =>
      rw [tokensFrom, if_neg notNewline, if_neg notBlank, if_neg noComment, if_neg outside,
        if_pos marked]
      exact agree_cons ⟨rfl, rfl⟩ (ih _)
  | case7 position byte rest notNewline notBlank noComment outside unmarked =>
      rw [tokensFrom, if_neg notNewline, if_neg notBlank, if_neg noComment, if_neg outside,
        if_neg unmarked]
      exact .refused _ _

end Lexer

namespace Parser

/-- The parser cannot tell the tokens apart. -/
def Alike (first second : Token) : Prop :=
  ∀ state : State, state.step first = state.step second

theorem alike_of_sameLexeme {first second : Token} (same : first.SameLexeme second) :
    Alike first second := by
  rcases first with ⟨kind, text, position⟩
  rcases second with ⟨_, _, other⟩
  rcases same with ⟨rfl, rfl⟩
  intro state
  cases state <;> rfl

theorem run_alike {first second : List Token} (alike : List.Forall₂ Alike first second)
    (state : State) :
    (run state first).mapError Stop.category = (run state second).mapError Stop.category := by
  induction alike generalizing state with
  | nil => rfl
  | @cons token other first second same _ ih =>
      rw [run, run, ← same state]
      cases state.step token with
      | error fault => rfl
      | ok step =>
          cases step with
          | next next => exact ih next
          | complete instruction =>
              dsimp only
              rw [Outcome.mapError_map, Outcome.mapError_map, ih]

theorem mapError_category_program (tokens : List Token) :
    (program tokens).mapError ParseError.category =
      (run .statement tokens).mapError Stop.category := by
  rw [program]
  cases run .statement tokens <;> rfl

end Parser

end Stencil
