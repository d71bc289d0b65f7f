import Mathlib.Data.List.DropRight
import Stencil.Proofs.Layout

/-!
# Tokens and the text that they come from

A text that the lexer reads falls into gaps and tokens, and nothing else: in front of each
token and behind the last one stands a gap, which may be empty. A word or number ends
where no letter, digit or underscore follows, and the place of a token is that of its
first byte.

The lexer counts lines and columns on its way and does not count the columns of a comment.
Its count is right at every token nevertheless, because a gap with a comment in it goes
on to the next line, where the columns start again.
-/

namespace Stencil

/-- The place of the byte that follows some bytes of a text. -/
def Position.behind (before : List UInt8) : Position :=
  { line := 1 + before.count Lexer.newline
    column := 1 + (before.rtakeWhile (· != Lexer.newline)).length }

namespace Position

theorem behind_nil : behind [] = start := by
  simp [behind, start]

theorem behind_concat_newline (before : List UInt8) :
    behind (before ++ [Lexer.newline]) = (behind before).nextLine := by
  rw [behind, List.rtakeWhile_concat_neg _ _ _ (by simp)]
  simp [behind, nextLine, Int.add_assoc]

theorem behind_concat (before : List UInt8) {byte : UInt8} (inLine : byte ≠ Lexer.newline) :
    behind (before ++ [byte]) = (behind before).advance 1 := by
  rw [behind, List.rtakeWhile_concat_pos _ _ _ (by simpa using inLine)]
  simp [behind, advance, Int.add_assoc, inLine]

theorem behind_append (before : List UInt8) {text : List UInt8} (inLine : Lexer.newline ∉ text) :
    behind (before ++ text) = (behind before).advance text.length := by
  induction text generalizing before with
  | nil => simp
  | cons byte text ih =>
      rw [List.mem_cons, not_or] at inLine
      rw [List.append_cons, ih _ inLine.2, behind_concat before (Ne.symm inLine.1),
        advance_advance, List.length_cons, Nat.add_comm]

end Position

namespace Lexer

/-! ### Gaps -/

namespace Gap

theorem append {first second : List UInt8} (gap : Gap first) (next : Gap second) :
    Gap (first ++ second) := by
  induction gap with
  | empty => exact next
  | blank blank _ ih => exact .blank blank ih
  | newline _ ih => exact .newline ih
  | comment isComment _ ih =>
      rw [List.append_assoc, List.cons_append]
      exact .comment isComment ih

theorem append_final {first second : List UInt8} (gap : Gap first) (final : FinalGap second) :
    FinalGap (first ++ second) := by
  cases final with
  | closed next => exact .closed (gap.append next)
  | comment next isComment =>
      rw [← List.append_assoc]
      exact .comment (gap.append next) isComment

end Gap

/-- The bytes are a gap to the end, or a gap in front of a byte that is no part of it. -/
inductive Skipped : List UInt8 → Prop where
  | final {bytes : List UInt8} (gap : FinalGap bytes) : Skipped bytes
  | gap {gap rest : List UInt8} {byte : UInt8} (isGap : Gap gap) (notNewline : byte ≠ newline)
      (notBlank : isBlank byte = false) (noComment : startsComment byte rest = false) :
      Skipped (gap ++ byte :: rest)

theorem Skipped.behind {gap bytes : List UInt8} (isGap : Gap gap) (skipped : Skipped bytes) :
    Skipped (gap ++ bytes) := by
  cases skipped with
  | final final => exact .final (isGap.append_final final)
  | gap next notNewline notBlank noComment =>
      rw [← List.append_assoc]
      exact .gap (isGap.append next) notNewline notBlank noComment

/-- A comment ends in front of a line end or at the end of the text. -/
theorem exists_comment {byte : UInt8} {rest : List UInt8}
    (starts : startsComment byte rest = true) :
    ∃ comment tail, byte :: rest = comment ++ tail ∧ Comment comment ∧
      (tail = [] ∨ ∃ later, tail = newline :: later) := by
  have inLine : ∀ bytes : List UInt8, newline ∉ bytes.takeWhile (· != newline) := by
    intro bytes mem
    simpa using List.mem_takeWhile_imp mem
  refine ⟨byte :: rest.takeWhile (· != newline), rest.dropWhile (· != newline), ?_, ?_, ?_⟩
  · rw [List.cons_append, List.takeWhile_append_dropWhile]
  · simp only [startsComment, Bool.or_eq_true, beq_iff_eq, Bool.and_eq_true] at starts
    rcases starts with rfl | ⟨rfl, second⟩
    · exact .hash (inLine rest)
    · rcases List.head?_eq_some_iff.mp second with ⟨text, rfl⟩
      rw [List.takeWhile_cons_of_pos (by decide)]
      exact .slashes (inLine text)
  · cases tail : rest.dropWhile (· != newline) with
    | nil => exact .inl rfl
    | cons first later =>
        right
        have stops := List.head?_dropWhile_not (· != newline) rest
        rw [tail] at stops
        simp only [List.head?_cons, bne_eq_false_iff_eq] at stops
        exact ⟨later, by rw [stops]⟩

theorem skipped (bytes : List UInt8) : Skipped bytes := by
  induction size : bytes.length using Nat.strong_induction_on generalizing bytes with
  | _ size ih =>
      subst size
      rcases bytes with _ | ⟨byte, rest⟩
      · exact .final (.closed .empty)
      · by_cases isNewline : byte = newline
        · subst isNewline
          exact .behind (.newline .empty) (ih rest.length (by simp) rest rfl)
        · by_cases blank : isBlank byte = true
          · exact .behind (.blank blank .empty) (ih rest.length (by simp) rest rfl)
          · by_cases starts : startsComment byte rest = true
            · rcases exists_comment starts with ⟨comment, _, split, isComment, rfl | ⟨later, rfl⟩⟩
              · rw [split, List.append_nil]
                exact .final (.comment .empty isComment)
              · have shorter : later.length < (byte :: rest).length := by
                  rw [split, List.length_append, List.length_cons]
                  omega
                rw [split, List.append_cons]
                exact .behind (.comment isComment .empty) (ih later.length shorter later rfl)
            · exact .gap .empty isNewline (by simpa using blank) (by simpa using starts)

/-- Behind a gap the count of lines and columns is right if it is right in front of it. -/
theorem tokensFrom_gap {gap : List UInt8} (isGap : Gap gap) (before rest : List UInt8) :
    tokensFrom (.behind before) (gap ++ rest) = tokensFrom (.behind (before ++ gap)) rest := by
  induction isGap generalizing before with
  | empty => simp
  | @blank byte gap blank _ ih =>
      have inLine : byte ≠ newline := by
        rintro rfl
        cases blank
      rw [List.cons_append, tokensFrom_blank blank, ← Position.behind_concat before inLine, ih,
        ← List.append_cons]
  | newline _ ih =>
      rw [List.cons_append, tokensFrom_newline, ← Position.behind_concat_newline, ih,
        ← List.append_cons]
  | @comment comment gap isComment _ ih =>
      -- The columns of the comment are not counted, and the line end starts them again.
      have inLine : newline ∉ comment := by
        cases isComment with
        | hash inLine => simpa [newline, hash] using inLine
        | slashes inLine => simpa [newline, slash] using inLine
      have counted : (Position.behind before).nextLine =
          .behind (before ++ comment ++ [newline]) := by
        rw [Position.behind_concat_newline, Position.behind_append before inLine]
        rfl
      rw [List.append_assoc, List.cons_append, tokensFrom_comment isComment (by simp),
        tokensFrom_newline, counted, ih]
      simp

/-! ### Lexemes -/

theorem exists_mark {byte : UInt8} (marked : isMark byte = true) :
    ∃ mark : Mark, byte = byteOf mark.character := by
  simp only [isMark, List.any_eq_true, beq_iff_eq] at marked
  rcases marked with ⟨mark, _, same⟩
  exact ⟨mark, same.symm⟩

namespace Lexeme

theorem length_pos (lexeme : Lexeme) : 0 < lexeme.bytes.length := by
  cases lexeme <;> exact Nat.succ_pos _

theorem newline_not_mem (lexeme : Lexeme) : newline ∉ lexeme.bytes := by
  intro mem
  rcases lexeme.bytes_cases with inside | ⟨mark, bytes_eq⟩
  · have isWord := inside newline mem
    rw [isWordByte_newline] at isWord
    cases isWord
  · rw [bytes_eq, List.mem_singleton] at mem
    cases mark <;> cases mem

end Lexeme

/-- What starts behind a gap is a lexeme, or the lexer refuses it. -/
theorem lexeme_or_refused {byte : UInt8} {rest : List UInt8} (notNewline : byte ≠ newline)
    (notBlank : isBlank byte = false) (noComment : startsComment byte rest = false) :
    (∃ (lexeme : Lexeme) (after : List UInt8), byte :: rest = lexeme.bytes ++ after ∧
      (lexeme.isOpen = true → Boundary after)) ∨
    ∀ position, tokensFrom position (byte :: rest) = .error { position, byte } := by
  by_cases inside : isWordByte byte = true
  · left
    have insideRest : ∀ other ∈ rest.takeWhile isWordByte, isWordByte other = true :=
      fun other mem => List.mem_takeWhile_imp mem
    have split : byte :: rest =
        (byte :: rest.takeWhile isWordByte) ++ rest.dropWhile isWordByte := by
      rw [List.cons_append, List.takeWhile_append_dropWhile]
    have boundary : Boundary (rest.dropWhile isWordByte) := by
      intro other isFirst
      have stops := List.head?_dropWhile_not isWordByte rest
      rw [isFirst] at stops
      exact stops
    by_cases digit : isDigit byte = true
    · exact ⟨.number byte _ digit insideRest, _, split, fun _ => boundary⟩
    · have letter : isLetter byte = true := by
        simpa [isWordByte, digit] using inside
      exact ⟨.word byte _ letter insideRest, _, split, fun _ => boundary⟩
  · by_cases marked : isMark byte = true
    · left
      rcases exists_mark marked with ⟨mark, rfl⟩
      exact ⟨.mark mark, rest, rfl, fun isOpen => by cases isOpen⟩
    · right
      intro position
      rw [tokensFrom, if_neg notNewline, if_neg (by simp [notBlank]), if_neg (by simp [noComment]),
        if_neg inside, if_neg marked]

/-! ### The pieces of a text -/

/-- A token with the gap in front of it. -/
structure Piece where
  gap : List UInt8
  token : Token

namespace Piece

/-- The bytes of a piece. -/
def bytes (piece : Piece) : List UInt8 :=
  piece.gap ++ bytesOf piece.token.text

/-- The piece is right between the bytes in front of it and those behind it. -/
structure Faithful (before : List UInt8) (piece : Piece) (after : List UInt8) : Prop where
  gap : Gap piece.gap
  /-- The class of the token fits its text. -/
  token : ∃ lexeme : Lexeme, lexeme.IsReadAs piece.token
  /-- A word or number is not cut short. -/
  ends : piece.token.kind ≠ .mark → Boundary after
  place : piece.token.position = .behind (before ++ piece.gap)

end Piece

/-- The bytes behind `before` fall into faithful pieces with these tokens and a last gap. -/
def Divided (before bytes : List UInt8) (tokens : List Token) : Prop :=
  ∃ (pieces : List Piece) (final : List UInt8),
    pieces.map Piece.token = tokens ∧ bytes = pieces.flatMap Piece.bytes ++ final ∧
    FinalGap final ∧
    ∀ earlier piece later, pieces = earlier ++ piece :: later →
      piece.Faithful (before ++ earlier.flatMap Piece.bytes) (later.flatMap Piece.bytes ++ final)

theorem divided_final {gap : List UInt8} (isGap : FinalGap gap) (before : List UInt8) :
    Divided before gap [] :=
  ⟨[], gap, rfl, rfl, isGap, by simp⟩

theorem divided_lexeme {before gap after : List UInt8} {lexeme : Lexeme} {tokens : List Token}
    (isGap : Gap gap) (ends : lexeme.isOpen = true → Boundary after)
    (divided : Divided (before ++ gap ++ lexeme.bytes) after tokens) :
    Divided before (gap ++ (lexeme.bytes ++ after))
      (lexeme.token (.behind (before ++ gap)) :: tokens) := by
  rcases divided with ⟨pieces, final, rfl, rfl, isFinal, faithful⟩
  let piece : Piece := { gap, token := lexeme.token (.behind (before ++ gap)) }
  have bytes_eq : piece.bytes = gap ++ lexeme.bytes :=
    congrArg (gap ++ ·) (lexeme.isReadAs_token (.behind (before ++ gap))).2
  refine ⟨piece :: pieces, final, rfl, ?_, isFinal, ?_⟩
  · rw [List.flatMap_cons, bytes_eq]
    simp
  · intro earlier other later split
    cases earlier with
    | nil =>
        rw [List.nil_append, List.cons.injEq] at split
        rcases split with ⟨rfl, rfl⟩
        refine ⟨isGap, ⟨lexeme, lexeme.isReadAs_token _⟩, ?_, by simp [piece, Lexeme.token]⟩
        intro notMark
        apply ends
        cases lexeme with
        | mark sign => exact absurd rfl notMark
        | _ => rfl
    | cons first earlier =>
        rw [List.cons_append, List.cons.injEq] at split
        rcases split with ⟨rfl, rfl⟩
        have inner := faithful earlier other later rfl
        rw [List.flatMap_cons, bytes_eq, ← List.append_assoc, ← List.append_assoc]
        exact inner

theorem divided_of_tokensFrom {before bytes : List UInt8} {tokens : List Token}
    (read : tokensFrom (.behind before) bytes = .ok tokens) : Divided before bytes tokens := by
  induction size : bytes.length using Nat.strong_induction_on
    generalizing before bytes tokens with
  | _ size ih =>
      subst size
      cases skipped bytes with
      | final gap =>
          rcases Reads.finalGap gap (.behind before) with ⟨_, ended, rfl⟩
          rw [ended, Except.ok.injEq] at read
          rw [← read]
          exact divided_final gap before
      | @gap gap rest byte isGap notNewline notBlank noComment =>
          rw [tokensFrom_gap isGap] at read
          rcases lexeme_or_refused notNewline notBlank noComment with
            ⟨lexeme, after, split, ends⟩ | refused
          · rw [split, tokensFrom_lexeme ends, Outcome.map_eq_ok_iff] at read
            rcases read with ⟨later, read, rfl⟩
            rw [← Position.behind_append _ lexeme.newline_not_mem] at read
            have shorter : after.length < (gap ++ byte :: rest).length := by
              have positive := lexeme.length_pos
              rw [split, List.length_append, List.length_append]
              omega
            rw [split]
            exact divided_lexeme isGap ends (ih after.length shorter read rfl)
          · rw [refused] at read
            cases read

end Lexer

/--
A text that can be read is made of its tokens with gaps between them. The tokens stand there
in order with exactly their own bytes, and each one is a word, a number or a mark as its class
says; no letter, digit or underscore follows a word or a number; and the place of a token is
the line and the column of its first byte, both counted from one.
-/
theorem tokens_divide_source {source : List UInt8} {tokens : List Token}
    (read : Lexer.tokens source = .ok tokens) :
    ∃ (pieces : List Lexer.Piece) (final : List UInt8),
      pieces.map Lexer.Piece.token = tokens ∧
      source = pieces.flatMap Lexer.Piece.bytes ++ final ∧ Lexer.FinalGap final ∧
      ∀ earlier piece later, pieces = earlier ++ piece :: later →
        piece.Faithful (earlier.flatMap Lexer.Piece.bytes)
          (later.flatMap Lexer.Piece.bytes ++ final) := by
  rw [Lexer.tokens, ← Position.behind_nil] at read
  rcases Lexer.divided_of_tokensFrom read with ⟨pieces, final, tokens_eq, split, isFinal, faithful⟩
  refine ⟨pieces, final, tokens_eq, split, isFinal, ?_⟩
  intro earlier piece later pieces_eq
  exact faithful earlier piece later pieces_eq

/-- Comments of both kinds, one directly behind a word, and a line end of two bytes. -/
theorem tokens_divide_source_comments :
    let source := Lexer.bytesOf "mov//\r\n\teax,#[\n 1_0 // ;"
    let tokens : List Token :=
      [⟨.word, "mov", ⟨1, 1⟩⟩, ⟨.word, "eax", ⟨2, 2⟩⟩, ⟨.mark, ",", ⟨2, 5⟩⟩,
        ⟨.number, "1_0", ⟨3, 2⟩⟩]
    Lexer.tokens source = .ok tokens ∧
    ∃ (pieces : List Lexer.Piece) (final : List UInt8),
      pieces.map Lexer.Piece.token = tokens ∧
      source = pieces.flatMap Lexer.Piece.bytes ++ final ∧ Lexer.FinalGap final := by
  intro source tokens
  have read : Lexer.tokens source = .ok tokens := by
    decide +kernel
  rcases tokens_divide_source read with ⟨pieces, final, tokens_eq, split, isFinal, _⟩
  exact ⟨read, pieces, final, tokens_eq, split, isFinal⟩

end Stencil
