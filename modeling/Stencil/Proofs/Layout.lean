import Stencil.Proofs.Composition

/-!
# Layout does not matter

A text is laid out from its lexemes: words, numbers and marks, with gaps between them.
A gap is made of blanks, line ends and comments, and may be left out except between two
words or numbers, which would otherwise be read as one. A comment lasts to the end of
its line, whatever it says; only behind the last lexeme it may lack the line end.

The lexer gives back the lexemes of every layout, and the parser does not look at the
places of tokens. So all layouts of the same lexemes assemble to the same template or
fail with the same category.
-/

namespace Stencil

namespace Position

@[simp]
theorem advance_zero (position : Position) : position.advance 0 = position := by
  simp [advance]

theorem advance_advance (position : Position) (first second : Nat) :
    (position.advance first).advance second = position.advance (first + second) := by
  simp [advance, Int.add_assoc]

end Position

namespace Lexer

/-- A word, a number or a mark as it stands in a text. -/
inductive Lexeme where
  | word (first : UInt8) (rest : List UInt8) (starts : isLetter first = true)
      (inside : ∀ byte ∈ rest, isWordByte byte = true)
  | number (first : UInt8) (rest : List UInt8) (starts : isDigit first = true)
      (inside : ∀ byte ∈ rest, isWordByte byte = true)
  | mark (mark : Mark)

namespace Lexeme

/-- The bytes of a lexeme. -/
def bytes : Lexeme → List UInt8
  | word first rest _ _ => first :: rest
  | number first rest _ _ => first :: rest
  | .mark sign => [byteOf sign.character]

/-- The class of the token of a lexeme. -/
def kind : Lexeme → TokenClass
  | word _ _ _ _ => .word
  | number _ _ _ _ => .number
  | mark _ => .mark

/-- A letter, a digit or an underscore behind the lexeme would belong to it. -/
def isOpen : Lexeme → Bool
  | word _ _ _ _ => true
  | number _ _ _ _ => true
  | mark _ => false

/-- The token of a lexeme at a place. -/
def token (lexeme : Lexeme) (position : Position) : Token :=
  { kind := lexeme.kind, text := textOf lexeme.bytes, position }

/-- The token is this lexeme, at whatever place. -/
def IsReadAs (lexeme : Lexeme) (token : Token) : Prop :=
  token.kind = lexeme.kind ∧ bytesOf token.text = lexeme.bytes

end Lexeme

/-- A comment without its line end. -/
inductive Comment : List UInt8 → Prop where
  | hash {text : List UInt8} (inLine : newline ∉ text) : Comment (hash :: text)
  | slashes {text : List UInt8} (inLine : newline ∉ text) : Comment (slash :: slash :: text)

/-- What may stand between two lexemes. -/
inductive Gap : List UInt8 → Prop where
  | empty : Gap []
  | blank {byte : UInt8} {rest : List UInt8} (blank : isBlank byte = true) (gap : Gap rest) :
      Gap (byte :: rest)
  | newline {rest : List UInt8} (gap : Gap rest) : Gap (newline :: rest)
  | comment {comment rest : List UInt8} (isComment : Comment comment) (gap : Gap rest) :
      Gap (comment ++ newline :: rest)

/-- What may stand behind the last lexeme: the last comment may run to the end of the text. -/
inductive FinalGap : List UInt8 → Prop where
  | closed {bytes : List UInt8} (gap : Gap bytes) : FinalGap bytes
  | comment {bytes comment : List UInt8} (gap : Gap bytes) (isComment : Comment comment) :
      FinalGap (bytes ++ comment)

/--
The bytes are the lexemes with gaps in front of them, between them and behind them.
`behindOpen` says that a word or number stands directly in front of the bytes, so that a gap
has to come before another one.
-/
inductive Layout : Bool → List Lexeme → List UInt8 → Prop where
  | final {behindOpen : Bool} {bytes : List UInt8} (gap : FinalGap bytes) :
      Layout behindOpen [] bytes
  | next {behindOpen : Bool} {gap bytes : List UInt8} {lexeme : Lexeme} {lexemes : List Lexeme}
      (isGap : Gap gap) (apart : behindOpen = true → lexeme.isOpen = true → gap ≠ [])
      (layout : Layout lexeme.isOpen lexemes bytes) :
      Layout behindOpen (lexeme :: lexemes) (gap ++ (lexeme.bytes ++ bytes))

/-! ### Comments and gaps -/

theorem dropWhile_of_inLine {text tail : List UInt8} (inLine : newline ∉ text)
    (ended : ∀ byte, tail.head? = some byte → byte = newline) :
    (text ++ tail).dropWhile (· != newline) = tail := by
  have inside : ∀ byte ∈ text, (byte != newline) = true := by
    intro byte byteMem
    simp only [bne_iff_ne, ne_eq]
    rintro rfl
    exact inLine byteMem
  rw [List.dropWhile_append_of_pos inside]
  cases tail with
  | nil => rfl
  | cons byte tail =>
      rw [ended byte rfl]
      simp

/-- A comment is skipped up to the end of its line or of the text. -/
theorem tokensFrom_comment {comment tail : List UInt8} (isComment : Comment comment)
    (ended : ∀ byte, tail.head? = some byte → byte = newline) (position : Position) :
    tokensFrom position (comment ++ tail) = tokensFrom position tail := by
  cases isComment with
  | @hash text inLine =>
      have starts : startsComment hash (text ++ tail) = true := by
        simp [startsComment]
      rw [List.cons_append, tokensFrom, if_neg (by decide), if_neg (by decide), if_pos starts,
        dropWhile_of_inLine inLine ended]
  | @slashes text inLine =>
      have starts : startsComment slash (slash :: text ++ tail) = true := by
        simp [startsComment]
      have skipped : newline ∉ slash :: text := by
        simpa [slash, newline] using inLine
      rw [List.cons_append, tokensFrom, if_neg (by decide), if_neg (by decide), if_pos starts,
        dropWhile_of_inLine skipped ended]

namespace Reads

variable {rest : List UInt8} {later : List Token → Prop}

theorem gap {bytes : List UInt8} (gap : Gap bytes) (reads : Reads rest later) :
    Reads (bytes ++ rest) later := by
  induction gap with
  | empty => exact reads
  | blank blank _ ih => exact Reads.blank blank ih
  | newline _ ih => exact Reads.newline ih
  | comment isComment _ ih =>
      intro position
      rw [List.append_assoc, List.cons_append,
        tokensFrom_comment isComment (by simp), tokensFrom_newline]
      exact ih position.nextLine

theorem finalGap {bytes : List UInt8} (gap : FinalGap bytes) : Reads bytes (· = []) := by
  cases gap with
  | closed gap =>
      have read := Reads.gap gap Reads.empty
      rwa [List.append_nil] at read
  | comment gap isComment =>
      apply Reads.gap gap
      intro position
      have ended : ∀ byte, ([] : List UInt8).head? = some byte → byte = Lexer.newline := by
        simp
      have skipped := tokensFrom_comment isComment ended position
      rw [List.append_nil] at skipped
      rw [skipped]
      exact Reads.empty position

end Reads

theorem boundary_nil : Boundary [] := by
  simp [Boundary]

theorem boundary_cons {byte : UInt8} (outside : isWordByte byte = false) (rest : List UInt8) :
    Boundary (byte :: rest) := by
  intro first isFirst
  simp only [List.head?_cons, Option.some.injEq] at isFirst
  subst isFirst
  exact outside

theorem boundary_of_comment {comment : List UInt8} (isComment : Comment comment)
    (rest : List UInt8) : Boundary (comment ++ rest) := by
  cases isComment with
  | hash inLine => exact boundary_cons (by decide) _
  | slashes inLine => exact boundary_cons (by decide) _

theorem isWordByte_of_isBlank {byte : UInt8} (blank : isBlank byte = true) :
    isWordByte byte = false := by
  cases inside : isWordByte byte with
  | false => rfl
  | true =>
      have notBlank := (not_separator_of_isWordByte inside).2.1
      simp [blank] at notBlank

theorem boundary_of_gap {bytes : List UInt8} (gap : Gap bytes) (nonempty : bytes ≠ [])
    (rest : List UInt8) : Boundary (bytes ++ rest) := by
  cases gap with
  | empty => exact absurd rfl nonempty
  | blank blank gap => exact boundary_cons (isWordByte_of_isBlank blank) _
  | newline gap => exact boundary_cons isWordByte_newline _
  | comment isComment gap =>
      rw [List.append_assoc]
      exact boundary_of_comment isComment _

theorem boundary_of_finalGap {bytes : List UInt8} (gap : FinalGap bytes) : Boundary bytes := by
  cases gap with
  | closed gap =>
      by_cases nonempty : bytes = []
      · rw [nonempty]
        exact boundary_nil
      · have boundary := boundary_of_gap gap nonempty []
        rwa [List.append_nil] at boundary
  | @comment front comment gap isComment =>
      by_cases nonempty : front = []
      · have boundary := boundary_of_comment isComment []
        rw [List.append_nil] at boundary
        rwa [nonempty, List.nil_append]
      · exact boundary_of_gap gap nonempty comment

/-- No word goes on in a layout behind a word. -/
theorem boundary_of_layout {lexemes : List Lexeme} {bytes : List UInt8}
    (layout : Layout true lexemes bytes) : Boundary bytes := by
  cases layout with
  | final gap => exact boundary_of_finalGap gap
  | @next _ gap bytes lexeme lexemes isGap apart layout =>
      by_cases nonempty : gap = []
      · -- Without a gap the next lexeme is a mark.
        cases lexeme with
        | word first rest starts inside => exact absurd nonempty (apart rfl rfl)
        | number first rest starts inside => exact absurd nonempty (apart rfl rfl)
        | mark sign =>
            rw [nonempty]
            exact boundary_cons (by cases sign <;> decide) _
      · exact boundary_of_gap isGap nonempty _

/-! ### Lexemes -/

/-- The tokens are the lexemes, in order. -/
def Spells (lexemes : List Lexeme) (tokens : List Token) : Prop :=
  List.Forall₂ Lexeme.IsReadAs lexemes tokens

theorem spells_cons {lexeme : Lexeme} {lexemes : List Lexeme} {tokens : List Token}
    (read : Then (One lexeme.IsReadAs) (Spells lexemes) tokens) :
    Spells (lexeme :: lexemes) tokens := by
  rcases read with ⟨_, after, rfl, ⟨token, rfl, isRead⟩, spells⟩
  exact .cons isRead spells

theorem not_isDigit_of_isLetter {byte : UInt8} (letter : isLetter byte = true) :
    isDigit byte = false := by
  simp only [isLetter, Bool.or_eq_true, beq_iff_eq, Bool.and_eq_true, decide_eq_true_eq,
    UInt8.le_iff_toNat_le, UInt8.reduceToNat, ← UInt8.toNat_inj] at letter
  simp only [isDigit, Bool.and_eq_false_iff, decide_eq_false_iff_not, UInt8.le_iff_toNat_le,
    UInt8.reduceToNat]
  omega

theorem isWordByte_of_isLetter {byte : UInt8} (letter : isLetter byte = true) :
    isWordByte byte = true := by
  simp [isWordByte, letter]

theorem isWordByte_of_isDigit {byte : UInt8} (digit : isDigit byte = true) :
    isWordByte byte = true := by
  simp [isWordByte, digit]

theorem ascii_of_isWordByte {byte : UInt8} (inside : isWordByte byte = true) :
    byte.toNat < 128 := by
  simp only [isWordByte, isLetter, isDigit, Bool.or_eq_true, Bool.and_eq_true, beq_iff_eq,
    decide_eq_true_eq, UInt8.le_iff_toNat_le, UInt8.reduceToNat, ← UInt8.toNat_inj] at inside
  omega

namespace Lexeme

/-- The bytes of a lexeme are those of words, or the byte of a mark. -/
theorem bytes_cases (lexeme : Lexeme) :
    (∀ byte ∈ lexeme.bytes, isWordByte byte = true) ∨
      ∃ mark : Mark, lexeme.bytes = [byteOf mark.character] := by
  cases lexeme with
  | word first rest starts inside =>
      exact .inl (List.forall_mem_cons.mpr ⟨isWordByte_of_isLetter starts, inside⟩)
  | number first rest starts inside =>
      exact .inl (List.forall_mem_cons.mpr ⟨isWordByte_of_isDigit starts, inside⟩)
  | mark sign => exact .inr ⟨sign, rfl⟩

theorem ascii (lexeme : Lexeme) : ∀ byte ∈ lexeme.bytes, byte.toNat < 128 := by
  rcases lexeme.bytes_cases with inside | ⟨mark, bytes_eq⟩
  · exact fun byte mem => ascii_of_isWordByte (inside byte mem)
  · rw [bytes_eq, List.forall_mem_singleton]
    cases mark <;> decide

theorem isReadAs_token (lexeme : Lexeme) (position : Position) :
    lexeme.IsReadAs (lexeme.token position) :=
  ⟨rfl, bytesOf_textOf lexeme.ascii⟩

end Lexeme

/-- A lexeme is read as its token, wherever it stands and unless a word goes on behind it. -/
theorem tokensFrom_lexeme {lexeme : Lexeme} {after : List UInt8}
    (ends : lexeme.isOpen = true → Boundary after) (position : Position) :
    tokensFrom position (lexeme.bytes ++ after) =
      (tokensFrom (position.advance lexeme.bytes.length) after).map
        (lexeme.token position :: ·) := by
  cases lexeme with
  | word first rest starts inside =>
      have isClass : wordClass first = .word := by
        simp [wordClass, not_isDigit_of_isLetter starts]
      have read := tokensFrom_word (List.forall_mem_cons.mpr
        ⟨isWordByte_of_isLetter starts, inside⟩) (ends rfl) position
      rwa [isClass] at read
  | number first rest starts inside =>
      have isClass : wordClass first = .number := by
        simp [wordClass, starts]
      have read := tokensFrom_word (List.forall_mem_cons.mpr
        ⟨isWordByte_of_isDigit starts, inside⟩) (ends rfl) position
      rwa [isClass] at read
  | mark sign =>
      have text_eq : sign.text = textOf [byteOf sign.character] := by
        cases sign <;> decide
      have read := tokensFrom_mark sign position after
      rwa [text_eq] at read

/-- The lexeme in front of a layout is read as one token. -/
theorem reads_lexeme {lexeme : Lexeme} {lexemes : List Lexeme} {bytes : List UInt8}
    (layout : Layout lexeme.isOpen lexemes bytes) (reads : Reads bytes (Spells lexemes)) :
    Reads (lexeme.bytes ++ bytes) (Then (One lexeme.IsReadAs) (Spells lexemes)) := by
  have ends : lexeme.isOpen = true → Boundary bytes := by
    intro isOpen
    rw [isOpen] at layout
    exact boundary_of_layout layout
  intro position
  rcases reads (position.advance lexeme.bytes.length) with ⟨tokens, read, spells⟩
  refine ⟨lexeme.token position :: tokens, ?_, [lexeme.token position], tokens, rfl, ?_, spells⟩
  · rw [tokensFrom_lexeme ends, read]
    rfl
  · exact ⟨_, rfl, lexeme.isReadAs_token position⟩

theorem reads_layout {behindOpen : Bool} {lexemes : List Lexeme} {bytes : List UInt8}
    (layout : Layout behindOpen lexemes bytes) : Reads bytes (Spells lexemes) := by
  induction layout with
  | final gap =>
      refine (Reads.finalGap gap).mono ?_
      rintro _ rfl
      exact .nil
  | next isGap apart layout ih =>
      apply Reads.gap isGap
      exact (reads_lexeme layout ih).mono fun _ => spells_cons

theorem sameLexeme_of_spells {lexemes : List Lexeme} {first second : List Token}
    (firstSpells : Spells lexemes first) (secondSpells : Spells lexemes second) :
    List.Forall₂ Token.SameLexeme first second := by
  induction firstSpells generalizing second with
  | nil =>
      cases secondSpells
      exact .nil
  | cons isRead _ ih =>
      cases secondSpells with
      | cons isReadAgain rest =>
          refine .cons ⟨?_, ?_⟩ (ih rest)
          · exact isRead.1.trans isReadAgain.1.symm
          · exact bytesOf_injective (isRead.2.trans isReadAgain.2.symm)

end Lexer

/-! ### Texts that the parser cannot tell apart -/

/-- Both texts give the same template, or both fail with the same category. -/
def AssembleAlike (first second : List UInt8) : Prop :=
  (∃ template, assemble first = .ok template ∧ assemble second = .ok template) ∨
  ∃ error other category, assemble first = .error error ∧ assemble second = .error other ∧
    error.category? = some category ∧ other.category? = some category

theorem assembleAlike_of_programOf {first second : List UInt8}
    (same : (Assembly.programOf first).mapError AssemblyError.category? =
      (Assembly.programOf second).mapError AssemblyError.category?) :
    AssembleAlike first second := by
  cases parsed : Assembly.programOf first with
  | ok program =>
      rw [parsed, Outcome.mapError_ok] at same
      have parsedAgain := Outcome.mapError_eq_ok_iff.mp same.symm
      cases linked : assembleProgram program with
      | ok template =>
          left
          refine ⟨template, ?_, ?_⟩
          · exact (assemble_eq_ok_iff first template).mpr ⟨program, parsed, linked⟩
          · exact (assemble_eq_ok_iff second template).mpr ⟨program, parsedAgain, linked⟩
      | error error =>
          right
          rcases category_of_assembleProgram_error linked with ⟨category, known⟩
          refine ⟨error, error, category, ?_, ?_, known, known⟩
          · exact (assemble_eq_error_iff first error).mpr (.inr ⟨program, parsed, linked⟩)
          · exact (assemble_eq_error_iff second error).mpr (.inr ⟨program, parsedAgain, linked⟩)
  | error error =>
      rw [parsed, Outcome.mapError_error] at same
      rcases Outcome.mapError_eq_error_iff.mp same.symm with ⟨other, failed, otherKnown⟩
      rcases category_of_programOf_error parsed with ⟨category, known⟩
      right
      refine ⟨error, other, category, ?_, ?_, known, otherKnown.trans known⟩
      · exact (assemble_eq_error_iff first error).mpr (.inl parsed)
      · exact (assemble_eq_error_iff second other).mpr (.inl failed)

theorem assembleAlike_of_tokens {first second : List UInt8} {firstTokens secondTokens : List Token}
    (read : Lexer.tokens first = .ok firstTokens)
    (readAgain : Lexer.tokens second = .ok secondTokens)
    (alike : List.Forall₂ Parser.Alike firstTokens secondTokens) : AssembleAlike first second := by
  have terminators := Parser.alike_of_isMark (Token.isMark_terminator firstTokens)
    (Token.isMark_terminator secondTokens)
  have closed := Parser.run_alike (List.rel_append alike (.cons terminators .nil)) .statement
  apply assembleAlike_of_programOf
  rw [mapError_category_programOf read, mapError_category_programOf readAgain,
    Parser.mapError_category_program, Parser.mapError_category_program, closed]

/--
Every layout of some lexemes is read as these lexemes, and any two of their layouts assemble
to the same template or fail with the same category.
-/
theorem layouts_assemble_alike (lexemes : List Lexer.Lexeme) :
    (∀ source, Lexer.Layout false lexemes source →
      ∃ tokens, Lexer.tokens source = .ok tokens ∧ Lexer.Spells lexemes tokens) ∧
    (∀ first second, Lexer.Layout false lexemes first → Lexer.Layout false lexemes second →
      AssembleAlike first second) := by
  constructor
  · intro source layout
    exact Lexer.reads_layout layout .start
  · intro first second firstLayout secondLayout
    rcases Lexer.reads_layout firstLayout .start with ⟨firstTokens, read, firstSpells⟩
    rcases Lexer.reads_layout secondLayout .start with ⟨secondTokens, readAgain, secondSpells⟩
    have same := Lexer.sameLexeme_of_spells firstSpells secondSpells
    exact assembleAlike_of_tokens read readAgain
      (same.imp fun _ _ => Parser.alike_of_sameLexeme)

/-- A comment stands directly behind a word, and the last one is not ended. -/
theorem layouts_assemble_alike_comments :
    let mov : Lexer.Lexeme := .word 109 [111, 118] (by decide) (List.all_eq_true.mp (by decide))
    let eax : Lexer.Lexeme := .word 101 [97, 120] (by decide) (List.all_eq_true.mp (by decide))
    let one : Lexer.Lexeme := .number 49 [] (by decide) (List.all_eq_true.mp (by decide))
    let lexemes := [mov, eax, .mark .comma, one]
    let plain := Lexer.bytesOf "mov eax,1"
    let commented := Lexer.bytesOf "# ;\nmov\teax//#\n,\r\n1 # 2"
    Lexer.Layout false lexemes plain ∧ Lexer.Layout false lexemes commented ∧
      (∃ tokens, Lexer.tokens commented = .ok tokens ∧ Lexer.Spells lexemes tokens) ∧
      AssembleAlike plain commented := by
  intro mov eax one lexemes plain commented
  have space : Lexer.isBlank 32 = true := by decide
  have tab : Lexer.isBlank 9 = true := by decide
  have ret : Lexer.isBlank 13 = true := by decide
  have plainLayout : Lexer.Layout false lexemes plain := by
    apply Lexer.Layout.next .empty (by simp)
    apply Lexer.Layout.next (.blank space .empty) (by simp)
    apply Lexer.Layout.next .empty (by simp [Lexer.Lexeme.isOpen])
    apply Lexer.Layout.next .empty (by simp [Lexer.Lexeme.isOpen])
    exact .final (.closed .empty)
  have commentedLayout : Lexer.Layout false lexemes commented := by
    have heading : Lexer.Comment (Lexer.bytesOf "# ;") := .hash (by decide)
    have behindWord : Lexer.Comment (Lexer.bytesOf "//#") := .slashes (by decide)
    have last : Lexer.Comment (Lexer.bytesOf "# 2") := .hash (by decide)
    apply Lexer.Layout.next (.comment heading .empty) (by simp)
    apply Lexer.Layout.next (.blank tab .empty) (by simp)
    apply Lexer.Layout.next (.comment behindWord .empty) (by simp)
    apply Lexer.Layout.next (.blank ret (.newline .empty)) (by simp)
    exact .final (.comment (.blank space .empty) last)
  refine ⟨plainLayout, commentedLayout, ?_, ?_⟩
  · exact (layouts_assemble_alike lexemes).1 commented commentedLayout
  · exact (layouts_assemble_alike lexemes).2 plain commented plainLayout commentedLayout

end Stencil
