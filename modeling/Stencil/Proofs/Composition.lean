import Mathlib.Data.List.TakeWhile
import Stencil.Proofs.Lexemes
import Stencil.Proofs.Lexing
import Stencil.Proofs.Linking
import Stencil.Proofs.Viability

/-!
# Assembling one text behind another

A line end and a semicolon separate two texts completely. The line end closes a comment
and a word of the first text, and the semicolon closes its last statement; so the second
text is read and parsed as if it stood alone. Its code follows that of the first text,
its slots move by the size of the code in front, and what is wrong with it is wrong with
the whole.
-/

namespace Stencil

namespace Lexer

/-! ### The seam -/

theorem isWordByte_newline : isWordByte newline = false := by
  decide

theorem startsComment_append_newline (byte : UInt8) (bytes rest : List UInt8) :
    startsComment byte (bytes ++ newline :: rest) = startsComment byte bytes := by
  cases bytes with
  | nil => simp [startsComment, newline, slash]
  | cons next bytes => rfl

theorem dropWhile_append_newline {inside : UInt8 → Bool} (outside : inside newline = false)
    (bytes rest : List UInt8) :
    (bytes ++ newline :: rest).dropWhile inside = bytes.dropWhile inside ++ newline :: rest := by
  induction bytes with
  | nil => simp [outside]
  | cons byte bytes ih =>
      by_cases holds : inside byte = true
      · simp [holds, ih]
      · simp [holds]

theorem takeWhile_append_newline (bytes rest : List UInt8) :
    (bytes ++ newline :: rest).takeWhile isWordByte = bytes.takeWhile isWordByte := by
  induction bytes with
  | nil => simp [isWordByte_newline]
  | cons byte bytes ih =>
      by_cases holds : isWordByte byte = true
      · simp [holds, ih]
      · simp [holds]

/-- The second text is read behind the first one, if that can be read. -/
def andThen (first second : Except StrayByte (List Token)) : Except StrayByte (List Token) :=
  first.bind fun tokens => second.map (tokens ++ ·)

theorem andThen_map_cons (token : Token) (first second : Except StrayByte (List Token)) :
    andThen (first.map (token :: ·)) second = (andThen first second).map (token :: ·) := by
  cases first with
  | error stray => rfl
  | ok tokens => cases second <;> rfl

theorem count_newline_dropWhile {inside : UInt8 → Bool} (outside : inside newline = false)
    (bytes : List UInt8) : (bytes.dropWhile inside).count newline = bytes.count newline := by
  have noNewline : (bytes.takeWhile inside).count newline = 0 := by
    rw [List.count_eq_zero]
    intro mem
    simp [List.mem_takeWhile_imp mem] at outside
  calc
    (bytes.dropWhile inside).count newline =
        (bytes.takeWhile inside).count newline + (bytes.dropWhile inside).count newline := by
      rw [noNewline, Nat.zero_add]
    _ = bytes.count newline := by
      rw [← List.count_append, List.takeWhile_append_dropWhile]

/-- Behind a line end a text is read as if it stood alone. -/
theorem tokensFrom_append_newline (position : Position) (bytes rest : List UInt8) :
    tokensFrom position (bytes ++ newline :: rest) =
      andThen (tokensFrom position bytes)
        (tokensFrom ⟨position.line + bytes.count newline + 1, 1⟩ rest) := by
  fun_induction tokensFrom position bytes with
  | case1 position =>
      have next_eq : ⟨position.line + ([] : List UInt8).count newline + 1, 1⟩ =
          position.nextLine := by
        simp [Position.nextLine]
      rw [List.nil_append, tokensFrom_newline, next_eq]
      cases tokensFrom position.nextLine rest <;> rfl
  | case2 position bytes ih =>
      have line_eq : position.nextLine.line + bytes.count newline + 1 =
          position.line + (bytes.count newline + 1 : Nat) + 1 := by
        simp only [Position.nextLine]
        omega
      rw [List.cons_append, tokensFrom_newline, ih, List.count_cons_self, line_eq]
  | case3 position byte bytes notNewline blank ih =>
      rw [List.cons_append, tokensFrom_blank blank, ih, List.count_cons_of_ne notNewline]
      rfl
  | case4 position byte bytes notNewline notBlank comment ih =>
      -- A comment that the text leaves open ends at the line end behind it.
      rw [List.cons_append, tokensFrom, if_neg notNewline, if_neg notBlank,
        startsComment_append_newline, if_pos comment, dropWhile_append_newline (by simp), ih,
        count_newline_dropWhile (by simp), List.count_cons_of_ne notNewline]
  | case5 position byte bytes notNewline notBlank noComment inside word token ih =>
      rw [andThen_map_cons, List.count_cons_of_ne notNewline,
        ← count_newline_dropWhile isWordByte_newline bytes, List.cons_append, tokensFrom,
        if_neg notNewline, if_neg notBlank, startsComment_append_newline, if_neg noComment,
        if_pos inside, takeWhile_append_newline, dropWhile_append_newline isWordByte_newline]
      exact congrArg (Except.map (token :: ·)) ih
  | case6 position byte bytes notNewline notBlank noComment outside marked token ih =>
      rw [andThen_map_cons, List.count_cons_of_ne notNewline, List.cons_append, tokensFrom,
        if_neg notNewline, if_neg notBlank, startsComment_append_newline, if_neg noComment,
        if_neg outside, if_pos marked]
      exact congrArg (Except.map (token :: ·)) ih
  | case7 position byte bytes notNewline notBlank noComment outside unmarked =>
      rw [List.cons_append, tokensFrom, if_neg notNewline, if_neg notBlank,
        startsComment_append_newline, if_neg noComment, if_neg outside, if_neg unmarked]
      rfl

theorem bytesOf_separator : bytesOf "\n;" = [newline, byteOf Mark.semicolon.character] := by
  decide

/-- The separated texts have the tokens of the first, a semicolon and those of the second. -/
theorem tokens_append_separator {first : List UInt8} {before : List Token}
    (read : tokens first = .ok before) (second : List UInt8) :
    ∃ semicolon after, semicolon.isMark .semicolon ∧
      tokens (first ++ bytesOf "\n;" ++ second) =
        (tokensFrom after second).map (before ++ semicolon :: ·) := by
  have behind := tokensFrom_append_newline .start first (byteOf Mark.semicolon.character :: second)
  generalize Position.mk (Position.start.line + first.count newline + 1) 1 = position at behind
  refine ⟨{ kind := .mark, text := Mark.semicolon.text, position }, position.advance 1, ?_, ?_⟩
  · simp [Token.isMark]
  · rw [tokens] at read
    rw [read, tokensFrom_mark] at behind
    rw [tokens, bytesOf_separator, List.append_assoc]
    refine behind.trans ?_
    cases tokensFrom (position.advance 1) second <;> rfl

end Lexer

namespace Parser

/-! ### Parsing behind a statement -/

theorem alike_of_isMark {first second : Token} {mark : Mark} (isMark : first.isMark mark)
    (isOther : second.isMark mark) : Alike first second := by
  apply alike_of_sameLexeme
  simp only [Token.isMark, decide_eq_true_eq] at isMark isOther
  exact ⟨isMark.1.trans isOther.1.symm, isMark.2.trans isOther.2.symm⟩

/-- Texts with the same lexemes, each with its terminator. -/
theorem alike_terminated {first second : List Token}
    (same : List.Forall₂ Token.SameLexeme first second) {firstMark secondMark : Token}
    (isMark : firstMark.isMark .semicolon) (isOther : secondMark.isMark .semicolon) :
    List.Forall₂ Alike (first ++ [firstMark]) (second ++ [secondMark]) := by
  apply List.rel_append
  · exact same.imp fun _ _ => alike_of_sameLexeme
  · exact .cons (alike_of_isMark isMark isOther) .nil

/-- A written semicolon ends the last statement as the terminator does. -/
theorem run_append_of_program {tokens : List Token} {instructions : List Instruction}
    {semicolon : Token} (isSemicolon : semicolon.isMark .semicolon)
    (accepted : program (tokens ++ [Token.terminator tokens]) = .ok instructions)
    (later : List Token) :
    run .statement (tokens ++ semicolon :: later) =
      (run .statement later).map (instructions ++ ·) := by
  -- The parser cannot tell the two semicolons apart, whose places differ.
  have same : List.Forall₂ Token.SameLexeme tokens tokens :=
    List.forall₂_same.mpr fun token _ => ⟨rfl, rfl⟩
  have ended := run_alike
    (alike_terminated same (Token.isMark_terminator tokens) isSemicolon) .statement
  rw [← mapError_category_program, accepted] at ended
  have reaches := reaches_of_run (Outcome.mapError_eq_ok_iff.mp ended.symm)
  rw [← reaches.run_append, List.append_assoc, List.singleton_append]

/-- Behind the semicolon a text is parsed as if it stood alone. -/
theorem program_append_of_program {tokens alone behind : List Token}
    {instructions : List Instruction} {semicolon : Token}
    (isSemicolon : semicolon.isMark .semicolon)
    (accepted : program (tokens ++ [Token.terminator tokens]) = .ok instructions)
    (same : List.Forall₂ Token.SameLexeme alone behind) :
    let whole := tokens ++ semicolon :: behind
    (program (whole ++ [Token.terminator whole])).mapError ParseError.category =
      ((program (alone ++ [Token.terminator alone])).mapError ParseError.category).map
        (instructions ++ ·) := by
  intro whole
  have later := run_alike (alike_terminated same (Token.isMark_terminator alone)
    (Token.isMark_terminator whole)) .statement
  rw [mapError_category_program, mapError_category_program, later, List.append_assoc,
    List.cons_append, run_append_of_program isSemicolon accepted, Outcome.mapError_map]

end Parser

namespace Template

/-! ### Linking behind other code -/

theorem slotsFrom_append (offset : Nat) (first second : List Encoding) :
    slotsFrom offset (first ++ second) =
      slotsFrom offset first ++ slotsFrom (offset + (codeOf first).length) second := by
  induction first generalizing offset with
  | nil => rfl
  | cons encoding rest ih =>
      rw [List.cons_append, slotsFrom, slotsFrom, ih, codeOf_cons, List.length_append,
        Nat.add_assoc, List.append_assoc]

theorem slotsFrom_add (distance offset : Nat) (encodings : List Encoding) :
    slotsFrom (offset + distance) encodings =
      (slotsFrom offset encodings).map (· + Int64.ofNat distance) := by
  induction encodings generalizing offset with
  | nil => rfl
  | cons encoding rest ih =>
      have moved : ∀ slot : Int64, Int64.ofNat (offset + distance) + slot =
          Int64.ofNat offset + slot + Int64.ofNat distance := by
        intro slot
        rw [Int64.ofNat_add, Int64.add_assoc, Int64.add_comm (Int64.ofNat distance),
          Int64.add_assoc]
      rw [slotsFrom, slotsFrom, Nat.add_right_comm, ih, List.map_append]
      cases encoding.slot with
      | none => rfl
      | some slot => simp [-Int64.ofNat_add, moved]

end Template

/-- The first code with the second behind it, whose slots move by the size of the first. -/
def Template.followedBy (first second : Template) : Template :=
  { code := first.code ++ second.code
    slots := first.slots ++ second.slots.map (· + Int64.ofNat first.code.length) }

theorem assembleProgram_append {first second : List Instruction}
    {firstTemplate secondTemplate : Template}
    (firstAssembled : assembleProgram first = .ok firstTemplate)
    (secondAssembled : assembleProgram second = .ok secondTemplate) :
    assembleProgram (first ++ second) = .ok (firstTemplate.followedBy secondTemplate) := by
  rcases (assembleProgram_eq_ok_iff first _).mp firstAssembled with ⟨before, firstEncodes, rfl⟩
  rcases (assembleProgram_eq_ok_iff second _).mp secondAssembled with ⟨after, secondEncodes, rfl⟩
  rw [assembleProgram_eq_ok_iff]
  refine ⟨before ++ after, List.rel_append firstEncodes secondEncodes, ?_⟩
  rw [Template.followedBy, Template.codeOf_append, Template.slotsFrom_append,
    Template.slotsFrom_add]

theorem assembleProgram_append_error {first second : List Instruction} {template : Template}
    {error : AssemblyError} (assembled : assembleProgram first = .ok template)
    (failed : assembleProgram second = .error error) :
    ∃ other, assembleProgram (first ++ second) = .error other ∧
      other.category? = error.category? := by
  rcases (assembleProgram_eq_ok_iff first _).mp assembled with ⟨encodings, encodes, _⟩
  rcases (assembleProgram_eq_error_iff second error).mp failed with
    ⟨before, instruction, after, reason, beforeEncodings, rfl, beforeEncodes, refused, rfl⟩
  refine ⟨.encoding ((first ++ before).length + 1) instruction reason, ?_, rfl⟩
  rw [assembleProgram_eq_error_iff]
  exact ⟨first ++ before, instruction, after, reason, encodings ++ beforeEncodings, by simp,
    List.rel_append encodes beforeEncodes, refused, rfl⟩

/-! ### Source texts -/

theorem mapError_category_programOf {source : List UInt8} {tokens : List Token}
    (read : Lexer.tokens source = .ok tokens) :
    (Assembly.programOf source).mapError AssemblyError.category? =
      ((Parser.program (tokens ++ [Token.terminator tokens])).mapError
        ParseError.category).mapError some := by
  rw [Assembly.programOf, read]
  dsimp only
  cases Parser.program (tokens ++ [Token.terminator tokens]) <;> rfl

/-- The instructions of the second text follow those of the first, or it fails as it does alone. -/
theorem programOf_append {first : List UInt8} {program : List Instruction}
    (parsed : Assembly.programOf first = .ok program) (second : List UInt8) :
    (Assembly.programOf (first ++ Lexer.bytesOf "\n;" ++ second)).mapError AssemblyError.category? =
      ((Assembly.programOf second).mapError AssemblyError.category?).map (program ++ ·) := by
  rcases (programOf_eq_ok_iff first program).mp parsed with ⟨before, read, accepted⟩
  rcases Lexer.tokens_append_separator read second with ⟨semicolon, after, isSemicolon, whole⟩
  have agree := Lexer.tokensFrom_agree second .start after
  generalize alone : Lexer.tokensFrom .start second = outcome at agree
  generalize behind : Lexer.tokensFrom after second = outcomeBehind at agree
  rw [behind] at whole
  cases agree with
  | read same =>
      rw [mapError_category_programOf whole, mapError_category_programOf alone,
        Parser.program_append_of_program isSemicolon accepted same, Outcome.mapError_map]
  | refused stray other =>
      rw [Assembly.programOf, Assembly.programOf, whole, Lexer.tokens, alone]
      rfl

/--
A text behind an assembled one adds its code, with its slots moved, or fails with the
category with which it fails alone.
-/
theorem assemble_append {first : List UInt8} {template : Template}
    (assembled : assemble first = .ok template) (second : List UInt8) :
    (∀ later, assemble second = .ok later →
      assemble (first ++ Lexer.bytesOf "\n;" ++ second) = .ok (template.followedBy later)) ∧
    (∀ error, assemble second = .error error →
      ∃ other, assemble (first ++ Lexer.bytesOf "\n;" ++ second) = .error other ∧
        ∃ category, error.category? = some category ∧ other.category? = some category) := by
  rcases (assemble_eq_ok_iff first template).mp assembled with ⟨program, parsed, linked⟩
  have together := programOf_append parsed second
  constructor
  · intro later laterAssembled
    rcases (assemble_eq_ok_iff second later).mp laterAssembled with
      ⟨laterProgram, laterParsed, laterLinked⟩
    rw [laterParsed] at together
    rw [assemble_eq_ok_iff]
    exact ⟨program ++ laterProgram, Outcome.mapError_eq_ok_iff.mp together,
      assembleProgram_append linked laterLinked⟩
  · intro error failed
    rcases category_of_assemble_error failed with ⟨category, known⟩
    rcases (assemble_eq_error_iff second error).mp failed with
      reading | ⟨laterProgram, laterParsed, encoding⟩
    · rw [reading] at together
      rcases Outcome.mapError_eq_error_iff.mp together with ⟨other, otherFailed, same⟩
      refine ⟨other, ?_, category, known, same.trans known⟩
      rw [assemble_eq_error_iff]
      exact .inl otherFailed
    · rw [laterParsed] at together
      rcases assembleProgram_append_error linked encoding with ⟨other, otherFailed, same⟩
      refine ⟨other, ?_, category, known, same.trans known⟩
      rw [assemble_eq_error_iff]
      exact .inr ⟨program ++ laterProgram, Outcome.mapError_eq_ok_iff.mp together, otherFailed⟩

/-- The first text ends in a comment and without a semicolon. -/
theorem assemble_append_behind_comment :
    let first := Lexer.bytesOf "push $1 // one"
    let second := Lexer.bytesOf "nop; jmp $5"
    let unfinished := Lexer.bytesOf "mov eax"
    assemble first = .ok { code := [0x68, 1, 0, 0, 0], slots := [1] } ∧
      assemble second = .ok { code := [0x90, 0xE9, 5, 0, 0, 0], slots := [2] } ∧
      assemble (first ++ Lexer.bytesOf "\n;" ++ second) =
        .ok { code := [0x68, 1, 0, 0, 0, 0x90, 0xE9, 5, 0, 0, 0], slots := [1, 7] } ∧
      (assemble unfinished).mapError AssemblyError.category? = .error (some .invalidText) ∧
      (assemble (first ++ Lexer.bytesOf "\n;" ++ unfinished)).mapError AssemblyError.category? =
        .error (some .invalidText) := by
  intro first second unfinished
  have assembled : assemble first = .ok { code := [0x68, 1, 0, 0, 0], slots := [1] } := by
    decide +kernel
  have later : assemble second = .ok { code := [0x90, 0xE9, 5, 0, 0, 0], slots := [2] } := by
    decide +kernel
  have failed : (assemble unfinished).mapError AssemblyError.category? =
      .error (some .invalidText) := by
    decide +kernel
  rcases Outcome.mapError_eq_error_iff.mp failed with ⟨error, refused, known⟩
  rcases (assemble_append assembled unfinished).2 error refused with
    ⟨other, otherRefused, category, same, otherKnown⟩
  refine ⟨assembled, later, ?_, failed, ?_⟩
  · exact (assemble_append assembled second).1 _ later
  · rw [otherRefused, ← known, same, ← otherKnown]
    rfl

end Stencil
