import Stencil.Proofs.Linking
import Stencil.Proofs.Printing
import Stencil.Proofs.Viability

/-!
# The stages at which assembling fails

A text that cannot be assembled fails in one of three stages: at a byte, at a token
or at an instruction. Each stage has its own heading in the message and its own
categories, and no failure has a category outside them.

Two of the categories that the stages could report are never reported. The semicolon
that is put behind the last token is refused or completes a statement, so that a text
never ends too early. And the parser gives well-formed instructions, in which all
registers and operations exist, so the encoder has nothing to object to but their
combination.
-/

namespace Stencil

/-- The stages of an assembly that can fail. Statements count from one. -/
inductive Stage where
  | lexing
  | parsing
  | encoding (statement : Nat)
deriving DecidableEq

namespace Stage

/-- What the message of a failure starts with. -/
def heading : Stage → String
  | lexing => "lexing error: "
  | parsing => "parsing error: "
  | encoding statement => s!"error generating code for statement {statement} '"

/-- The categories of the failures of a stage. -/
def categories : Stage → List Category
  | lexing => [.invalidText]
  | parsing => [.invalidText, .unknownMnemonic, .unknownRegister, .invalidLiteral]
  | encoding _ => [.unsupportedOperands, .templatedShift, .shiftCountRange, .stackBase]

end Stage

/-- The instruction has an encoding. -/
def Instruction.Encodable (instruction : Instruction) : Prop :=
  ∃ encoding, Encoding.ofInstruction instruction = .ok encoding

/-- The first stage that a text does not pass; of its instructions, the first one counts. -/
inductive FailsAt (source : List UInt8) : Stage → Prop where
  | lexing {stray : StrayByte} (refused : Lexer.tokens source = .error stray) :
      FailsAt source .lexing
  | parsing {tokens : List Token} {refusal : ParseError} (read : Lexer.tokens source = .ok tokens)
      (refused : Parser.program (tokens ++ [Token.terminator tokens]) = .error refusal) :
      FailsAt source .parsing
  | encoding {tokens : List Token} {before after : List Instruction} {instruction : Instruction}
      (read : Lexer.tokens source = .ok tokens)
      (parsed : Parser.program (tokens ++ [Token.terminator tokens]) =
        .ok (before ++ instruction :: after))
      (encodable : ∀ earlier ∈ before, earlier.Encodable)
      (refused : ¬instruction.Encodable) : FailsAt source (.encoding (before.length + 1))

namespace Parser

open Grammar

/-! ### The last semicolon -/

theorem not_namesRegister_of_isMark {token : Token} {mark : Mark} (isMark : token.isMark mark)
    (register : Register) : ¬NamesRegister token register := by
  intro names
  exact Token.not_isMark_of_word names.1 mark isMark

/-- A semicolon that is not refused leads to the start of a statement. -/
theorem step_semicolon {state : State} {token : Token} {step : Step}
    (semicolon : token.isMark .semicolon) (stepped : state.step token = .ok step) :
    step = .next .statement ∨ ∃ instruction, step = .complete instruction := by
  have noMark : ∀ mark, mark ≠ .semicolon → ¬token.isMark mark := by
    intro mark different isMark
    exact different (Token.mark_unique isMark semicolon)
  have noNumber := not_isNumber_of_isMark semicolon
  have noRegister := not_namesRegister_of_isMark semicolon
  cases state with
  | statement =>
      rw [step_statement_iff] at stepped
      rcases stepped with ⟨_, rfl⟩ | ⟨mnemonic, _, names, _⟩
      · exact .inl rfl
      · exact absurd semicolon (Token.not_isMark_of_word names.1 _)
  | operand role =>
      cases role with
      | destination mnemonic => simp [step_destination_iff, noMark, noRegister] at stepped
      | source mnemonic destination =>
          simp [step_source_iff, noMark, noNumber, noRegister] at stepped
  | separator mnemonic destination => simp [step_separator_iff, noMark] at stepped
  | terminator instruction =>
      rw [step_terminator_iff] at stepped
      exact .inr ⟨instruction, stepped.2⟩
  | bracket role => simp [step_bracket_iff, noMark, noNumber, noRegister] at stepped
  | base role base => simp [step_base_iff, sign_iff, noMark] at stepped
  | sign role base negative => simp [step_sign_iff, noMark, noNumber] at stepped
  | displacement role base negative => simp [step_displacement_iff, noNumber] at stepped
  | address role => simp [step_address_iff, noNumber] at stepped
  | closing role operand => simp [step_closing_iff, noMark] at stepped
  | immediate role template => simp [step_immediate_iff, noMark, noNumber] at stepped
  | negated role template => simp [step_negated_iff, noNumber] at stepped

/-- A list that ends in a semicolon does not end too early. -/
theorem run_append_semicolon_ne_endOfInput {semicolon : Token}
    (isSemicolon : semicolon.isMark .semicolon) (state : State) (tokens : List Token) :
    run state (tokens ++ [semicolon]) ≠ .error .endOfInput := by
  induction tokens generalizing state with
  | nil =>
      rw [List.nil_append, run]
      cases stepped : state.step semicolon with
      | error fault => simp
      | ok step =>
          rcases step_semicolon isSemicolon stepped with rfl | ⟨instruction, rfl⟩
          · simp [run]
          · simp [run, Except.map]
  | cons token tokens ih =>
      rw [List.cons_append, run]
      cases state.step token with
      | error fault => simp
      | ok step =>
          cases step with
          | next next => exact ih next
          | complete instruction =>
              intro ended
              exact ih .statement (Outcome.map_eq_error_iff.mp ended)

theorem category_mem_parsing (fault : Fault) : fault.category ∈ Stage.parsing.categories := by
  cases fault <;> simp [Fault.category, Stage.categories]

/-- A closed text is refused at one of its tokens. -/
theorem refused_of_program_error {tokens : List Token} {semicolon : Token} {error : ParseError}
    (isSemicolon : semicolon.isMark .semicolon)
    (failed : program (tokens ++ [semicolon]) = .error error) :
    ∃ token fault, error.stop = .refused token fault := by
  rw [program, Outcome.mapError_eq_error_iff] at failed
  rcases failed with ⟨stop, stopped, rfl⟩
  cases stop with
  | endOfInput =>
      exact absurd stopped (run_append_semicolon_ne_endOfInput isSemicolon .statement tokens)
  | refused token fault => exact ⟨token, fault, rfl⟩

end Parser

namespace Operand

/-- The operand is there, and so is every register that it mentions. -/
def Sound (operand : Operand) : Prop :=
  operand.shape.isPresent = true ∧ operand.shape.RegistersValid

theorem sound_of_isSource {operand : Operand} (isSource : operand.IsSource) : operand.Sound := by
  cases isSource <;> simp_all [Sound, Shape.isPresent, Shape.RegistersValid, Shape.register?]

theorem sound_of_isDestination {operand : Operand} (isDestination : operand.IsDestination) :
    operand.Sound ∧ operand.template = false := by
  cases isDestination <;>
    simp_all [Sound, Shape.isPresent, Shape.RegistersValid, Shape.register?]

theorem registersValid_absent : absent.shape.RegistersValid := by
  intro register mentioned
  simp [absent, Shape.register?] at mentioned

end Operand

namespace Encoding

/-! ### What the encoder refuses -/

/-- The check of the operands finds nothing in what the parser gives. -/
theorem fault?_of_wellFormed {instruction : Instruction} (wellFormed : instruction.WellFormed) :
    fault? instruction = none := by
  have absent := Operand.registersValid_absent
  rw [fault?_eq_none_iff]
  cases wellFormed with
  | plain known form =>
      rw [form]
      exact ⟨⟨rfl, absent⟩, ⟨rfl, absent⟩, rfl⟩
  | destination known form isDestination =>
      rw [form]
      rcases Operand.sound_of_isDestination isDestination with ⟨sound, untemplated⟩
      exact ⟨sound, ⟨rfl, absent⟩, untemplated⟩
  | source known form isSource =>
      rw [form]
      exact ⟨⟨rfl, absent⟩, Operand.sound_of_isSource isSource, rfl⟩
  | destinationAndSource known form isDestination isSource =>
      rw [form]
      rcases Operand.sound_of_isDestination isDestination with ⟨sound, untemplated⟩
      exact ⟨sound, Operand.sound_of_isSource isSource, untemplated⟩

theorem known_of_wellFormed {instruction : Instruction} (wellFormed : instruction.WellFormed) :
    instruction.mnemonic ∈ Mnemonic.all := by
  cases wellFormed <;> assumption

/-- The outcome is an encoding or a failure of the encoding stage. -/
def Staged (outcome : Except EncodingError Encoding) : Prop :=
  ∀ error, outcome = .error error →
    ∀ statement, error.category ∈ (Stage.encoding statement).categories

theorem staged_ok (encoding : Encoding) : Staged (.ok encoding) := by
  intro error failed
  simp at failed

theorem staged_error {error : EncodingError}
    (inside : error.category ∈ (Stage.encoding 1).categories) : Staged (.error error) := by
  rintro _ ⟨⟩ statement
  exact inside

theorem staged_unsupported (instruction : Instruction) :
    Staged (.error (.unsupported instruction)) :=
  staged_error (by simp [EncodingError.category, Stage.categories])

theorem staged_memoryBytes {field : UInt8} {base : Register} {displacement : Int8}
    {operand : Operand} (build : List UInt8 → Encoding) :
    Staged ((memoryBytes field base displacement operand).map build) := by
  unfold memoryBytes
  split
  · exact staged_error (by simp [EncodingError.category, Stage.categories])
  · exact staged_ok _

theorem staged_move (instruction : Instruction) : Staged (move instruction) := by
  unfold move
  dsimp only
  split
  · exact staged_ok _
  · exact staged_memoryBytes _
  · exact staged_ok _
  · exact staged_ok _
  · exact staged_memoryBytes _
  · exact staged_memoryBytes _
  · exact staged_unsupported instruction

theorem staged_arithmetic (opcode field : UInt8) (instruction : Instruction) :
    Staged (arithmetic opcode field instruction) := by
  unfold arithmetic
  split
  · exact staged_ok _
  · exact staged_ok _
  · exact staged_unsupported instruction

theorem staged_shift (field : UInt8) (instruction : Instruction) :
    Staged (shift field instruction) := by
  unfold shift
  split
  · split
    · exact staged_ok _
    · exact staged_error (by simp [EncodingError.category, Stage.categories])
  · split
    · exact staged_error (by simp [EncodingError.category, Stage.categories])
    · split
      · exact staged_error (by simp [EncodingError.category, Stage.categories])
      · split
        · exact staged_ok _
        · exact staged_ok _
  · exact staged_unsupported instruction

theorem staged_push (instruction : Instruction) : Staged (push instruction) := by
  unfold push
  split
  · exact staged_ok _
  · exact staged_ok _
  · exact staged_unsupported instruction

theorem staged_pop (instruction : Instruction) : Staged (pop instruction) := by
  unfold pop
  split
  · exact staged_ok _
  · exact staged_unsupported instruction

theorem staged_call (instruction : Instruction) : Staged (call instruction) := by
  unfold call
  split
  · exact staged_ok _
  · exact staged_ok _
  · exact staged_unsupported instruction

theorem staged_jump (instruction : Instruction) : Staged (jump instruction) := by
  unfold jump
  split
  · exact staged_ok _
  · split
    · exact staged_ok _
    · exact staged_ok _
  · exact staged_unsupported instruction

theorem staged_row {instruction : Instruction} (known : instruction.mnemonic ∈ Mnemonic.all) :
    Staged (row instruction) := by
  unfold row
  cases mnemonic : instruction.mnemonic with
  | mov => exact staged_move instruction
  | add => exact staged_arithmetic _ _ instruction
  | sub => exact staged_arithmetic _ _ instruction
  | shl => exact staged_shift _ instruction
  | shr => exact staged_shift _ instruction
  | push => exact staged_push instruction
  | pop => exact staged_pop instruction
  | call => exact staged_call instruction
  | ret => exact staged_ok _
  | jmp => exact staged_jump instruction
  | nop => exact staged_ok _
  | unknown number => simp [mnemonic, Mnemonic.all] at known

/-- Of a well-formed instruction the encoder refuses at most the combination of its parts. -/
theorem staged_of_wellFormed {instruction : Instruction} (wellFormed : instruction.WellFormed) :
    Staged (ofInstruction instruction) := by
  rw [ofInstruction, fault?_of_wellFormed wellFormed]
  exact staged_row (known_of_wellFormed wellFormed)

end Encoding

/-! ### Stages of an assembly -/

theorem wellFormed_of_program {tokens : List Token} {program : List Instruction}
    (parsed : Parser.program tokens = .ok program) :
    ∀ instruction ∈ program, instruction.WellFormed := by
  rw [Parser.program_eq_ok_iff_run, Parser.run_statement_iff] at parsed
  rcases parsed with ⟨_, statements⟩
  exact wellFormed_of_statements statements

theorem encodable_of_encodes {program : List Instruction} {encodings : List Encoding}
    (encodes : Encodes program encodings) : ∀ instruction ∈ program, instruction.Encodable := by
  induction encodes with
  | nil => simp
  | cons encoded _ ih =>
      rw [List.forall_mem_cons]
      exact ⟨⟨_, encoded⟩, ih⟩

theorem not_failsAt_of_assembled {source : List UInt8} {template : Template}
    (assembled : assemble source = .ok template) (stage : Stage) : ¬FailsAt source stage := by
  rcases (assemble_eq_ok_iff source template).mp assembled with ⟨program, parsed, linked⟩
  rcases (programOf_eq_ok_iff source program).mp parsed with ⟨tokens, read, accepted⟩
  rcases (assembleProgram_eq_ok_iff program template).mp linked with ⟨encodings, encodes, _⟩
  intro failsAt
  cases failsAt with
  | lexing refused =>
      rw [read] at refused
      simp at refused
  | parsing readAgain refused =>
      rw [read, Except.ok.injEq] at readAgain
      subst readAgain
      rw [accepted] at refused
      simp at refused
  | encoding readAgain parsedAgain encodable refused =>
      rw [read, Except.ok.injEq] at readAgain
      subst readAgain
      rw [accepted, Except.ok.injEq] at parsedAgain
      subst parsedAgain
      exact refused (encodable_of_encodes encodes _ (by simp))

/-- A parsed program fails at its first instruction without an encoding. -/
theorem staged_of_assembleProgram {tokens : List Token} {program : List Instruction}
    {error : AssemblyError} (parsed : Parser.program tokens = .ok program)
    (failed : assembleProgram program = .error error) :
    ∃ before instruction after reason, program = before ++ instruction :: after ∧
      (∀ earlier ∈ before, earlier.Encodable) ∧ ¬instruction.Encodable ∧
      error = .encoding (before.length + 1) instruction reason ∧
      reason.category ∈ (Stage.encoding (before.length + 1)).categories := by
  rcases (assembleProgram_eq_error_iff program error).mp failed with
    ⟨before, instruction, after, reason, encodings, rfl, encodes, refused, rfl⟩
  have wellFormed := wellFormed_of_program parsed instruction (by simp)
  refine ⟨before, instruction, after, reason, rfl, encodable_of_encodes encodes, ?_, rfl, ?_⟩
  · rintro ⟨encoding, encoded⟩
    rw [refused] at encoded
    simp at encoded
  · exact Encoding.staged_of_wellFormed wellFormed reason refused _

/-- The message of a failure names its stage first and its category last. -/
structure ReportedAt (error : AssemblyError) (stage : Stage) (category : Category) : Prop where
  categorized : error.category? = some category
  staged : category ∈ stage.categories
  message : ∃ detail, error.message = stage.heading ++ detail ++ ": " ++ category.text

theorem reportedAt_lexing (stray : StrayByte) :
    ReportedAt (.lexing stray) .lexing .invalidText where
  categorized := rfl
  staged := by simp [Stage.categories]
  message := by
    refine ⟨stray.position.text ++ ": unexpected character " ++
      Quoted.character (Char.ofUInt8 stray.byte), ?_⟩
    have headed : (AssemblyError.lexing stray).message =
        Stage.lexing.heading ++ stray.message := rfl
    rw [headed, StrayByte.message, StrayByte.category]
    simp only [String.append_assoc]

theorem reportedAt_parsing {refusal : ParseError} {token : Token} {fault : Fault}
    (refused : refusal.stop = .refused token fault) :
    ReportedAt (.parsing refusal) .parsing fault.category where
  categorized := by simp [AssemblyError.category?, ParseError.category, refused, Stop.category]
  staged := Parser.category_mem_parsing fault
  message := by
    refine ⟨token.position.text ++ ": " ++ fault.text token.text, ?_⟩
    have headed : (AssemblyError.parsing refusal).message =
        Stage.parsing.heading ++ refusal.message := rfl
    rw [headed, ParseError.message, refused]
    simp only [String.append_assoc]

theorem reportedAt_encoding {statement : Nat} {instruction : Instruction} {reason : EncodingError}
    (staged : reason.category ∈ (Stage.encoding statement).categories) :
    ReportedAt (.encoding statement instruction reason) (.encoding statement)
      reason.category where
  categorized := rfl
  staged := staged
  message := by
    refine ⟨instruction.text ++ "': " ++ reason.subject, ?_⟩
    have headed : (AssemblyError.encoding statement instruction reason).message =
        (Stage.encoding statement).heading ++ instruction.text ++ "': " ++ reason.message := rfl
    rw [headed, EncodingError.message]
    simp only [String.append_assoc]

/--
Every text is assembled, and then passes all stages, or fails at one of them with a category
of that stage and with a message that says so. The encoder never misses a register or an
operation of a program that was parsed.
-/
theorem assemble_fails_by_stage :
    (∀ source : List UInt8,
      (∃ template, assemble source = .ok template ∧ ∀ stage, ¬FailsAt source stage) ∨
      ∃ error stage category, assemble source = .error error ∧ FailsAt source stage ∧
        ReportedAt error stage category) ∧
    (∀ tokens program error, Parser.program tokens = .ok program →
      assembleProgram program = .error error →
      error.category? ≠ some .unknownMnemonic ∧ error.category? ≠ some .unknownRegister) := by
  constructor
  · intro source
    cases outcome : assemble source with
    | ok template => exact .inl ⟨template, rfl, not_failsAt_of_assembled outcome⟩
    | error error =>
        right
        rcases (assemble_eq_error_iff source error).mp outcome with
          reading | ⟨program, parsed, encoding⟩
        · rcases (programOf_eq_error_iff source error).mp reading with
            ⟨stray, refused, rfl⟩ | ⟨tokens, refusal, read, refused, rfl⟩
          · exact ⟨_, .lexing, .invalidText, rfl, .lexing refused, reportedAt_lexing stray⟩
          · rcases Parser.refused_of_program_error (Token.isMark_terminator tokens) refused with
              ⟨token, fault, stopped⟩
            exact ⟨_, .parsing, fault.category, rfl, .parsing read refused,
              reportedAt_parsing stopped⟩
        · rcases (programOf_eq_ok_iff source program).mp parsed with ⟨tokens, read, accepted⟩
          rcases staged_of_assembleProgram accepted encoding with
            ⟨before, instruction, after, reason, rfl, encodable, refused, rfl, staged⟩
          exact ⟨_, _, reason.category, rfl, .encoding read accepted encodable refused,
            reportedAt_encoding staged⟩
  · intro tokens program error parsed failed
    rcases staged_of_assembleProgram parsed failed with
      ⟨before, instruction, after, reason, _, _, _, rfl, staged⟩
    have excluded : ∀ category ∈ (Stage.encoding (before.length + 1)).categories,
        category ≠ .unknownMnemonic ∧ category ≠ .unknownRegister := by
      simp [Stage.categories]
    simpa [AssemblyError.category?] using excluded reason.category staged

/-- The count of the second statement is a template, which only the encoder objects to. -/
theorem assemble_fails_by_stage_templated_shift :
    let source := Lexer.bytesOf "nop; shl eax, $1"
    let shift : Instruction :=
      { mnemonic := .shl, destination := { shape := .register .eax }
        source := { shape := .immediate 1, template := true } }
    let error : AssemblyError := .encoding 2 shift (.templatedShift shift)
    Assembly.programOf source = .ok [{ mnemonic := .nop }, shift] ∧
      assemble source = .error error ∧
      (∃ stage, FailsAt source stage ∧ ReportedAt error stage .templatedShift) ∧
      error.category? ≠ some .unknownMnemonic ∧ error.category? ≠ some .unknownRegister := by
  intro source shift error
  have parsed : Assembly.programOf source = .ok [{ mnemonic := .nop }, shift] := by
    decide +kernel
  have encoding : assembleProgram [{ mnemonic := .nop }, shift] = .error error := by
    decide +kernel
  have failed : assemble source = .error error := by
    rw [assemble_eq_error_iff]
    exact .inr ⟨_, parsed, encoding⟩
  rcases (programOf_eq_ok_iff source _).mp parsed with ⟨tokens, _, accepted⟩
  refine ⟨parsed, failed, ?_, assemble_fails_by_stage.2 _ _ _ accepted encoding⟩
  rcases assemble_fails_by_stage.1 source with ⟨template, assembled, _⟩ |
    ⟨found, stage, category, refused, failsAt, reported⟩
  · rw [failed] at assembled
    simp at assembled
  · rw [failed, Except.error.injEq] at refused
    subst refused
    have category_eq := reported.categorized
    simp only [error, AssemblyError.category?, EncodingError.category, Option.some.injEq]
      at category_eq
    subst category_eq
    exact ⟨stage, failsAt, reported⟩

end Stencil
