import Stencil.Proofs.NumeralText
import Stencil.Proofs.Parsing
import Stencil.Proofs.WellFormed

/-!
# Printing and parsing

The text of a well-formed instruction is read back as this instruction. Each part of
the text is followed by something that cannot extend its last word, so the lexer cuts
it where the printer joined it; and the tokens of each part derive, in the grammar,
what was printed. Conversely the parser only gives well-formed instructions.
-/

namespace Stencil

open Grammar

namespace Lexer

variable {rest : List UInt8} {later : List Token → Prop}

/-! ### Names and numbers -/

theorem reads_name {name : String}
    (inside : name.toList.all fun character => decide (IsWordCharacter character))
    (starts : name.toList.head?.map (fun first => wordClass (byteOf first)) = some .word)
    (boundary : Boundary rest) (reads : Reads rest later) :
    Reads (bytesOf name ++ rest)
      (Then (One fun token => token.kind = .word ∧ token.text = name) later) := by
  cases characters : name.toList with
  | nil => simp [characters] at starts
  | cons first others =>
      have name_eq : name = String.ofList (first :: others) := by
        rw [← characters, String.ofList_toList]
      rw [characters, List.head?_cons, Option.map_some, Option.some.injEq] at starts
      rw [characters, List.all_eq_true] at inside
      rw [name_eq, ← starts]
      apply Reads.wordText ?_ boundary reads
      intro character characterMem
      exact of_decide_eq_true (inside character characterMem)

theorem reads_register {register : Register} (valid : register.Valid) (boundary : Boundary rest)
    (reads : Reads rest later) :
    Reads (bytesOf register.text ++ rest)
      (Then (One fun token => NamesRegister token register) later) := by
  have table : ∀ register ∈ Register.all,
      (register.text.toList.all fun character => decide (IsWordCharacter character)) ∧
      register.text.toList.head?.map (fun first => wordClass (byteOf first)) = some .word ∧
      LowerCase.text register.text = register.text := by
    decide
  have known := (Register.valid_iff_mem_all register).mp valid
  rcases table register known with ⟨inside, starts, lower⟩
  refine (reads_name inside starts boundary reads).mono_first ?_
  rintro _ ⟨token, rfl, isWord, text_eq⟩
  exact ⟨token, rfl, isWord, valid, by rw [text_eq, lower]⟩

theorem reads_mnemonic {mnemonic : Mnemonic} (known : mnemonic ∈ Mnemonic.all)
    (boundary : Boundary rest) (reads : Reads rest later) :
    Reads (bytesOf mnemonic.text ++ rest)
      (Then (One fun token => NamesMnemonic token mnemonic) later) := by
  have table : ∀ mnemonic ∈ Mnemonic.all,
      (mnemonic.text.toList.all fun character => decide (IsWordCharacter character)) ∧
      mnemonic.text.toList.head?.map (fun first => wordClass (byteOf first)) = some .word ∧
      LowerCase.text mnemonic.text = mnemonic.text := by
    decide
  rcases table mnemonic known with ⟨inside, starts, lower⟩
  refine (reads_name inside starts boundary reads).mono_first ?_
  rintro _ ⟨token, rfl, isWord, text_eq⟩
  exact ⟨token, rfl, isWord, by rw [text_eq, lower]⟩

theorem reads_number {characters : List Char} {value : Nat}
    (denotes : Numeral.Denotes characters value) (bounded : value < 2 ^ 64)
    (boundary : Boundary rest) (reads : Reads rest later) :
    Reads (bytesOf (String.ofList characters) ++ rest)
      (Then (One fun token => IsNumber token value) later) := by
  rcases Numeral.word_of_denotes denotes with ⟨first, others, rfl, isNumber, inside⟩
  refine (Reads.wordText inside boundary reads).mono_first ?_
  rintro _ ⟨token, rfl, kind_eq, text_eq⟩
  refine ⟨token, rfl, ?_, ?_, bounded⟩
  · rw [kind_eq, isNumber]
  · rw [text_eq, String.toList_ofList]
    exact denotes

theorem boundary_mark (mark : Mark) (rest : List UInt8) :
    Boundary (byteOf mark.character :: rest) := by
  have outside : isWordByte (byteOf mark.character) = false := by
    cases mark <;> decide
  rintro _ ⟨⟩
  exact outside

theorem bytesOf_hexadecimal (digits : List Char) :
    bytesOf "0x" ++ bytesOf (String.ofList digits) =
      bytesOf (String.ofList ('0' :: 'x' :: digits)) := by
  have text_eq : String.ofList (['0', 'x'] ++ digits) = "0x" ++ String.ofList digits :=
    String.ofList_append
  rw [← bytesOf_append, ← text_eq, List.cons_append, List.cons_append, List.nil_append]

/-! ### Operands -/

theorem toInt_cases (displacement : Int8) :
    (displacement.toUInt8.toNat < 128 ∧ displacement.toInt = displacement.toUInt8.toNat) ∨
      (128 ≤ displacement.toUInt8.toNat ∧ displacement.toUInt8.toNat < 256 ∧
        displacement.toInt = displacement.toUInt8.toNat - 256) := by
  have bits_eq : displacement.toUInt8.toNat = displacement.toBitVec.toNat := rfl
  have value_eq : displacement.toInt = displacement.toBitVec.toInt := rfl
  have bounded := displacement.toBitVec.isLt
  rw [BitVec.toInt_eq_toNat_cond] at value_eq
  split_ifs at value_eq <;> omega

theorem isDisplacement_of_neg {displacement : Int8} (negative : displacement < 0) :
    IsDisplacement true (-displacement).toUInt8.toNat displacement := by
  have below : displacement.toInt < 0 := Int8.lt_iff_toInt_lt.mp negative
  have negated_eq : (-displacement).toUInt8.toNat = (256 - displacement.toUInt8.toNat) % 256 :=
    BitVec.toNat_neg displacement.toBitVec
  simp only [IsDisplacement, if_true]
  rcases toInt_cases displacement with ⟨_, value_eq⟩ | ⟨lower, upper, value_eq⟩
  · omega
  · omega

theorem isDisplacement_of_nonneg {displacement : Int8} (nonnegative : ¬displacement < 0) :
    IsDisplacement false displacement.toUInt8.toNat displacement := by
  have above : 0 ≤ displacement.toInt := Int8.le_iff_toInt_le.mp (Int8.not_lt.mp nonnegative)
  simp only [IsDisplacement, Bool.false_eq_true, if_false]
  rcases toInt_cases displacement with ⟨_, value_eq⟩ | ⟨lower, upper, value_eq⟩
  · omega
  · omega

/-- A displacement is printed as a sign and the magnitude in base sixteen. -/
theorem bytesOf_displacementText (displacement : Int8) :
    ∃ (sign : Mark) (negative : Bool) (magnitude : UInt8),
      (∀ token : Token, token.isMark sign → Sign token negative) ∧
      IsDisplacement negative magnitude.toNat displacement ∧
      bytesOf (Operand.displacementText displacement) = byteOf sign.character ::
        bytesOf (String.ofList ('0' :: 'x' :: Hexadecimal.byteDigits magnitude)) := by
  by_cases negative : displacement < 0
  · refine ⟨.minus, true, (-displacement).toUInt8, fun _ => .minus,
      isDisplacement_of_neg negative, ?_⟩
    rw [Operand.displacementText, if_pos negative, ← bytesOf_hexadecimal, bytesOf_append]
    rfl
  · refine ⟨.plus, false, displacement.toUInt8, fun _ => .plus,
      isDisplacement_of_nonneg negative, ?_⟩
    rw [Operand.displacementText, if_neg negative, ← bytesOf_hexadecimal, bytesOf_append]
    rfl

theorem reads_displacement (displacement : Int8) (boundary : Boundary rest)
    (reads : Reads rest later) :
    Boundary (bytesOf (Operand.displacementText displacement) ++ rest) ∧
      Reads (bytesOf (Operand.displacementText displacement) ++ rest)
        (Then (Offset · displacement) later) := by
  rcases bytesOf_displacementText displacement with
    ⟨sign, negative, magnitude, isSign, fits, bytes_eq⟩
  have denotes := Numeral.denotes_hexadecimal (Numeral.digits_byte magnitude)
  have small := magnitude.toNat_lt
  have number := reads_number denotes (by omega) boundary reads
  rw [bytes_eq, List.cons_append]
  refine ⟨boundary_mark sign _, (Reads.mark sign number).mono ?_⟩
  rintro _ ⟨_, _, rfl, ⟨first, rfl, isMark⟩, _, after, rfl, ⟨token, rfl, isNumber⟩, holds⟩
  exact ⟨[first, token], after, rfl,
    .signed (isSign first isMark) .absent isNumber (by simpa using fits), holds⟩

theorem reads_memory {base : Register} (valid : base.Valid) (displacement : Int8)
    (reads : Reads rest later) :
    Reads (bytesOf ("[" ++ base.text ++ Operand.displacementText displacement ++ "]") ++ rest)
      (Then (Memory · (.memory base displacement)) later) := by
  have closing := Reads.mark .closeBracket reads
  rcases reads_displacement displacement (boundary_mark .closeBracket rest) closing with
    ⟨outside, offset⟩
  have name := reads_register valid outside offset
  simp only [bytesOf_append, List.append_assoc]
  refine (Reads.mark .openBracket name).mono ?_
  rintro _ ⟨_, _, rfl, ⟨opening, rfl, opens⟩, _, _, rfl, ⟨name, rfl, names⟩, offset, _, rfl,
    displaced, _, after, rfl, ⟨closing, rfl, closes⟩, holds⟩
  exact ⟨opening :: name :: (offset ++ [closing]), after, by simp,
    .mk opens names displaced closes, holds⟩

theorem reads_templateMark (operand : Operand) (reads : Reads rest later) :
    Reads (bytesOf operand.mark ++ rest)
      (Then (Optional .dollar · operand.template) later) := by
  cases templated : operand.template with
  | false =>
      rw [Operand.mark, templated]
      refine reads.mono ?_
      intro tokens holds
      exact ⟨[], tokens, rfl, .absent, holds⟩
  | true =>
      rw [Operand.mark, templated]
      refine (Reads.mark .dollar reads).mono ?_
      rintro _ ⟨_, after, rfl, ⟨dollar, rfl, isMark⟩, holds⟩
      exact ⟨[dollar], after, rfl, .present isMark, holds⟩

theorem reads_absolute (address : UInt32) (template : Bool) (reads : Reads rest later) :
    let operand : Operand := { shape := .absolute address, template }
    Reads (bytesOf operand.text ++ rest) (Then (Absolute · operand) later) := by
  intro operand
  have closing := Reads.mark .closeBracket reads
  have denotes := Numeral.denotes_hexadecimal (Numeral.digits_word address)
  have small := address.toNat_lt
  have number := reads_number denotes (by omega) (boundary_mark .closeBracket rest) closing
  have marked := reads_templateMark operand number
  simp only [operand, Operand.text, Hexadecimal.word, bytesOf_append, List.append_assoc]
  rw [← List.append_assoc (bytesOf "0x"), bytesOf_hexadecimal]
  refine (Reads.mark .openBracket marked).mono ?_
  rintro _ ⟨_, _, rfl, ⟨opening, rfl, opens⟩, marks, _, rfl, isTemplate, _, _, rfl,
    ⟨number, rfl, isNumber⟩, _, after, rfl, ⟨closing, rfl, closes⟩, holds⟩
  exact ⟨opening :: (marks ++ [number, closing]), after, by simp,
    .mk opens isTemplate isNumber ⟨small, rfl⟩ closes, holds⟩

/-- A constant is printed as its magnitude in base ten, behind a minus sign if it is negative. -/
theorem reads_signed (value : Int32) (boundary : Boundary rest) (reads : Reads rest later) :
    Reads (bytesOf (toString value.toInt) ++ rest)
      (Then (fun tokens => ∃ signs negative number magnitude, tokens = signs ++ [number] ∧
        Optional .minus signs negative ∧ IsNumber number magnitude ∧
        IsConstant negative magnitude value) later) := by
  have lower := value.le_toInt
  have upper := value.toInt_lt
  cases integer : value.toInt with
  | ofNat magnitude =>
      have value_eq : value.toInt = (magnitude : Int) := integer
      have fits : IsConstant false magnitude value := by
        have nonnegative : 0 ≤ value := by
          apply Int32.le_iff_toInt_le.mpr
          rw [value_eq]
          exact Int.natCast_nonneg magnitude
        rw [IsConstant, if_neg (by decide), Int32.toNat_toUInt32_of_le nonnegative,
          Int32.toNatClampNeg]
        omega
      have number := reads_number (Numeral.denotes_decimal magnitude) (by omega) boundary reads
      refine number.mono_first ?_
      rintro _ ⟨token, rfl, isNumber⟩
      exact ⟨[], false, token, magnitude, rfl, .absent, isNumber, fits⟩
  | negSucc predecessor =>
      have value_eq : value.toInt = -((predecessor + 1 : Nat) : Int) := integer
      have fits : IsConstant true (predecessor + 1) value := by
        rw [IsConstant, if_pos rfl]
        exact ⟨by omega, value_eq⟩
      have denotes := Numeral.denotes_decimal (predecessor + 1)
      have number := reads_number denotes (by omega) boundary reads
      refine (Reads.mark .minus number).mono ?_
      rintro _ ⟨_, _, rfl, ⟨sign, rfl, isMark⟩, _, after, rfl, ⟨token, rfl, isNumber⟩, holds⟩
      exact ⟨[sign, token], after, rfl,
        ⟨[sign], true, token, predecessor + 1, rfl, .present isMark, isNumber, fits⟩, holds⟩

theorem reads_immediate (value : Int32) (template : Bool) (boundary : Boundary rest)
    (reads : Reads rest later) :
    let operand : Operand := { shape := .immediate value, template }
    Reads (bytesOf operand.text ++ rest) (Then (Source · operand) later) := by
  intro operand
  have marked := reads_templateMark operand (reads_signed value boundary reads)
  simp only [operand, Operand.text, bytesOf_append, List.append_assoc]
  refine marked.mono ?_
  rintro _ ⟨marks, _, rfl, isTemplate, _, after, rfl,
    ⟨signs, negative, number, magnitude, rfl, signed, isNumber, fits⟩, holds⟩
  exact ⟨marks ++ signs ++ [number], after, by simp,
    .constant isTemplate signed isNumber fits, holds⟩

theorem reads_destination {operand : Operand} (isDestination : operand.IsDestination)
    (boundary : Boundary rest) (reads : Reads rest later) :
    Reads (bytesOf operand.text ++ rest) (Then (Destination · operand) later) := by
  cases isDestination with
  | register valid =>
      refine (reads_register valid boundary reads).mono_first ?_
      rintro _ ⟨token, rfl, names⟩
      exact .register names
  | memory valid displacement =>
      exact (reads_memory valid displacement reads).mono_first fun _ => .memory
  | absolute address =>
      refine (reads_absolute address false reads).mono_first ?_
      intro tokens absolute
      exact .absolute absolute rfl

theorem reads_source {operand : Operand} (isSource : operand.IsSource)
    (boundary : Boundary rest) (reads : Reads rest later) :
    Reads (bytesOf operand.text ++ rest) (Then (Source · operand) later) := by
  cases isSource with
  | register valid =>
      refine (reads_register valid boundary reads).mono_first ?_
      rintro _ ⟨token, rfl, names⟩
      exact .register names
  | memory valid displacement =>
      exact (reads_memory valid displacement reads).mono_first fun _ => .memory
  | absolute address template =>
      exact (reads_absolute address template reads).mono_first fun _ => .absolute
  | immediate value template => exact reads_immediate value template boundary reads

/-! ### Instructions and programs -/

theorem reads_space (reads : Reads rest later) :
    Boundary (bytesOf " " ++ rest) ∧ Reads (bytesOf " " ++ rest) later := by
  have outside : Boundary (bytesOf " " ++ rest) := by
    rintro _ ⟨⟩
    decide
  exact ⟨outside, Reads.blank (by decide) reads⟩

theorem reads_instruction {instruction : Instruction} (wellFormed : instruction.WellFormed)
    (boundary : Boundary rest) (reads : Reads rest later) :
    Reads (bytesOf instruction.text ++ rest) (Then (Statement · instruction) later) := by
  cases wellFormed with
  | plain known form =>
      simp only [Instruction.text, form]
      refine (reads_mnemonic known boundary reads).mono_first ?_
      rintro _ ⟨token, rfl, names⟩
      exact .plain names ((Mnemonic.mem_plain_iff _).mpr ⟨known, form⟩)
  | destination known form isDestination =>
      have takes := (Mnemonic.mem_destination_iff _).mpr ⟨known, form⟩
      rcases reads_space (reads_destination isDestination boundary reads) with ⟨outside, operand⟩
      simp only [Instruction.text, form, bytesOf_append, List.append_assoc]
      refine (reads_mnemonic known outside operand).mono ?_
      rintro _ ⟨_, _, rfl, ⟨name, rfl, names⟩, operands, after, rfl, derived, holds⟩
      exact ⟨name :: operands, after, rfl, .destination names takes derived, holds⟩
  | source known form isSource =>
      have takes := (Mnemonic.mem_source_iff _).mpr ⟨known, form⟩
      rcases reads_space (reads_source isSource boundary reads) with ⟨outside, operand⟩
      simp only [Instruction.text, form, bytesOf_append, List.append_assoc]
      refine (reads_mnemonic known outside operand).mono ?_
      rintro _ ⟨_, _, rfl, ⟨name, rfl, names⟩, operands, after, rfl, derived, holds⟩
      exact ⟨name :: operands, after, rfl, .source names takes derived, holds⟩
  | @destinationAndSource mnemonic destination source known form isDestination isSource =>
      have takes := (Mnemonic.mem_destinationAndSource_iff _).mpr ⟨known, form⟩
      rcases reads_space (reads_source isSource boundary reads) with ⟨_, second⟩
      have separated := Reads.mark .comma second
      have outside := boundary_mark .comma (bytesOf " " ++ (bytesOf source.text ++ rest))
      rcases reads_space (reads_destination isDestination outside separated) with
        ⟨outside, operands⟩
      simp only [Instruction.text, form, bytesOf_append, List.append_assoc]
      refine (reads_mnemonic known outside operands).mono ?_
      rintro _ ⟨_, _, rfl, ⟨name, rfl, names⟩, destinationTokens, _, rfl, first, _, _, rfl,
        ⟨comma, rfl, isComma⟩, sourceTokens, after, rfl, second, holds⟩
      exact ⟨name :: destinationTokens ++ comma :: sourceTokens, after, by simp,
        .destinationAndSource names takes first isComma second, holds⟩

end Lexer

/-- The text of a program: a line for each instruction, with its semicolon. -/
def programText : List Instruction → String
  | [] => ""
  | instruction :: rest => instruction.text ++ ";\n" ++ programText rest

theorem reads_programText {program : List Instruction}
    (wellFormed : ∀ instruction ∈ program, instruction.WellFormed) :
    Lexer.Reads (Lexer.bytesOf (programText program)) (Statements · program) := by
  induction program with
  | nil =>
      refine Lexer.Reads.empty.mono ?_
      rintro _ rfl
      exact .none
  | cons instruction rest ih =>
      rw [List.forall_mem_cons] at wellFormed
      have closing := Lexer.Reads.mark .semicolon (ih wellFormed.2).newline
      have outside := Lexer.boundary_mark .semicolon
        (Lexer.newline :: Lexer.bytesOf (programText rest))
      have statement := Lexer.reads_instruction wellFormed.1 outside closing
      simp only [programText, Lexer.bytesOf_append, List.append_assoc]
      refine statement.mono ?_
      rintro _ ⟨tokens, _, rfl, statement, _, after, rfl, ⟨terminator, rfl, closes⟩, statements⟩
      have noSemicolons : Semicolons [] := by simp [Semicolons]
      simpa using Statements.next statement closes noSemicolons statements

/-! ### What the parser gives -/

theorem isDestination_of_derives {tokens : List Token} {operand : Operand}
    (derives : Destination tokens operand) : operand.IsDestination := by
  cases derives with
  | register names => exact .register names.2.1
  | memory memory =>
      cases memory with
      | mk opens names displaced closes => exact .memory names.2.1 _
  | absolute absolute untemplated =>
      cases absolute with
      | mk opens marked isNumber fits closes =>
          dsimp only at untemplated
          subst untemplated
          exact .absolute _

theorem isSource_of_derives {tokens : List Token} {operand : Operand}
    (derives : Source tokens operand) : operand.IsSource := by
  cases derives with
  | register names => exact .register names.2.1
  | memory memory =>
      cases memory with
      | mk opens names displaced closes => exact .memory names.2.1 _
  | absolute absolute =>
      cases absolute with
      | mk opens marked isNumber fits closes => exact .absolute _ _
  | constant marked signed isNumber fits => exact .immediate _ _

theorem wellFormed_of_statement {tokens : List Token} {instruction : Instruction}
    (statement : Statement tokens instruction) : instruction.WellFormed := by
  cases statement with
  | plain names takes =>
      rcases (Mnemonic.mem_plain_iff _).mp takes with ⟨known, form⟩
      exact .plain known form
  | destination names takes operand =>
      rcases (Mnemonic.mem_destination_iff _).mp takes with ⟨known, form⟩
      exact .destination known form (isDestination_of_derives operand)
  | source names takes operand =>
      rcases (Mnemonic.mem_source_iff _).mp takes with ⟨known, form⟩
      exact .source known form (isSource_of_derives operand)
  | destinationAndSource names takes first separates second =>
      rcases (Mnemonic.mem_destinationAndSource_iff _).mp takes with ⟨known, form⟩
      exact .destinationAndSource known form (isDestination_of_derives first)
        (isSource_of_derives second)

theorem wellFormed_of_statements {tokens : List Token} {program : List Instruction}
    (statements : Statements tokens program) :
    ∀ instruction ∈ program, instruction.WellFormed := by
  induction statements with
  | none => simp
  | next statement closes semicolons statements ih =>
      rw [List.forall_mem_cons]
      exact ⟨wellFormed_of_statement statement, ih⟩

/--
The parser gives well-formed instructions only, and any list of well-formed instructions
is what the parser gives for the tokens of its printed text.
-/
theorem parser_program_inverts_programText :
    (∀ tokens program, Parser.program tokens = .ok program →
      ∀ instruction ∈ program, instruction.WellFormed) ∧
    (∀ program : List Instruction, (∀ instruction ∈ program, instruction.WellFormed) →
      ∃ tokens, Lexer.tokens (Lexer.bytesOf (programText program)) = .ok tokens ∧
        Parser.program tokens = .ok program) := by
  constructor
  · intro tokens program accepted
    rw [Parser.program_eq_ok_iff_run, Parser.run_statement_iff] at accepted
    rcases accepted with ⟨_, statements⟩
    exact wellFormed_of_statements statements
  · intro program wellFormed
    rcases reads_programText wellFormed .start with ⟨tokens, read, statements⟩
    refine ⟨tokens, read, ?_⟩
    rw [Parser.program_eq_ok_iff_run]
    exact Parser.run_of_statements statements

/-- The least displacement, the least constant and the greatest address survive the round trip. -/
theorem parser_program_inverts_programText_extremes :
    let program : List Instruction :=
      [{ mnemonic := .mov, destination := { shape := .memory .ebp (-128) }
         source := { shape := .immediate (-2147483648), template := true } },
        { mnemonic := .mov, destination := { shape := .register .eax }
          source := { shape := .absolute 0xFFFFFFFF, template := true } },
        { mnemonic := .ret }]
    programText program =
        "mov [ebp-0x80], $-2147483648;\nmov eax, [$0xffffffff];\nret;\n" ∧
      ∃ tokens, Lexer.tokens (Lexer.bytesOf (programText program)) = .ok tokens ∧
        Parser.program tokens = .ok program := by
  intro program
  refine ⟨by decide, parser_program_inverts_programText.2 program ?_⟩
  intro instruction instructionMem
  simp only [program, List.mem_cons, List.not_mem_nil, or_false] at instructionMem
  rcases instructionMem with rfl | rfl | rfl
  · exact .destinationAndSource (by decide) rfl (.memory (by decide) _) (.immediate _ _)
  · exact .destinationAndSource (by decide) rfl (.register (by decide)) (.absolute _ _)
  · exact .plain (by decide) rfl

end Stencil
