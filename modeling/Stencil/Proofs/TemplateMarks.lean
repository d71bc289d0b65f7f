import Stencil.Proofs.Patching
import Stencil.Proofs.Placement
import Stencil.Proofs.Printing

/-!
# Every template mark becomes one slot

The grammar has a template mark only in front of the value of a source, and gives the
source that value. The encoder refuses a templated source or gives it one slot, which
holds the value. So the slots of an assembled text stand for its template marks, one by
one and in order, and hold what follows the marks in the text.
-/

namespace Stencil

namespace Grammar

/-! ### Marks in a token list -/

/-- What follows each template mark, in the order of the marks. -/
def behindMarks : List Token → List (List Token)
  | [] => []
  | token :: rest =>
    if token.isMark .dollar then rest :: behindMarks rest else behindMarks rest

/-- The tokens start with a number, perhaps behind a minus sign, that stands for the value. -/
def StartsWithValue (tokens : List Token) (value : Int32) : Prop :=
  ∃ signs negative number rest magnitude, tokens = signs ++ number :: rest ∧
    Optional .minus signs negative ∧ IsNumber number magnitude ∧
    IsConstant negative magnitude value

/-- The values follow the template marks of the tokens. -/
def Marked (tokens : List Token) (values : List Int32) : Prop :=
  List.Forall₂ StartsWithValue (behindMarks tokens) values

/-- None of the tokens is a template mark. -/
def Unmarked (tokens : List Token) : Prop :=
  ∀ token ∈ tokens, ¬token.isMark .dollar

theorem length_behindMarks (tokens : List Token) :
    (behindMarks tokens).length = tokens.countP (·.isMark .dollar) := by
  induction tokens with
  | nil => rfl
  | cons token rest ih =>
      rw [behindMarks, List.countP_cons, ← ih]
      split <;> simp

theorem behindMarks_append (first second : List Token) :
    behindMarks (first ++ second) =
      (behindMarks first).map (· ++ second) ++ behindMarks second := by
  induction first with
  | nil => rfl
  | cons token rest ih =>
      rw [List.cons_append, behindMarks, behindMarks, ih]
      split <;> simp

theorem behindMarks_eq_nil {tokens : List Token} (unmarked : Unmarked tokens) :
    behindMarks tokens = [] := by
  rw [← List.length_eq_zero_iff, length_behindMarks, List.countP_eq_zero]
  exact unmarked

theorem StartsWithValue.append {tokens : List Token} {value : Int32}
    (starts : StartsWithValue tokens value) (further : List Token) :
    StartsWithValue (tokens ++ further) value := by
  rcases starts with ⟨signs, negative, number, rest, magnitude, rfl, signed, isNumber, fits⟩
  exact ⟨signs, negative, number, rest ++ further, magnitude, by simp, signed, isNumber, fits⟩

theorem marked_append {first second : List Token} {firstValues secondValues : List Int32}
    (firstMarked : Marked first firstValues) (secondMarked : Marked second secondValues) :
    Marked (first ++ second) (firstValues ++ secondValues) := by
  rw [Marked, behindMarks_append]
  apply List.rel_append
  · rw [List.forall₂_map_left_iff]
    exact firstMarked.imp fun _ _ starts => starts.append second
  · exact secondMarked

theorem marked_of_unmarked {tokens : List Token} (unmarked : Unmarked tokens) :
    Marked tokens [] := by
  rw [Marked, behindMarks_eq_nil unmarked]
  exact .nil

theorem marked_append_unmarked {first second : List Token} {values : List Int32}
    (marked : Marked first values) (unmarked : Unmarked second) :
    Marked (first ++ second) values := by
  simpa using marked_append marked (marked_of_unmarked unmarked)

theorem marked_unmarked_append {first second : List Token} {values : List Int32}
    (unmarked : Unmarked first) (marked : Marked second values) :
    Marked (first ++ second) values := by
  simpa using marked_append (marked_of_unmarked unmarked) marked

/-! ### Marks in derivations -/

theorem unmarked_nil : Unmarked [] := by
  simp [Unmarked]

theorem unmarked_cons {token : Token} {rest : List Token} (first : ¬token.isMark .dollar)
    (unmarked : Unmarked rest) : Unmarked (token :: rest) :=
  List.forall_mem_cons.mpr ⟨first, unmarked⟩

theorem unmarked_append {first second : List Token} (firstUnmarked : Unmarked first)
    (secondUnmarked : Unmarked second) : Unmarked (first ++ second) :=
  List.forall_mem_append.mpr ⟨firstUnmarked, secondUnmarked⟩

theorem unmarked_mark {token : Token} {mark : Mark} (isMark : token.isMark mark)
    (different : mark ≠ .dollar) : Unmarked [token] :=
  unmarked_cons (Token.not_isMark_of_isMark isMark different) unmarked_nil

theorem unmarked_word {token : Token} (word : token.kind = .word) : Unmarked [token] :=
  unmarked_cons (Token.not_isMark_of_word word .dollar) unmarked_nil

theorem not_dollar_of_isNumber {token : Token} {magnitude : Nat}
    (isNumber : IsNumber token magnitude) : ¬token.isMark .dollar :=
  Token.not_isMark_of_number isNumber.1 .dollar

theorem unmarked_optional_minus {tokens : List Token} {present : Bool}
    (signed : Optional .minus tokens present) : Unmarked tokens := by
  cases signed with
  | absent => exact unmarked_nil
  | present isMark => exact unmarked_mark isMark (by decide)

theorem unmarked_offset {tokens : List Token} {displacement : Int8}
    (offset : Offset tokens displacement) : Unmarked tokens := by
  cases offset with
  | none => exact unmarked_nil
  | signed signed signedAgain isNumber fits =>
      apply unmarked_cons
      · cases signed with
        | plus isMark => exact Token.not_isMark_of_isMark isMark (by decide)
        | minus isMark => exact Token.not_isMark_of_isMark isMark (by decide)
      · apply unmarked_append (unmarked_optional_minus signedAgain)
        exact unmarked_cons (not_dollar_of_isNumber isNumber) unmarked_nil

theorem unmarked_memory {tokens : List Token} {shape : Shape} (memory : Memory tokens shape) :
    Unmarked tokens := by
  cases memory with
  | mk opens names displaced closes =>
      apply unmarked_cons (Token.not_isMark_of_isMark opens (by decide))
      apply unmarked_cons (Token.not_isMark_of_word names.1 .dollar)
      apply unmarked_append (unmarked_offset displaced)
      exact unmarked_mark closes (by decide)

/-- A value with or without a mark in front of it. -/
theorem marked_value {marks signs rest : List Token} {number : Token} {template negative : Bool}
    {magnitude : Nat} {value : Int32} (marked : Optional .dollar marks template)
    (signed : Optional .minus signs negative) (isNumber : IsNumber number magnitude)
    (fits : IsConstant negative magnitude value) (unmarked : Unmarked rest) :
    Marked (marks ++ (signs ++ number :: rest)) (if template then [value] else []) := by
  have unmarkedValue : Unmarked (signs ++ number :: rest) := by
    apply unmarked_append (unmarked_optional_minus signed)
    exact unmarked_cons (not_dollar_of_isNumber isNumber) unmarked
  cases marked with
  | absent => exact marked_of_unmarked unmarkedValue
  | present isMark =>
      rw [List.singleton_append, Marked, behindMarks, if_pos isMark,
        behindMarks_eq_nil unmarkedValue]
      apply List.Forall₂.cons _ .nil
      exact ⟨signs, negative, number, rest, magnitude, rfl, signed, isNumber, fits⟩

end Grammar

open Grammar

/-- The value that a templated operand gives to its slot. -/
def Operand.slotValue? (operand : Operand) : Option Int32 :=
  match operand.template, operand.shape with
  | true, .absolute address => some address.toInt32
  | true, .immediate value => some value
  | _, _ => none

namespace Grammar

theorem isConstant_of_isAddress {magnitude : Nat} {address : UInt32}
    (fits : IsAddress magnitude address) : IsConstant false magnitude address.toInt32 := by
  rw [IsConstant, if_neg (by decide), UInt32.toUInt32_toInt32]
  exact fits

theorem marked_absolute {tokens : List Token} {operand : Operand}
    (absolute : Absolute tokens operand) : Marked tokens operand.slotValue?.toList := by
  cases absolute with
  | @mk opening number closing marks template magnitude address opens marked isNumber fits closes =>
      have value := marked_value marked .absent isNumber (isConstant_of_isAddress fits)
        (unmarked_mark closes (by decide))
      have whole := marked_unmarked_append (unmarked_mark opens (by decide)) value
      cases template <;> exact whole

theorem marked_source {tokens : List Token} {operand : Operand} (source : Source tokens operand) :
    Marked tokens operand.slotValue?.toList := by
  cases source with
  | register names => exact marked_of_unmarked (unmarked_word names.1)
  | memory memory => exact marked_of_unmarked (unmarked_memory memory)
  | absolute absolute => exact marked_absolute absolute
  | @constant marks signs number template negative magnitude value marked signed isNumber fits =>
      have whole := marked_value marked signed isNumber fits unmarked_nil
      rw [List.append_assoc]
      cases template <;> exact whole

theorem unmarked_destination {tokens : List Token} {operand : Operand}
    (destination : Destination tokens operand) : Unmarked tokens := by
  cases destination with
  | register names => exact unmarked_word names.1
  | memory memory => exact unmarked_memory memory
  | absolute absolute untemplated =>
      cases absolute with
      | mk opens marked isNumber fits closes =>
          cases marked with
          | present isMark => simp at untemplated
          | absent =>
              apply unmarked_cons (Token.not_isMark_of_isMark opens (by decide))
              apply unmarked_cons (not_dollar_of_isNumber isNumber)
              exact unmarked_mark closes (by decide)

theorem marked_statement {tokens : List Token} {instruction : Instruction}
    (statement : Statement tokens instruction) :
    Marked tokens instruction.source.slotValue?.toList := by
  cases statement with
  | plain names takes => exact marked_of_unmarked (unmarked_word names.1)
  | destination names takes operand =>
      apply marked_of_unmarked
      exact unmarked_append (unmarked_word names.1) (unmarked_destination operand)
  | source names takes operand =>
      exact marked_unmarked_append (unmarked_word names.1) (marked_source operand)
  | destinationAndSource names takes first separates second =>
      apply marked_unmarked_append
      · exact unmarked_append (unmarked_word names.1) (unmarked_destination first)
      · exact marked_unmarked_append (unmarked_mark separates (by decide)) (marked_source second)

theorem unmarked_semicolons {tokens : List Token} (semicolons : Semicolons tokens) :
    Unmarked tokens :=
  fun token tokenMem => Token.not_isMark_of_isMark (semicolons token tokenMem) (by decide)

/-- The values of the templated sources of a program, in order. -/
def slotValues (program : List Instruction) : List Int32 :=
  program.flatMap fun instruction => instruction.source.slotValue?.toList

theorem marked_statements {tokens : List Token} {program : List Instruction}
    (statements : Statements tokens program) : Marked tokens (slotValues program) := by
  induction statements with
  | none => exact .nil
  | @next tokens further rest terminator instruction program statement closes semicolons _ ih =>
      have unmarkedEnd : Unmarked (terminator :: further) :=
        unmarked_cons (Token.not_isMark_of_isMark closes (by decide))
          (unmarked_semicolons semicolons)
      exact marked_append (marked_append_unmarked (marked_statement statement) unmarkedEnd) ih

theorem marked_program {tokens : List Token} {program : List Instruction}
    (derives : Program tokens program) : Marked tokens (slotValues program) := by
  rcases derives with ⟨semicolons, statements⟩
  exact marked_unmarked_append (unmarked_semicolons semicolons) (marked_statements statements)

/-- A final semicolon is no part of a value. -/
theorem startsWithValue_of_append_semicolon {tokens : List Token} {semicolon : Token}
    {value : Int32} (isMark : semicolon.isMark .semicolon)
    (starts : StartsWithValue (tokens ++ [semicolon]) value) : StartsWithValue tokens value := by
  rcases starts with ⟨signs, negative, number, rest, magnitude, split, signed, isNumber, fits⟩
  have parts : tokens ++ [semicolon] = (signs ++ [number]) ++ rest := by
    simpa using split
  rw [List.append_eq_append_iff] at parts
  rcases parts with ⟨between, before_eq, last_eq⟩ | ⟨later, rfl, _⟩
  · rw [List.singleton_eq_append_iff] at last_eq
    rcases last_eq with ⟨rfl, _⟩ | ⟨rfl, _⟩
    · rw [List.append_nil] at before_eq
      exact ⟨signs, negative, number, [], magnitude, before_eq.symm, signed, isNumber, fits⟩
    · have number_eq : number = semicolon := by
        simpa using (List.append_inj' before_eq rfl).2
      subst number_eq
      exact absurd isMark (Token.not_isMark_of_number isNumber.1 .semicolon)
  · exact ⟨signs, negative, number, later, magnitude, by simp, signed, isNumber, fits⟩

theorem marked_of_append_semicolon {tokens : List Token} {semicolon : Token}
    {values : List Int32} (isMark : semicolon.isMark .semicolon)
    (marked : Marked (tokens ++ [semicolon]) values) : Marked tokens values := by
  rw [Marked, behindMarks_append, behindMarks_eq_nil (unmarked_mark isMark (by decide)),
    List.append_nil, List.forall₂_map_left_iff] at marked
  exact marked.imp fun _ _ starts => startsWithValue_of_append_semicolon isMark starts

end Grammar

/-! ### Slots of templated sources -/

theorem Operand.slotValue?_eq_some {operand : Operand} {value : Int32}
    (valued : operand.slotValue? = some value) :
    operand.template = true ∧ operand.carrying value = operand := by
  rcases operand with ⟨shape, template⟩
  cases template with
  | false => simp [slotValue?] at valued
  | true =>
      cases shape with
      | absolute address =>
          simp only [slotValue?, Option.some.injEq] at valued
          simp [carrying, ← valued]
      | immediate own =>
          simp only [slotValue?, Option.some.injEq] at valued
          simp [carrying, ← valued]
      | _ => simp [slotValue?] at valued

theorem Operand.untemplated_of_slotValue? {operand : Operand} (canonical : operand.Canonical)
    (valueless : operand.slotValue? = none) : operand.template = false := by
  rcases operand with ⟨shape, template⟩
  cases template with
  | false => rfl
  | true =>
      cases shape with
      | absolute address => simp [slotValue?] at valueless
      | immediate value => simp [slotValue?] at valueless
      | _ => simpa [Shape.isAbsolute, Shape.isImmediate] using canonical rfl

/-- The encoding of a templated source ends in its slot, which holds the value of the source. -/
theorem Encoding.withWord_of_slotValue? {instruction : Instruction} {encoding : Encoding}
    {value : Int32} (encoded : ofInstruction instruction = .ok encoding)
    (canonical : instruction.source.Canonical)
    (valued : instruction.source.slotValue? = some value) :
    ∃ lead, encoding = withWord lead value.toUInt32 true := by
  rcases Operand.slotValue?_eq_some valued with ⟨templated, same⟩
  rcases ofInstruction_carrying encoded canonical templated with ⟨lead, _, _, carried⟩
  have again := carried value
  rw [same, encoded, Except.ok.injEq] at again
  exact ⟨lead, again⟩

namespace Template

/--
The slots of linked encodings hold the values of the templated sources. `before` is the
code in front of the encodings.
-/
theorem read?_slotsFrom {program : List Instruction} {encodings : List Encoding}
    (encodes : Encodes program encodings)
    (canonical : ∀ instruction ∈ program, instruction.source.Canonical) (before : List UInt8)
    (bounded : (before ++ codeOf encodings).length < 2 ^ 63) :
    List.Forall₂ (fun slot (value : Int32) =>
        LittleEndian.read? (before ++ codeOf encodings) slot = some value.toUInt32)
      (slotsFrom before.length encodings) (slotValues program) := by
  induction encodes generalizing before with
  | nil => exact .nil
  | @cons instruction encoding program encodings encoded _ ih =>
      rw [List.forall_mem_cons] at canonical
      cases valued : instruction.source.slotValue? with
      | none =>
          have untemplated := Operand.untemplated_of_slotValue? canonical.1 valued
          have unslotted := Encoding.slot_eq_none_of_untemplated encoded untemplated
          have rest := ih canonical.2 (before ++ encoding.bytes) (by simpa using bounded)
          rw [slotsFrom_cons_plain unslotted]
          simpa [slotValues, valued] using rest
      | some value =>
          rcases Encoding.withWord_of_slotValue? encoded canonical.1 valued with ⟨lead, rfl⟩
          have code_eq :
              before ++ codeOf (Encoding.withWord lead value.toUInt32 true :: encodings) =
              before ++ lead ++ LittleEndian.bytes value.toUInt32 ++ codeOf encodings := by
            simp [Encoding.withWord]
          rw [code_eq] at bounded ⊢
          have rest := ih canonical.2 (before ++ lead ++ LittleEndian.bytes value.toUInt32) bounded
          have start_eq : (Int64.ofNat (before.length + lead.length)).toInt =
              (before ++ lead).length := by
            simp only [List.length_append] at bounded ⊢
            exact Int64.toInt_ofNat_of_lt (by omega)
          simp only [List.length_append, LittleEndian.length_bytes, LittleEndian.width] at rest
          have values_eq : slotValues (instruction :: program) = value :: slotValues program := by
            simp [slotValues, valued]
          rw [slotsFrom_cons_withWord, values_eq]
          exact .cons (LittleEndian.read?_split start_eq value.toUInt32) rest

theorem values?_of_assembled {program : List Instruction} {template : Template}
    (canonical : ∀ instruction ∈ program, instruction.source.Canonical)
    (assembled : assembleProgram program = .ok template) (addressable : template.Addressable) :
    template.values? = some (slotValues program) := by
  rcases (assembleProgram_eq_ok_iff program template).mp assembled with ⟨encodings, encodes, rfl⟩
  rw [values?_eq_some_iff]
  exact read?_slotsFrom encodes canonical [] addressable

end Template

theorem canonical_source_of_program {tokens : List Token} {program : List Instruction}
    (derives : Program tokens program) :
    ∀ instruction ∈ program, instruction.source.Canonical := by
  rcases derives with ⟨_, statements⟩
  intro instruction instructionMem
  exact Instruction.canonical_source_of_wellFormed
    (wellFormed_of_statements statements instruction instructionMem)

/--
The slots of an assembled text are as many as its template marks, and hold, in order, the
values that follow the marks.
-/
theorem slots_follow_template_marks {source : List UInt8} {template : Template}
    (assembled : assemble source = .ok template) (addressable : template.Addressable) :
    ∃ tokens values, Lexer.tokens source = .ok tokens ∧ template.values? = some values ∧
      template.slots.length = tokens.countP (·.isMark .dollar) ∧
      List.Forall₂ StartsWithValue (behindMarks tokens) values := by
  rcases (assemble_eq_ok_iff source template).mp assembled with ⟨program, read, linked⟩
  rcases (programOf_eq_ok_iff source program).mp read with ⟨tokens, lexed, parsed⟩
  rw [Parser.program_eq_ok_iff_run, Parser.run_statement_iff] at parsed
  have values_eq :=
    Template.values?_of_assembled (canonical_source_of_program parsed) linked addressable
  have marked := marked_of_append_semicolon (Token.isMark_terminator tokens) (marked_program parsed)
  refine ⟨tokens, slotValues program, lexed, values_eq, ?_, marked⟩
  have slotCount := ((Template.values?_eq_some_iff template _).mp values_eq).length_eq
  rw [slotCount, ← marked.length_eq, length_behindMarks]

/-- A mark in a comment counts for nothing, and an address may use all its bits. -/
theorem slots_follow_template_marks_load_jump :
    let source := Lexer.bytesOf "mov eax, [$0xFFFFFFFE]; # $9\njmp $-3"
    let template : Template :=
      { code := [0x8B, 0x05, 0xFE, 0xFF, 0xFF, 0xFF, 0xE9, 0xFD, 0xFF, 0xFF, 0xFF]
        slots := [2, 7] }
    assemble source = .ok template ∧ template.Addressable ∧ template.values? = some [-2, -3] ∧
      ∃ tokens values, Lexer.tokens source = .ok tokens ∧ template.values? = some values ∧
        template.slots.length = tokens.countP (·.isMark .dollar) ∧
        List.Forall₂ StartsWithValue (behindMarks tokens) values := by
  intro source template
  have assembled : assemble source = .ok template := by decide +kernel
  have addressable : template.Addressable := by
    unfold Template.Addressable
    decide
  exact ⟨assembled, addressable, by decide, slots_follow_template_marks assembled addressable⟩

end Stencil
