import Stencil.Instruction.Flat
import Stencil.Proofs.EncodingTable

/-!
# The checks of the encoder

An instruction may come from outside as a flat record with any numbers in it. This file
lists what the encoder checks, in order, each check with the category of its refusal. The
encoder refuses an instruction with the category of the first check that it does not
pass, and gives every other instruction the code of its row of the encoding table. Fields
that the kind of an operand does not use have no influence.

The checks fall into two groups, as the encoder does: those of the operands, which are
made for all operations alike, and those of the row.
-/

namespace Stencil

namespace Shape

/-- The base register of a memory operand. -/
def base? : Shape → Option Register
  | memory base _ => some base
  | _ => none

end Shape

namespace Mnemonic

def isShift : Mnemonic → Bool
  | shl | shr => true
  | _ => false

end Mnemonic

namespace Encoding

/-- The table has a row for the operation with operands of these kinds. -/
def hasRow (mnemonic : Mnemonic) (destination source : Shape) : Bool :=
  match mnemonic with
  | .mov =>
    destination.isRegister &&
        (source.isRegister || source.isMemory || source.isAbsolute || source.isImmediate) ||
      destination.isMemory && (source.isRegister || source.isImmediate)
  | .add | .sub | .shl | .shr => destination.isRegister && (source.isRegister || source.isImmediate)
  | .push | .call | .jmp => source.isRegister || source.isImmediate
  | .pop => destination.isRegister
  | .ret | .nop => true
  | .unknown _ => false

/-- What the encoder checks. -/
inductive Check where
  | destinationPresence
  | destinationRegister
  | sourcePresence
  | sourceRegister
  | destinationTemplate
  | mnemonic
  | row
  | countRegister
  | templatedShift
  | shiftCount
  | stackBase
deriving DecidableEq

namespace Check

/-- The checks of the operands, in order. -/
def ofOperands : List Check :=
  [destinationPresence, destinationRegister, sourcePresence, sourceRegister, destinationTemplate]

/-- The checks of the row, in order. -/
def ofRow : List Check := [mnemonic, row, countRegister, templatedShift, shiftCount, stackBase]

/-- All checks, in order. -/
def all : List Check := ofOperands ++ ofRow

/-- The category of the refusal of an instruction that does not pass the check. -/
def category : Check → Category
  | destinationPresence => .unsupportedOperands
  | destinationRegister => .unknownRegister
  | sourcePresence => .unsupportedOperands
  | sourceRegister => .unknownRegister
  | destinationTemplate => .unsupportedOperands
  | mnemonic => .unknownMnemonic
  | row => .unsupportedOperands
  | countRegister => .unsupportedOperands
  | templatedShift => .templatedShift
  | shiftCount => .shiftCountRange
  | stackBase => .stackBase

/-- The instruction passes the check. -/
def passes (instruction : Instruction) : Check → Bool
  | destinationPresence =>
    instruction.destination.shape.isPresent == instruction.mnemonic.form.hasDestination
  | destinationRegister => instruction.destination.shape.register?.all (·.Valid)
  | sourcePresence => instruction.source.shape.isPresent == instruction.mnemonic.form.hasSource
  | sourceRegister => instruction.source.shape.register?.all (·.Valid)
  | destinationTemplate => !instruction.destination.template
  | mnemonic => Mnemonic.all.contains instruction.mnemonic
  | row => hasRow instruction.mnemonic instruction.destination.shape instruction.source.shape
  | countRegister =>
    match instruction.source.shape with
    | .register count => !instruction.mnemonic.isShift || count = .ecx
    | _ => true
  | templatedShift =>
    !(instruction.mnemonic.isShift && instruction.source.shape.isImmediate &&
      instruction.source.template)
  | shiftCount =>
    match instruction.source.shape with
    | .immediate count => !instruction.mnemonic.isShift || (0 ≤ count && count ≤ 255)
    | _ => true
  | stackBase =>
    instruction.destination.shape.base? ≠ some .esp && instruction.source.shape.base? ≠ some .esp

/-- The first of some checks that the instruction does not pass. -/
def firstFailed? (instruction : Instruction) (checks : List Check) : Option Check :=
  checks.find? fun check => !check.passes instruction

theorem firstFailed?_eq_none_iff (instruction : Instruction) (checks : List Check) :
    firstFailed? instruction checks = none ↔ ∀ check ∈ checks, check.passes instruction = true := by
  simp [firstFailed?]

theorem firstFailed?_append (instruction : Instruction) (first second : List Check) :
    firstFailed? instruction (first ++ second) =
      (firstFailed? instruction first).or (firstFailed? instruction second) := by
  simp [firstFailed?]

theorem firstFailed?_singleton (instruction : Instruction) (check : Check) :
    firstFailed? instruction [check] = if check.passes instruction then none else some check := by
  cases passed : check.passes instruction <;> simp [firstFailed?, passed]

/-- Where all other checks are passed, only the remaining one can fail. -/
theorem firstFailed?_of_others_passed {instruction : Instruction} {before after : List Check}
    (check : Check) (beforePassed : before.all (·.passes instruction) = true)
    (afterPassed : after.all (·.passes instruction) = true) :
    firstFailed? instruction (before ++ ([check] ++ after)) =
      if check.passes instruction then none else some check := by
  have noneBefore :=
    (firstFailed?_eq_none_iff instruction before).mpr (List.all_eq_true.mp beforePassed)
  have noneAfter :=
    (firstFailed?_eq_none_iff instruction after).mpr (List.all_eq_true.mp afterPassed)
  rw [firstFailed?_append, firstFailed?_append, noneBefore, noneAfter, Option.none_or,
    Option.or_none, firstFailed?_singleton]

end Check

/-- The category with which an instruction was refused. -/
def refusal? : Except EncodingError Encoding → Option Category
  | .ok _ => none
  | .error error => some error.category

/-! ### The checks of the operands -/

theorem category_operandFault? (instruction : Instruction) (operand : Operand) (expected : Bool)
    (presence register : Check)
    (presence_eq : presence.passes instruction = (operand.shape.isPresent == expected))
    (register_eq : register.passes instruction = operand.shape.register?.all (·.Valid))
    (unsupported : presence.category = .unsupportedOperands)
    (unknown : register.category = .unknownRegister) :
    (operandFault? instruction operand expected).map EncodingError.category =
      (Check.firstFailed? instruction [presence, register]).map Check.category := by
  by_cases present : operand.shape.isPresent = expected
  · cases mentioned : operand.shape.register? with
    | none => simp [operandFault?, Check.firstFailed?, presence_eq, register_eq, present, mentioned]
    | some used =>
        by_cases valid : used.Valid
        · simp [operandFault?, Check.firstFailed?, presence_eq, register_eq, present, mentioned,
            valid]
        · simp [operandFault?, Check.firstFailed?, presence_eq, register_eq, present, mentioned,
            valid, unknown, EncodingError.category]
  · simp [operandFault?, Check.firstFailed?, presence_eq, present, unsupported,
      EncodingError.category]

theorem fault?_eq_or (instruction : Instruction) :
    fault? instruction =
      (operandFault? instruction instruction.destination
        instruction.mnemonic.form.hasDestination).or
      ((operandFault? instruction instruction.source instruction.mnemonic.form.hasSource).or
        (if instruction.destination.template then some (.templatedDestination instruction)
        else none)) := by
  unfold fault?
  dsimp only
  cases operandFault? instruction instruction.destination
      instruction.mnemonic.form.hasDestination with
  | some error => rfl
  | none =>
      cases operandFault? instruction instruction.source instruction.mnemonic.form.hasSource <;> rfl

theorem category_fault? (instruction : Instruction) :
    (fault? instruction).map EncodingError.category =
      (Check.firstFailed? instruction Check.ofOperands).map Check.category := by
  have inOrder : Check.ofOperands = [Check.destinationPresence, Check.destinationRegister] ++
      ([Check.sourcePresence, Check.sourceRegister] ++ [Check.destinationTemplate]) := rfl
  rw [fault?_eq_or, inOrder, Check.firstFailed?_append, Check.firstFailed?_append, Option.map_or,
    Option.map_or, Option.map_or, Option.map_or,
    category_operandFault? instruction instruction.destination _ .destinationPresence
      .destinationRegister rfl rfl rfl rfl,
    category_operandFault? instruction instruction.source _ .sourcePresence .sourceRegister
      rfl rfl rfl rfl, Check.firstFailed?_singleton]
  cases templated : instruction.destination.template with
  | false => simp [Check.passes, templated]
  | true => simp [Check.passes, templated, Check.category, EncodingError.category]

/-! ### The checks of the row -/

/-- An instruction is refused by its row as the checks of the row say. -/
def RowChecked (instruction : Instruction) : Prop :=
  refusal? (row instruction) = (Check.firstFailed? instruction Check.ofRow).map Check.category

theorem refusal?_memoryBytes {field : UInt8} {base : Register} {displacement : Int8}
    {operand : Operand} (valid : base.Valid) (build : List UInt8 → Encoding) :
    refusal? ((memoryBytes field base displacement operand).map build) =
      if base = .esp then some .stackBase else none := by
  simp only [memoryBytes, code_eq_esp_iff valid]
  split
  · rfl
  · rfl

/-- Where one operand is in memory and all else is in order, only its base can be wrong. -/
theorem category_of_base {instruction : Instruction} {base : Register}
    (passed : Check.ofRow.dropLast.all (·.passes instruction) = true)
    (alone : instruction.destination.shape.base? = some base ∧
        instruction.source.shape.base? = none ∨
      instruction.destination.shape.base? = none ∧
        instruction.source.shape.base? = some base) :
    (Check.firstFailed? instruction Check.ofRow).map Check.category =
      if base = .esp then some .stackBase else none := by
  have last : Check.stackBase.passes instruction = decide (base ≠ .esp) := by
    rcases alone with ⟨destination, source⟩ | ⟨destination, source⟩
    · simp [Check.passes, destination, source]
    · simp [Check.passes, destination, source]
  have inOrder : Check.ofRow = Check.ofRow.dropLast ++ ([Check.stackBase] ++ []) := rfl
  rw [inOrder, Check.firstFailed?_of_others_passed .stackBase passed rfl, last]
  by_cases stack : base = .esp
  · simp [stack, Check.category]
  · simp [stack]

theorem rowChecked_move {destination source : Operand}
    (destinationValid : destination.shape.RegistersValid)
    (sourceValid : source.shape.RegistersValid) :
    RowChecked { mnemonic := .mov, destination, source } := by
  rcases destination with ⟨destinationShape, destinationTemplate⟩
  rcases source with ⟨sourceShape, template⟩
  rw [RowChecked, row]
  cases destinationShape with
  | register target =>
      cases sourceShape with
      | memory base displacement =>
          rw [move, refusal?_memoryBytes (sourceValid base rfl),
            category_of_base rfl (.inr ⟨rfl, rfl⟩)]
      | _ => rfl
  | memory base displacement =>
      have baseValid := destinationValid base rfl
      cases sourceShape with
      | register source =>
          rw [move, refusal?_memoryBytes baseValid, category_of_base rfl (.inl ⟨rfl, rfl⟩)]
      | immediate value =>
          rw [move, refusal?_memoryBytes baseValid, category_of_base rfl (.inl ⟨rfl, rfl⟩)]
      | _ => rfl
  | _ => rfl

theorem rowChecked_arithmetic {mnemonic : Mnemonic} {opcode direct : UInt8}
    (operation : Arithmetic mnemonic opcode direct) (destination source : Operand) :
    RowChecked { mnemonic, destination, source } := by
  rcases destination with ⟨destinationShape, destinationTemplate⟩
  rcases source with ⟨sourceShape, template⟩
  cases operation <;> cases destinationShape <;> cases sourceShape <;> rfl

theorem rowChecked_shiftByRegister {mnemonic : Mnemonic} {direct : UInt8}
    (operation : Shift mnemonic direct) (target count : Register) (mark template : Bool) :
    RowChecked ⟨mnemonic, ⟨.register target, mark⟩, ⟨.register count, template⟩⟩ := by
  have inOrder : Check.ofRow = [Check.mnemonic, Check.row] ++
      ([Check.countRegister] ++ [Check.templatedShift, Check.shiftCount, Check.stackBase]) := rfl
  rw [RowChecked, inOrder, Check.firstFailed?_of_others_passed .countRegister
    (by cases operation <;> rfl) (by cases operation <;> rfl)]
  by_cases isCounter : count = .ecx
  · subst isCounter
    cases operation <;> rfl
  · cases operation <;>
      simp [row, shift, isCounter, refusal?, Check.passes, Mnemonic.isShift, Check.category,
        EncodingError.category]

theorem rowChecked_shiftByConstant {mnemonic : Mnemonic} {direct : UInt8}
    (operation : Shift mnemonic direct) (target : Register) (count : Int32) (mark : Bool) :
    RowChecked ⟨mnemonic, ⟨.register target, mark⟩, ⟨.immediate count, false⟩⟩ := by
  have inOrder : Check.ofRow =
      [Check.mnemonic, Check.row, Check.countRegister, Check.templatedShift] ++
        ([Check.shiftCount] ++ [Check.stackBase]) := rfl
  rw [RowChecked, inOrder, Check.firstFailed?_of_others_passed .shiftCount
    (by cases operation <;> rfl) (by cases operation <;> rfl)]
  by_cases isOutside : count < 0 ∨ 255 < count
  · have notInside : ¬(0 ≤ count ∧ count ≤ 255) := by
      rwa [← Int32.not_lt, ← Int32.not_lt, ← not_or, not_not]
    cases operation <;>
      simp [row, shift, isOutside, notInside, refusal?, Check.passes, Mnemonic.isShift,
        Check.category, EncodingError.category]
  · have isInside : 0 ≤ count ∧ count ≤ 255 := by
      rwa [← Int32.not_lt, ← Int32.not_lt, ← not_or]
    have accepted (field : UInt8) : refusal?
        (shift field ⟨mnemonic, ⟨.register target, mark⟩, ⟨.immediate count, false⟩⟩) = none := by
      simp only [shift, isOutside, if_false, Bool.false_eq_true]
      split <;> rfl
    cases operation <;> simp [row, accepted, isInside, Check.passes]

theorem rowChecked_shift {mnemonic : Mnemonic} {direct : UInt8}
    (operation : Shift mnemonic direct) (destination source : Operand) :
    RowChecked { mnemonic, destination, source } := by
  rcases destination with ⟨destinationShape, destinationTemplate⟩
  rcases source with ⟨sourceShape, template⟩
  cases destinationShape with
  | register target =>
      cases sourceShape with
      | register count =>
          exact rowChecked_shiftByRegister operation target count destinationTemplate template
      | immediate count =>
          -- The mark is refused before the count is looked at.
          cases template with
          | true => cases operation <;> rfl
          | false => exact rowChecked_shiftByConstant operation target count destinationTemplate
      | _ => cases operation <;> rfl
  | _ => cases operation <;> cases sourceShape <;> rfl

theorem rowChecked_push (mark : Bool) (source : Operand) :
    RowChecked ⟨.push, ⟨.absent, mark⟩, source⟩ := by
  rcases source with ⟨sourceShape, template⟩
  rw [RowChecked]
  cases sourceShape <;> rfl

theorem rowChecked_pop (destination : Operand) (template : Bool) :
    RowChecked ⟨.pop, destination, ⟨.absent, template⟩⟩ := by
  rcases destination with ⟨destinationShape, mark⟩
  rw [RowChecked]
  cases destinationShape <;> rfl

theorem rowChecked_call (mark : Bool) (source : Operand) :
    RowChecked ⟨.call, ⟨.absent, mark⟩, source⟩ := by
  rcases source with ⟨sourceShape, template⟩
  rw [RowChecked]
  cases sourceShape <;> rfl

theorem rowChecked_jump (mark : Bool) (source : Operand) :
    RowChecked ⟨.jmp, ⟨.absent, mark⟩, source⟩ := by
  rcases source with ⟨sourceShape, template⟩
  rw [RowChecked]
  cases sourceShape with
  | immediate value =>
      simp only [row, jump]
      split <;> rfl
  | _ => rfl

theorem rowChecked_of_faultless {instruction : Instruction}
    (faultless : fault? instruction = none) : RowChecked instruction := by
  rcases (fault?_eq_none_iff instruction).mp faultless with
    ⟨⟨destinationForm, destinationValid⟩, ⟨sourceForm, sourceValid⟩, _⟩
  rcases instruction with ⟨mnemonic, ⟨destination, mark⟩, ⟨source, template⟩⟩
  -- An operand that the operation does not take is absent, and so brings no base register.
  cases mnemonic with
  | mov => exact rowChecked_move destinationValid sourceValid
  | add => exact rowChecked_arithmetic .addition ⟨destination, mark⟩ ⟨source, template⟩
  | sub => exact rowChecked_arithmetic .subtraction ⟨destination, mark⟩ ⟨source, template⟩
  | shl => exact rowChecked_shift .left ⟨destination, mark⟩ ⟨source, template⟩
  | shr => exact rowChecked_shift .right ⟨destination, mark⟩ ⟨source, template⟩
  | push =>
      rw [show destination = .absent from Shape.isPresent_eq_false_iff.mp destinationForm]
      exact rowChecked_push mark ⟨source, template⟩
  | pop =>
      rw [show source = .absent from Shape.isPresent_eq_false_iff.mp sourceForm]
      exact rowChecked_pop ⟨destination, mark⟩ template
  | call =>
      rw [show destination = .absent from Shape.isPresent_eq_false_iff.mp destinationForm]
      exact rowChecked_call mark ⟨source, template⟩
  | jmp =>
      rw [show destination = .absent from Shape.isPresent_eq_false_iff.mp destinationForm]
      exact rowChecked_jump mark ⟨source, template⟩
  | ret =>
      rw [show destination = .absent from Shape.isPresent_eq_false_iff.mp destinationForm,
        show source = .absent from Shape.isPresent_eq_false_iff.mp sourceForm]
      rfl
  | nop =>
      rw [show destination = .absent from Shape.isPresent_eq_false_iff.mp destinationForm,
        show source = .absent from Shape.isPresent_eq_false_iff.mp sourceForm]
      rfl
  | unknown number => rfl

/-! ### All checks -/

theorem refusal?_ofInstruction (instruction : Instruction) :
    refusal? (ofInstruction instruction) =
      (Check.firstFailed? instruction Check.all).map Check.category := by
  rw [Check.all, Check.firstFailed?_append, Option.map_or, ← category_fault? instruction]
  cases faulty : fault? instruction with
  | some error => simp [ofInstruction, faulty, refusal?]
  | none =>
      simp only [ofInstruction, faulty, Option.map_none, Option.none_or]
      exact rowChecked_of_faultless faulty

theorem exists_ok_iff_passes (instruction : Instruction) :
    (∃ encoding, ofInstruction instruction = .ok encoding) ↔
      ∀ check ∈ Check.all, check.passes instruction = true := by
  have refused := refusal?_ofInstruction instruction
  rw [← Check.firstFailed?_eq_none_iff]
  cases outcome : ofInstruction instruction with
  | ok encoding =>
      rw [outcome, refusal?, eq_comm, Option.map_eq_none_iff] at refused
      simp [refused]
  | error error =>
      rw [outcome, refusal?, eq_comm, Option.map_eq_some_iff] at refused
      rcases refused with ⟨check, failed, _⟩
      simp [failed]

theorem ofInstruction_eq_ok_iff_passes (instruction : Instruction) (encoding : Encoding) :
    ofInstruction instruction = .ok encoding ↔
      (∀ check ∈ Check.all, check.passes instruction = true) ∧
      Row instruction.source.template instruction.mnemonic instruction.destination.shape
        instruction.source.shape encoding := by
  constructor
  · intro encoded
    refine ⟨(exists_ok_iff_passes instruction).mp ⟨encoding, encoded⟩, ?_⟩
    rw [ofInstruction_eq_ok_iff] at encoded
    exact encoded.2.2.2
  · rintro ⟨passed, row⟩
    rcases (exists_ok_iff_passes instruction).mpr passed with ⟨other, encoded⟩
    rw [ofInstruction_eq_ok_iff] at encoded ⊢
    exact ⟨encoded.1, encoded.2.1, encoded.2.2.1, row⟩

theorem category_eq_of_error {instruction : Instruction} {error : EncodingError}
    (refused : ofInstruction instruction = .error error) :
    ∃ check, Check.firstFailed? instruction Check.all = some check ∧
      error.category = check.category := by
  have category := refusal?_ofInstruction instruction
  rw [refused, refusal?, eq_comm, Option.map_eq_some_iff] at category
  rcases category with ⟨check, failed, same⟩
  exact ⟨check, failed, same.symm⟩

/-! ### Slots -/

/-- The operand is given by a word, which a template mark makes a slot. -/
def hasWord (shape : Shape) : Bool :=
  shape.isAbsolute || shape.isImmediate

theorem plain_or_withWord_of_row_templated {mnemonic : Mnemonic} {destination source : Shape}
    {encoding : Encoding} (row : Row true mnemonic destination source encoding) :
    (hasWord source = false ∧ ∃ bytes, encoding = plain bytes) ∨
      hasWord source = true ∧ ∃ lead word, encoding = withWord lead word true := by
  cases row with
  | moveAbsolute target address => exact .inr ⟨rfl, [_, _], _, eq_withWord rfl rfl⟩
  | moveConstant target value => exact .inr ⟨rfl, [_], _, eq_withWord rfl rfl⟩
  | moveStoreConstant base displacement value notStack =>
      exact .inr ⟨rfl, [_, _, _], _, eq_withWord rfl rfl⟩
  | arithmeticConstant operation target value => exact .inr ⟨rfl, [_, _], _, eq_withWord rfl rfl⟩
  | pushConstant value => exact .inr ⟨rfl, [_], _, eq_withWord rfl rfl⟩
  | callOffset value => exact .inr ⟨rfl, [_], _, eq_withWord rfl rfl⟩
  | jumpNear value far => exact .inr ⟨rfl, [_], _, eq_withWord rfl rfl⟩
  | shiftByOne operation target untemplated => cases untemplated
  | shiftByConstant operation target count untemplated => cases untemplated
  | jumpShort value untemplated => cases untemplated
  | _ => exact .inl ⟨rfl, _, rfl⟩

theorem slotNumber_withWord (lead : List UInt8) (word : UInt32) :
    (withWord lead word true).slotNumber =
      Int64.ofNat (withWord lead word true).bytes.length - 4 := by
  have four : (4 : Int64) = Int64.ofNat 4 := rfl
  have length : (withWord lead word true).bytes.length = lead.length + 4 := by
    simp [withWord, LittleEndian.bytes]
  rw [length, Int64.ofNat_add, ← four, Int64.add_sub_cancel]
  rfl

theorem slotNumber_of_row {template : Bool} {mnemonic : Mnemonic} {destination source : Shape}
    {encoding : Encoding} (row : Row template mnemonic destination source encoding) :
    encoding.slotNumber =
      if template && hasWord source then Int64.ofNat encoding.bytes.length - 4 else -1 := by
  cases template with
  | false =>
      rw [slotNumber, slot_of_row_untemplated row]
      rfl
  | true =>
      rcases plain_or_withWord_of_row_templated row with
        ⟨wordless, bytes, rfl⟩ | ⟨worded, lead, word, rfl⟩
      · rw [wordless]
        rfl
      · rw [worded, slotNumber_withWord]
        rfl

/-- The mark of a source without a word has no influence on its row. -/
theorem row_of_wordless {template : Bool} {mnemonic : Mnemonic} {destination source : Shape}
    {encoding : Encoding} (row : Row template mnemonic destination source encoding)
    (wordless : hasWord source = false) (other : Bool) :
    Row other mnemonic destination source encoding := by
  cases row with
  | moveRegister target source => exact .moveRegister target source
  | moveLoad target base displacement notStack => exact .moveLoad target base displacement notStack
  | moveStore base source displacement notStack =>
      exact .moveStore base source displacement notStack
  | arithmeticRegister operation target source => exact .arithmeticRegister operation target source
  | shiftByRegister operation target => exact .shiftByRegister operation target
  | pushRegister source => exact .pushRegister source
  | popRegister target => exact .popRegister target
  | callRegister source => exact .callRegister source
  | «return» => exact .return
  | jumpRegister source => exact .jumpRegister source
  | nothing => exact .nothing
  | _ => cases wordless

/-! ### Flat records -/

/--
The instructions agree, except that the mark of a source without a word may differ, which
is how far records that agree in all that they use determine an instruction.
-/
def SameInstruction (first second : Instruction) : Prop :=
  first.mnemonic = second.mnemonic ∧ first.destination = second.destination ∧
    first.source.shape = second.source.shape ∧
    (hasWord first.source.shape = true → first.source.template = second.source.template)

theorem passes_of_sameInstruction {first second : Instruction}
    (same : SameInstruction first second) (check : Check) :
    check.passes first = check.passes second := by
  rcases first with ⟨mnemonic, destination, ⟨shape, template⟩⟩
  rcases second with ⟨_, _, ⟨_, otherTemplate⟩⟩
  rcases same with ⟨rfl, rfl, rfl, marked⟩
  cases check with
  | templatedShift =>
      cases shape with
      | immediate value =>
          have sameTemplate : template = otherTemplate := marked rfl
          rw [sameTemplate]
      | _ => simp [Check.passes, Shape.isImmediate]
  | _ => rfl

theorem row_of_sameInstruction {first second : Instruction} {encoding : Encoding}
    (same : SameInstruction first second)
    (row : Row first.source.template first.mnemonic first.destination.shape first.source.shape
      encoding) :
    Row second.source.template second.mnemonic second.destination.shape second.source.shape
      encoding := by
  rcases same with ⟨mnemonic, destination, shape, marked⟩
  rw [← mnemonic, ← destination, ← shape]
  cases worded : hasWord first.source.shape with
  | true =>
      rw [← marked worded]
      exact row
  | false => exact row_of_wordless row worded second.source.template

theorem ofInstruction_of_sameInstruction {first second : Instruction}
    (same : SameInstruction first second) :
    refusal? (ofInstruction first) = refusal? (ofInstruction second) ∧
      ∀ encoding, ofInstruction first = .ok encoding → ofInstruction second = .ok encoding := by
  constructor
  · rw [refusal?_ofInstruction, refusal?_ofInstruction, Check.firstFailed?, Check.firstFailed?]
    simp only [passes_of_sameInstruction same]
  · intro encoding encoded
    rw [ofInstruction_eq_ok_iff_passes] at encoded ⊢
    simp only [← passes_of_sameInstruction same]
    exact ⟨encoded.1, row_of_sameInstruction same encoded.2⟩

end Encoding

namespace FlatOperand

/-- The records agree in their kinds and in all fields that an operand of the kind uses. -/
def SameUse (first second : FlatOperand) : Prop :=
  first.kind = second.kind ∧
  (first.kind = 1 ∨ first.kind = 2 → first.register = second.register) ∧
  (first.kind = 2 → first.displacement = second.displacement) ∧
  (first.kind = 3 → first.address = second.address) ∧
  (first.kind = 4 → first.value = second.value) ∧
  (first.kind = 3 ∨ first.kind = 4 → first.template = second.template)
deriving Decidable

theorem shape_eq_of_sameUse {first second : FlatOperand} (same : SameUse first second) :
    first.shape = second.shape := by
  rcases same with ⟨kind, register, displacement, address, value, _⟩
  unfold shape
  rw [← kind]
  split_ifs with absent isRegister isMemory isAbsolute isImmediate
  · rfl
  · rw [register (.inl isRegister)]
  · rw [register (.inr isMemory), displacement isMemory]
  · rw [address isAbsolute]
  · rw [value isImmediate]
  · rfl

theorem template_eq_of_sameUse {first second : FlatOperand} (same : SameUse first second)
    (worded : Encoding.hasWord first.shape = true) : first.template = second.template := by
  apply same.2.2.2.2.2
  unfold shape at worded
  split_ifs at worded with absent isRegister isMemory isAbsolute isImmediate
  · cases worded
  · cases worded
  · cases worded
  · exact .inl isAbsolute
  · exact .inr isImmediate
  · cases worded

end FlatOperand

namespace FlatInstruction

/--
The records describe the same operation on operands that agree in all that they use. The
mark of a destination is used with every kind, since no destination may have it.
-/
def SameUse (first second : FlatInstruction) : Prop :=
  first.mnemonic = second.mnemonic ∧ first.destination.SameUse second.destination ∧
    first.destination.template = second.destination.template ∧
    first.source.SameUse second.source
deriving Decidable

theorem sameInstruction_of_sameUse {first second : FlatInstruction}
    (same : SameUse first second) :
    Encoding.SameInstruction first.instruction second.instruction := by
  rcases same with ⟨mnemonic, destination, marked, source⟩
  have destinationShape := FlatOperand.shape_eq_of_sameUse destination
  have sourceShape := FlatOperand.shape_eq_of_sameUse source
  refine ⟨?_, ?_, sourceShape, FlatOperand.template_eq_of_sameUse source⟩
  · rw [instruction, instruction, mnemonic]
  · simp only [instruction, FlatOperand.operand, destinationShape, marked]

end FlatInstruction

namespace Encoding

/--
The encoder accepts the instruction of a record if and only if it passes all checks, and
gives it the code of its row, with a slot over the last four bytes if the source is a
templated word. It refuses any other record with the category of the first check that it
does not pass. Fields that the kinds of the operands do not use have no influence.
-/
theorem ofInstruction_of_record (record : FlatInstruction) :
    ((∃ encoding, ofInstruction record.instruction = .ok encoding) ↔
      ∀ check ∈ Check.all, check.passes record.instruction = true) ∧
    (∀ encoding, ofInstruction record.instruction = .ok encoding ↔
      (∀ check ∈ Check.all, check.passes record.instruction = true) ∧
        Row record.source.template (.ofNumber record.mnemonic) record.destination.shape
          record.source.shape encoding) ∧
    (∀ encoding, ofInstruction record.instruction = .ok encoding →
      encoding.slotNumber =
        if record.source.template && hasWord record.source.shape then
          Int64.ofNat encoding.bytes.length - 4
        else -1) ∧
    (∀ error, ofInstruction record.instruction = .error error →
      ∃ check, Check.firstFailed? record.instruction Check.all = some check ∧
        error.category = check.category) ∧
    ∀ other : FlatInstruction, record.SameUse other →
      refusal? (ofInstruction record.instruction) = refusal? (ofInstruction other.instruction) ∧
        ∀ encoding, ofInstruction record.instruction = .ok encoding →
          ofInstruction other.instruction = .ok encoding := by
  refine ⟨exists_ok_iff_passes record.instruction,
    ofInstruction_eq_ok_iff_passes record.instruction, ?_, ?_, ?_⟩
  · intro encoding encoded
    rw [ofInstruction_eq_ok_iff_passes] at encoded
    exact slotNumber_of_row encoded.2
  · intro error refused
    exact category_eq_of_error refused
  · intro other same
    exact ofInstruction_of_sameInstruction (FlatInstruction.sameInstruction_of_sameUse same)

/-- A templated constant, also with an address that its kind does not use, and a base `esp`. -/
theorem ofInstruction_of_record_instances :
    let encoding : Encoding := { bytes := [0xB8, 0x78, 0x56, 0x34, 0x12], slot := some 1 }
    encoding.slotNumber = 1 ∧
    ofInstruction (FlatInstruction.instruction
      { destination := { kind := 1 },
        source := { kind := 4, address := 9, value := 0x12345678, template := true } }) =
      .ok encoding ∧
    ∃ check, Check.firstFailed? (FlatInstruction.instruction
        { destination := { kind := 2, register := 4 }, source := { kind := 1 } }) Check.all =
        some check ∧
      Category.stackBase = check.category := by
  have constant := ofInstruction_of_record
    { destination := { kind := 1 },
      source := { kind := 4, value := 0x12345678, template := true } }
  have store := ofInstruction_of_record
    { destination := { kind := 2, register := 4 }, source := { kind := 1 } }
  refine ⟨constant.2.2.1 _ rfl, ?_, store.2.2.2.1 (.stackBase ⟨.memory .esp 0, false⟩) rfl⟩
  exact (constant.2.2.2.2 _ (by decide)).2 _ rfl

end Encoding

end Stencil
