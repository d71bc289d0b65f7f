import Stencil.Encoding
import Stencil.Proofs.LittleEndian
import Stencil.Proofs.Names
import Stencil.Proofs.Outcome

/-!
# The encoding table

This file states the encoder as a table. A row gives an operation, the shapes of
its operands and the template mark of its source, and the bytes and the slot for
them, with registers and modes written as the bits that they occupy and words as
their digits in base 256. The main result, `Encoding.ofInstruction_eq_ok_iff`, says
that the encoder accepts exactly the instructions of the table whose registers exist
and whose destination is no template, and gives them the code of their row.

Two facts about the rows are used wherever code is linked or patched: a row
without a word field has no slot, and the slot of a row with one covers the last
four bytes, which hold the word. In particular the value of a templated source
occurs nowhere else, so another value in its place gives the same row with
another word.
-/

namespace Stencil

namespace Register

theorem code_eq_number {register : Register} (valid : register.Valid) :
    register.code = register.number := by
  rw [valid_iff_mem_all] at valid
  revert register
  decide

end Register

namespace Shape

/-- Every register that the shape mentions exists. -/
def RegistersValid (shape : Shape) : Prop :=
  ∀ register, shape.register? = some register → register.Valid

theorem isPresent_eq_false_iff {shape : Shape} : shape.isPresent = false ↔ shape = .absent := by
  cases shape <;> simp [isPresent]

end Shape

namespace Encoding

/-- The operand byte with the given mode bits, a register field and a second register. -/
def operandByte (mode : UInt8) (field memory : Register) : UInt8 :=
  mode ||| field.number <<< 3 ||| memory.number

/-- The operations on a register and a register or constant: opcode and direct operand byte. -/
inductive Arithmetic : Mnemonic → UInt8 → UInt8 → Prop where
  | addition : Arithmetic .add 0x03 0xC0
  | subtraction : Arithmetic .sub 0x2B 0xE8

/-- The shifts of a register: direct operand byte. -/
inductive Shift : Mnemonic → UInt8 → Prop where
  | left : Shift .shl 0xE0
  | right : Shift .shr 0xE8

/-- The digits of a word in base 256, the lowest one first. -/
def digits (word : UInt32) : List UInt8 :=
  (List.range 4).map fun place => UInt8.ofNat (word.toNat / 256 ^ place)

/-- The slot of a word field at an offset, which only a template has. -/
def slotAt (template : Bool) (offset : Int64) : Option Int64 :=
  if template then some offset else none

/--
The rows of the encoding table: an operation with the shapes of its destination and
its source has the given bytes and slot. `template` is the mark of the source.
-/
inductive Row (template : Bool) : Mnemonic → Shape → Shape → Encoding → Prop where
  | moveRegister (target source : Register) :
      Row template .mov (.register target) (.register source)
        { bytes := [0x8B, operandByte 0xC0 target source] }
  | moveLoad (target base : Register) (displacement : Int8) (notStack : base ≠ .esp) :
      Row template .mov (.register target) (.memory base displacement)
        { bytes := [0x8B, operandByte 0x40 target base, displacement.toUInt8] }
  | moveAbsolute (target : Register) (address : UInt32) :
      Row template .mov (.register target) (.absolute address)
        { bytes := 0x8B :: (target.number <<< 3 ||| 0x05) :: digits address
          slot := slotAt template 2 }
  | moveConstant (target : Register) (value : Int32) :
      Row template .mov (.register target) (.immediate value)
        { bytes := (0xB8 + target.number) :: digits value.toUInt32, slot := slotAt template 1 }
  | moveStore (base source : Register) (displacement : Int8) (notStack : base ≠ .esp) :
      Row template .mov (.memory base displacement) (.register source)
        { bytes := [0x89, operandByte 0x40 source base, displacement.toUInt8] }
  | moveStoreConstant (base : Register) (displacement : Int8) (value : Int32)
      (notStack : base ≠ .esp) :
      Row template .mov (.memory base displacement) (.immediate value)
        { bytes := 0xC7 :: (0x40 ||| base.number) :: displacement.toUInt8 :: digits value.toUInt32
          slot := slotAt template 3 }
  | arithmeticRegister {mnemonic : Mnemonic} {opcode direct : UInt8}
      (operation : Arithmetic mnemonic opcode direct) (target source : Register) :
      Row template mnemonic (.register target) (.register source)
        { bytes := [opcode, operandByte 0xC0 target source] }
  | arithmeticConstant {mnemonic : Mnemonic} {opcode direct : UInt8}
      (operation : Arithmetic mnemonic opcode direct) (target : Register) (value : Int32) :
      Row template mnemonic (.register target) (.immediate value)
        { bytes := 0x81 :: (direct ||| target.number) :: digits value.toUInt32
          slot := slotAt template 2 }
  | shiftByRegister {mnemonic : Mnemonic} {direct : UInt8} (operation : Shift mnemonic direct)
      (target : Register) :
      Row template mnemonic (.register target) (.register .ecx)
        { bytes := [0xD3, direct ||| target.number] }
  | shiftByOne {mnemonic : Mnemonic} {direct : UInt8} (operation : Shift mnemonic direct)
      (target : Register) (untemplated : template = false) :
      Row template mnemonic (.register target) (.immediate 1)
        { bytes := [0xD1, direct ||| target.number] }
  | shiftByConstant {mnemonic : Mnemonic} {direct : UInt8} (operation : Shift mnemonic direct)
      (target : Register) (count : Int32) (untemplated : template = false)
      (nonnegative : 0 ≤ count) (bounded : count ≤ 255) (notOne : count ≠ 1) :
      Row template mnemonic (.register target) (.immediate count)
        { bytes := [0xC1, direct ||| target.number, count.toUInt32.toUInt8] }
  | pushRegister (source : Register) :
      Row template .push .absent (.register source) { bytes := [0x50 + source.number] }
  | pushConstant (value : Int32) :
      Row template .push .absent (.immediate value)
        { bytes := 0x68 :: digits value.toUInt32, slot := slotAt template 1 }
  | popRegister (target : Register) :
      Row template .pop (.register target) .absent { bytes := [0x58 + target.number] }
  | callRegister (source : Register) :
      Row template .call .absent (.register source) { bytes := [0xFF, 0xD0 ||| source.number] }
  | callOffset (value : Int32) :
      Row template .call .absent (.immediate value)
        { bytes := 0xE8 :: digits value.toUInt32, slot := slotAt template 1 }
  | return : Row template .ret .absent .absent { bytes := [0xC3] }
  | jumpRegister (source : Register) :
      Row template .jmp .absent (.register source) { bytes := [0xFF, 0xE0 ||| source.number] }
  | jumpShort (value : Int32) (untemplated : template = false) (lower : -128 ≤ value)
      (upper : value ≤ 127) :
      Row template .jmp .absent (.immediate value) { bytes := [0xEB, value.toUInt32.toUInt8] }
  | jumpNear (value : Int32) (far : template = true ∨ value < -128 ∨ 127 < value) :
      Row template .jmp .absent (.immediate value)
        { bytes := 0xE9 :: digits value.toUInt32, slot := slotAt template 1 }
  | nothing : Row template .nop .absent .absent { bytes := [0x90] }

/-! ### Words and operand bytes -/

theorem digits_eq_bytes (word : UInt32) : digits word = LittleEndian.bytes word :=
  (LittleEndian.bytes_eq_digits word).symm

theorem withWord_eq (lead : List UInt8) (word : UInt32) (template : Bool) :
    withWord lead word template =
      { bytes := lead ++ digits word, slot := slotAt template (Int64.ofNat lead.length) } := by
  rw [digits_eq_bytes]
  rfl

theorem eq_withWord {bytes lead : List UInt8} {word : UInt32} {template : Bool} {offset : Int64}
    (split : bytes = lead ++ digits word) (place : offset = Int64.ofNat lead.length) :
    ({ bytes, slot := slotAt template offset } : Encoding) = withWord lead word template := by
  rw [withWord_eq, split, place]

theorem direct_code {target source : Register} (targetValid : target.Valid)
    (sourceValid : source.Valid) : direct target.code source = operandByte 0xC0 target source := by
  rw [Register.valid_iff_mem_all] at targetValid sourceValid
  have table : ∀ target ∈ Register.all, ∀ source ∈ Register.all,
      direct target.code source = operandByte 0xC0 target source := by
    decide
  exact table target targetValid source sourceValid

theorem based_code {field base : Register} (fieldValid : field.Valid) (baseValid : base.Valid) :
    based field.code base = operandByte 0x40 field base := by
  rw [Register.valid_iff_mem_all] at fieldValid baseValid
  have table : ∀ field ∈ Register.all, ∀ base ∈ Register.all,
      based field.code base = operandByte 0x40 field base := by
    decide
  exact table field fieldValid base baseValid

theorem fixedAddress_code {target : Register} (valid : target.Valid) :
    fixedAddress target.code = target.number <<< 3 ||| 0x05 := by
  rw [Register.valid_iff_mem_all] at valid
  revert target
  decide

theorem direct_extension {target : Register} (valid : target.Valid) :
    direct 0 target = 0xC0 ||| target.number ∧ direct 2 target = 0xD0 ||| target.number ∧
      direct 4 target = 0xE0 ||| target.number ∧ direct 5 target = 0xE8 ||| target.number := by
  rw [Register.valid_iff_mem_all] at valid
  revert target
  decide

theorem based_zero {base : Register} (valid : base.Valid) :
    based 0 base = 0x40 ||| base.number := by
  rw [Register.valid_iff_mem_all] at valid
  revert base
  decide

theorem code_eq_esp_iff {base : Register} (valid : base.Valid) :
    base.code = Register.esp.code ↔ base = .esp := by
  rw [Register.valid_iff_mem_all] at valid
  revert base
  decide

theorem memoryBytes_eq_ok_iff {field : UInt8} {base : Register} {displacement : Int8}
    {operand : Operand} {bytes : List UInt8} (valid : base.Valid) :
    memoryBytes field base displacement operand = .ok bytes ↔
      base ≠ .esp ∧ bytes = [based field base, displacement.toUInt8] := by
  by_cases stack : base = .esp
  · simp [memoryBytes, stack]
  · have notStack : ¬base.code = Register.esp.code := by
      rwa [code_eq_esp_iff valid]
    simp [memoryBytes, stack, notStack, eq_comm]

/-! ### The check of the operands -/

theorem operandFault?_eq_none_iff (instruction : Instruction) (operand : Operand)
    (expected : Bool) :
    operandFault? instruction operand expected = none ↔
      operand.shape.isPresent = expected ∧ operand.shape.RegistersValid := by
  unfold operandFault? Shape.RegistersValid
  by_cases present : operand.shape.isPresent = expected
  · cases mentioned : operand.shape.register? with
    | none => simp [present]
    | some register => simp [present]
  · simp [present]

theorem fault?_eq_none_iff (instruction : Instruction) :
    fault? instruction = none ↔
      (instruction.destination.shape.isPresent = instruction.mnemonic.form.hasDestination ∧
        instruction.destination.shape.RegistersValid) ∧
      (instruction.source.shape.isPresent = instruction.mnemonic.form.hasSource ∧
        instruction.source.shape.RegistersValid) ∧
      instruction.destination.template = false := by
  rw [← operandFault?_eq_none_iff instruction instruction.destination,
    ← operandFault?_eq_none_iff instruction instruction.source]
  cases destinationFault : operandFault? instruction instruction.destination
      instruction.mnemonic.form.hasDestination with
  | some error => simp [fault?, destinationFault]
  | none =>
      cases sourceFault : operandFault? instruction instruction.source
          instruction.mnemonic.form.hasSource with
      | some error => simp [fault?, destinationFault, sourceFault]
      | none => simp [fault?, destinationFault, sourceFault]

/-! ### From the encoder to the table -/

theorem row_of_move {destination source : Operand} {encoding : Encoding}
    (destinationValid : destination.shape.RegistersValid)
    (sourceValid : source.shape.RegistersValid)
    (encoded : move { mnemonic := .mov, destination, source } = .ok encoding) :
    Row source.template .mov destination.shape source.shape encoding := by
  rcases destination with ⟨destinationShape, destinationTemplate⟩
  rcases source with ⟨sourceShape, template⟩
  cases destinationShape with
  | register target =>
      have targetValid : target.Valid := destinationValid target rfl
      cases sourceShape with
      | register source =>
          have registerValid : source.Valid := sourceValid source rfl
          simp only [move, direct_code targetValid registerValid, Except.ok.injEq] at encoded
          subst encoding
          exact .moveRegister target source
      | memory base displacement =>
          have baseValid : base.Valid := sourceValid base rfl
          simp only [move, Outcome.map_eq_ok_iff, memoryBytes_eq_ok_iff baseValid,
            based_code targetValid baseValid] at encoded
          rcases encoded with ⟨operands, ⟨notStack, rfl⟩, rfl⟩
          exact .moveLoad target base displacement notStack
      | absolute address =>
          simp only [move, fixedAddress_code targetValid, Except.ok.injEq] at encoded
          subst encoding
          rw [withWord_eq]
          exact .moveAbsolute target address
      | immediate value =>
          simp only [move, Register.code_eq_number targetValid, Except.ok.injEq] at encoded
          subst encoding
          rw [withWord_eq]
          exact .moveConstant target value
      | absent => simp [move] at encoded
      | unknown number => simp [move] at encoded
  | memory base displacement =>
      have baseValid : base.Valid := destinationValid base rfl
      cases sourceShape with
      | register source =>
          have registerValid : source.Valid := sourceValid source rfl
          simp only [move, Outcome.map_eq_ok_iff, memoryBytes_eq_ok_iff baseValid,
            based_code registerValid baseValid] at encoded
          rcases encoded with ⟨operands, ⟨notStack, rfl⟩, rfl⟩
          exact .moveStore base source displacement notStack
      | immediate value =>
          simp only [move, Outcome.map_eq_ok_iff, memoryBytes_eq_ok_iff baseValid,
            based_zero baseValid] at encoded
          rcases encoded with ⟨operands, ⟨notStack, rfl⟩, rfl⟩
          rw [withWord_eq]
          exact .moveStoreConstant base displacement value notStack
      | absent => simp [move] at encoded
      | memory base displacement => simp [move] at encoded
      | absolute address => simp [move] at encoded
      | unknown number => simp [move] at encoded
  | absent => simp [move] at encoded
  | absolute address => simp [move] at encoded
  | immediate value => simp [move] at encoded
  | unknown number => simp [move] at encoded

theorem row_of_arithmetic {mnemonic : Mnemonic} {opcode field operand : UInt8}
    {destination source : Operand} {encoding : Encoding}
    (operation : Arithmetic mnemonic opcode operand)
    (extended : ∀ target : Register, target.Valid → direct field target = operand ||| target.number)
    (destinationValid : destination.shape.RegistersValid)
    (sourceValid : source.shape.RegistersValid)
    (encoded : arithmetic opcode field { mnemonic, destination, source } = .ok encoding) :
    Row source.template mnemonic destination.shape source.shape encoding := by
  rcases destination with ⟨destinationShape, destinationTemplate⟩
  rcases source with ⟨sourceShape, template⟩
  cases destinationShape with
  | register target =>
      have targetValid : target.Valid := destinationValid target rfl
      cases sourceShape with
      | register source =>
          have registerValid : source.Valid := sourceValid source rfl
          simp only [arithmetic, direct_code targetValid registerValid, Except.ok.injEq] at encoded
          subst encoding
          exact .arithmeticRegister operation target source
      | immediate value =>
          simp only [arithmetic, extended target targetValid, Except.ok.injEq] at encoded
          subst encoding
          rw [withWord_eq]
          exact .arithmeticConstant operation target value
      | absent => simp [arithmetic] at encoded
      | memory base displacement => simp [arithmetic] at encoded
      | absolute address => simp [arithmetic] at encoded
      | unknown number => simp [arithmetic] at encoded
  | absent => simp [arithmetic] at encoded
  | memory base displacement => simp [arithmetic] at encoded
  | absolute address => simp [arithmetic] at encoded
  | immediate value => simp [arithmetic] at encoded
  | unknown number => simp [arithmetic] at encoded

theorem row_of_shift {mnemonic : Mnemonic} {field operand : UInt8}
    {destination source : Operand} {encoding : Encoding} (operation : Shift mnemonic operand)
    (extended : ∀ target : Register, target.Valid → direct field target = operand ||| target.number)
    (destinationValid : destination.shape.RegistersValid)
    (encoded : shift field { mnemonic, destination, source } = .ok encoding) :
    Row source.template mnemonic destination.shape source.shape encoding := by
  rcases destination with ⟨destinationShape, destinationTemplate⟩
  rcases source with ⟨sourceShape, template⟩
  cases destinationShape with
  | register target =>
      have targetValid : target.Valid := destinationValid target rfl
      cases sourceShape with
      | register count =>
          simp only [shift, extended target targetValid] at encoded
          split at encoded
          · rename_i isCounter
            simp only [Except.ok.injEq] at encoded
            subst encoding isCounter
            exact .shiftByRegister operation target
          · simp at encoded
      | immediate count =>
          simp only [shift, extended target targetValid] at encoded
          split at encoded
          · simp at encoded
          · rename_i untemplated
            split at encoded
            · simp at encoded
            · rename_i inRange
              have nonnegative : 0 ≤ count :=
                Int32.not_lt.mp fun negative => inRange (.inl negative)
              have bounded : count ≤ 255 := Int32.not_lt.mp fun large => inRange (.inr large)
              split at encoded
              · rename_i isOne
                simp only [Except.ok.injEq] at encoded
                subst encoding isOne
                exact .shiftByOne operation target (by simpa using untemplated)
              · rename_i notOne
                simp only [Except.ok.injEq] at encoded
                subst encoding
                exact .shiftByConstant operation target count (by simpa using untemplated)
                  nonnegative bounded notOne
      | absent => simp [shift] at encoded
      | memory base displacement => simp [shift] at encoded
      | absolute address => simp [shift] at encoded
      | unknown number => simp [shift] at encoded
  | absent => simp [shift] at encoded
  | memory base displacement => simp [shift] at encoded
  | absolute address => simp [shift] at encoded
  | immediate value => simp [shift] at encoded
  | unknown number => simp [shift] at encoded

theorem row_of_push {source : Operand} {encoding : Encoding}
    (sourceValid : source.shape.RegistersValid)
    (encoded : push { mnemonic := .push, source } = .ok encoding) :
    Row source.template .push .absent source.shape encoding := by
  rcases source with ⟨sourceShape, template⟩
  cases sourceShape with
  | register source =>
      have registerValid : source.Valid := sourceValid source rfl
      simp only [push, Register.code_eq_number registerValid, Except.ok.injEq] at encoded
      subst encoding
      exact .pushRegister source
  | immediate value =>
      simp only [push, Except.ok.injEq] at encoded
      subst encoding
      rw [withWord_eq]
      exact .pushConstant value
  | absent => simp [push] at encoded
  | memory base displacement => simp [push] at encoded
  | absolute address => simp [push] at encoded
  | unknown number => simp [push] at encoded

theorem row_of_call {source : Operand} {encoding : Encoding}
    (sourceValid : source.shape.RegistersValid)
    (encoded : call { mnemonic := .call, source } = .ok encoding) :
    Row source.template .call .absent source.shape encoding := by
  rcases source with ⟨sourceShape, template⟩
  cases sourceShape with
  | register source =>
      have registerValid : source.Valid := sourceValid source rfl
      simp only [call, (direct_extension registerValid).2.1, Except.ok.injEq] at encoded
      subst encoding
      exact .callRegister source
  | immediate value =>
      simp only [call, Except.ok.injEq] at encoded
      subst encoding
      rw [withWord_eq]
      exact .callOffset value
  | absent => simp [call] at encoded
  | memory base displacement => simp [call] at encoded
  | absolute address => simp [call] at encoded
  | unknown number => simp [call] at encoded

theorem row_of_jump {source : Operand} {encoding : Encoding}
    (sourceValid : source.shape.RegistersValid)
    (encoded : jump { mnemonic := .jmp, source } = .ok encoding) :
    Row source.template .jmp .absent source.shape encoding := by
  rcases source with ⟨sourceShape, template⟩
  cases sourceShape with
  | register source =>
      have registerValid : source.Valid := sourceValid source rfl
      simp only [jump, (direct_extension registerValid).2.2.1, Except.ok.injEq] at encoded
      subst encoding
      exact .jumpRegister source
  | immediate value =>
      simp only [jump] at encoded
      split at encoded
      · rename_i short
        rcases short with ⟨untemplated, lower, upper⟩
        simp only [Except.ok.injEq] at encoded
        subst encoding
        exact .jumpShort value (by simpa using untemplated) lower upper
      · rename_i notShort
        simp only [Except.ok.injEq] at encoded
        subst encoding
        rw [withWord_eq]
        refine .jumpNear value ?_
        by_contra near
        simp only [not_or, Bool.not_eq_true, Int32.not_lt] at near
        exact notShort ⟨by simpa using near.1, near.2.1, near.2.2⟩
  | absent => simp [jump] at encoded
  | memory base displacement => simp [jump] at encoded
  | absolute address => simp [jump] at encoded
  | unknown number => simp [jump] at encoded

theorem row_of_pop {destination : Operand} {template : Bool} {encoding : Encoding}
    (destinationValid : destination.shape.RegistersValid)
    (encoded : pop { mnemonic := .pop, destination, source := { template } } = .ok encoding) :
    Row template .pop destination.shape .absent encoding := by
  rcases destination with ⟨destinationShape, destinationTemplate⟩
  cases destinationShape with
  | register target =>
      have targetValid : target.Valid := destinationValid target rfl
      simp only [pop, Register.code_eq_number targetValid, Except.ok.injEq] at encoded
      subst encoding
      exact .popRegister target
  | absent => simp [pop] at encoded
  | memory base displacement => simp [pop] at encoded
  | absolute address => simp [pop] at encoded
  | immediate value => simp [pop] at encoded
  | unknown number => simp [pop] at encoded

theorem row_of_encoded {instruction : Instruction} {encoding : Encoding}
    (faultless : fault? instruction = none) (encoded : row instruction = .ok encoding) :
    Row instruction.source.template instruction.mnemonic instruction.destination.shape
      instruction.source.shape encoding := by
  rcases instruction with ⟨mnemonic, ⟨destination, destinationTemplate⟩, ⟨source, template⟩⟩
  simp only [fault?_eq_none_iff] at faultless
  rcases faultless with
    ⟨⟨destinationPresent, destinationValid⟩, ⟨sourcePresent, sourceValid⟩, rfl⟩
  cases mnemonic with
  | mov => exact row_of_move destinationValid sourceValid encoded
  | add =>
      exact row_of_arithmetic .addition (fun target valid => (direct_extension valid).1)
        destinationValid sourceValid encoded
  | sub =>
      exact row_of_arithmetic .subtraction (fun target valid => (direct_extension valid).2.2.2)
        destinationValid sourceValid encoded
  | shl =>
      exact row_of_shift .left (fun target valid => (direct_extension valid).2.2.1)
        destinationValid encoded
  | shr =>
      exact row_of_shift .right (fun target valid => (direct_extension valid).2.2.2)
        destinationValid encoded
  | push =>
      rcases Shape.isPresent_eq_false_iff.mp destinationPresent with rfl
      exact row_of_push sourceValid encoded
  | pop =>
      rcases Shape.isPresent_eq_false_iff.mp sourcePresent with rfl
      exact row_of_pop destinationValid encoded
  | call =>
      rcases Shape.isPresent_eq_false_iff.mp destinationPresent with rfl
      exact row_of_call sourceValid encoded
  | ret =>
      rcases Shape.isPresent_eq_false_iff.mp destinationPresent with rfl
      rcases Shape.isPresent_eq_false_iff.mp sourcePresent with rfl
      simp only [row, Except.ok.injEq] at encoded
      subst encoding
      exact .return
  | jmp =>
      rcases Shape.isPresent_eq_false_iff.mp destinationPresent with rfl
      exact row_of_jump sourceValid encoded
  | nop =>
      rcases Shape.isPresent_eq_false_iff.mp destinationPresent with rfl
      rcases Shape.isPresent_eq_false_iff.mp sourcePresent with rfl
      simp only [row, Except.ok.injEq] at encoded
      subst encoding
      exact .nothing
  | unknown number => simp [row] at encoded

/-! ### From the table to the encoder -/

theorem form_of_row {template : Bool} {mnemonic : Mnemonic} {destination source : Shape}
    {encoding : Encoding} (row : Row template mnemonic destination source encoding) :
    destination.isPresent = mnemonic.form.hasDestination ∧
      source.isPresent = mnemonic.form.hasSource := by
  cases row with
  | arithmeticRegister operation target source => cases operation <;> exact ⟨rfl, rfl⟩
  | arithmeticConstant operation target value => cases operation <;> exact ⟨rfl, rfl⟩
  | shiftByRegister operation target => cases operation <;> exact ⟨rfl, rfl⟩
  | shiftByOne operation target untemplated => cases operation <;> exact ⟨rfl, rfl⟩
  | shiftByConstant operation target count untemplated nonnegative bounded notOne =>
      cases operation <;> exact ⟨rfl, rfl⟩
  | _ => exact ⟨rfl, rfl⟩

theorem encoded_of_row {instruction : Instruction} {encoding : Encoding}
    (destinationValid : instruction.destination.shape.RegistersValid)
    (sourceValid : instruction.source.shape.RegistersValid)
    (found : Row instruction.source.template instruction.mnemonic instruction.destination.shape
      instruction.source.shape encoding) :
    row instruction = .ok encoding := by
  rcases instruction with ⟨mnemonic, ⟨destination, destinationTemplate⟩, ⟨source, template⟩⟩
  dsimp only at destinationValid sourceValid found
  cases found with
  | moveRegister target source =>
      simp [row, move, plain, direct_code (destinationValid target rfl) (sourceValid source rfl)]
  | moveLoad target base displacement notStack =>
      simp [row, move, plain, Outcome.map_eq_ok_iff, memoryBytes_eq_ok_iff (sourceValid base rfl),
        notStack, based_code (destinationValid target rfl) (sourceValid base rfl)]
  | moveAbsolute target address =>
      simp [row, move, withWord_eq, fixedAddress_code (destinationValid target rfl)]
  | moveConstant target value =>
      simp [row, move, withWord_eq, Register.code_eq_number (destinationValid target rfl)]
  | moveStore base source displacement notStack =>
      simp [row, move, plain, Outcome.map_eq_ok_iff,
        memoryBytes_eq_ok_iff (destinationValid base rfl), notStack,
        based_code (sourceValid source rfl) (destinationValid base rfl)]
  | moveStoreConstant base displacement value notStack =>
      simp [row, move, withWord_eq, Outcome.map_eq_ok_iff,
        memoryBytes_eq_ok_iff (destinationValid base rfl), notStack,
        based_zero (destinationValid base rfl)]
  | arithmeticRegister operation target source =>
      cases operation <;>
        simp [row, arithmetic, plain,
          direct_code (destinationValid target rfl) (sourceValid source rfl)]
  | arithmeticConstant operation target value =>
      cases operation <;>
        simp [row, arithmetic, withWord_eq, direct_extension (destinationValid target rfl)]
  | shiftByRegister operation target =>
      cases operation <;>
        simp [row, shift, plain, direct_extension (destinationValid target rfl)]
  | shiftByOne operation target untemplated =>
      subst untemplated
      cases operation <;>
        simp [row, shift, plain, direct_extension (destinationValid target rfl)]
  | shiftByConstant operation target count untemplated nonnegative bounded notOne =>
      subst untemplated
      cases operation <;>
        simp [row, shift, plain, direct_extension (destinationValid target rfl), notOne,
          Int32.not_lt.mpr nonnegative, Int32.not_lt.mpr bounded]
  | pushRegister source => simp [row, push, plain, Register.code_eq_number (sourceValid source rfl)]
  | pushConstant value => simp [row, push, withWord_eq]
  | popRegister target =>
      simp [row, pop, plain, Register.code_eq_number (destinationValid target rfl)]
  | callRegister source => simp [row, call, plain, direct_extension (sourceValid source rfl)]
  | callOffset value => simp [row, call, withWord_eq]
  | «return» => simp [row, plain]
  | jumpRegister source => simp [row, jump, plain, direct_extension (sourceValid source rfl)]
  | jumpShort value untemplated lower upper =>
      subst untemplated
      simp [row, jump, plain, lower, upper]
  | jumpNear value far =>
      have notShort : ¬(!template ∧ -128 ≤ value ∧ value ≤ 127) := by
        rintro ⟨untemplated, lower, upper⟩
        rcases far with templated | below | above
        · simp [templated] at untemplated
        · exact Int32.not_lt.mpr lower below
        · exact Int32.not_lt.mpr upper above
      simp only [row, jump, if_neg notShort]
      rw [withWord_eq]
      rfl
  | nothing => simp [row, plain]

theorem ofInstruction_eq_ok_iff (instruction : Instruction) (encoding : Encoding) :
    ofInstruction instruction = .ok encoding ↔
      instruction.destination.shape.RegistersValid ∧ instruction.source.shape.RegistersValid ∧
      instruction.destination.template = false ∧
      Row instruction.source.template instruction.mnemonic instruction.destination.shape
        instruction.source.shape encoding := by
  constructor
  · intro encoded
    cases faulty : fault? instruction with
    | some error => simp [ofInstruction, faulty] at encoded
    | none =>
        simp only [ofInstruction, faulty] at encoded
        have found := row_of_encoded faulty encoded
        rw [fault?_eq_none_iff] at faulty
        exact ⟨faulty.1.2, faulty.2.1.2, faulty.2.2, found⟩
  · rintro ⟨destinationValid, sourceValid, untemplated, found⟩
    have faultless : fault? instruction = none := by
      rw [fault?_eq_none_iff]
      have form := form_of_row found
      exact ⟨⟨form.1, destinationValid⟩, ⟨form.2, sourceValid⟩, untemplated⟩
    simp only [ofInstruction, faultless]
    exact encoded_of_row destinationValid sourceValid found

/-! ### Slots of rows -/

/-- A row either has a few fixed bytes and no slot, or it ends in a word. -/
theorem plain_or_withWord_of_row {template : Bool} {mnemonic : Mnemonic}
    {destination source : Shape} {encoding : Encoding}
    (row : Row template mnemonic destination source encoding) :
    (∃ bytes, encoding = plain bytes ∧ 0 < bytes.length ∧ bytes.length ≤ 3) ∨
      ∃ lead word, encoding = withWord lead word template ∧ 0 < lead.length ∧ lead.length ≤ 3 := by
  cases row with
  | moveAbsolute target address =>
      exact .inr ⟨[_, _], _, eq_withWord rfl rfl, by simp, by simp⟩
  | moveConstant target value =>
      exact .inr ⟨[_], _, eq_withWord rfl rfl, by simp, by simp⟩
  | moveStoreConstant base displacement value notStack =>
      exact .inr ⟨[_, _, _], _, eq_withWord rfl rfl, by simp, by simp⟩
  | arithmeticConstant operation target value =>
      exact .inr ⟨[_, _], _, eq_withWord rfl rfl, by simp, by simp⟩
  | pushConstant value =>
      exact .inr ⟨[_], _, eq_withWord rfl rfl, by simp, by simp⟩
  | callOffset value =>
      exact .inr ⟨[_], _, eq_withWord rfl rfl, by simp, by simp⟩
  | jumpNear value far =>
      exact .inr ⟨[_], _, eq_withWord rfl rfl, by simp, by simp⟩
  | _ => exact .inl ⟨_, rfl, by simp, by simp⟩

theorem slot_of_row_untemplated {mnemonic : Mnemonic} {destination source : Shape}
    {encoding : Encoding} (row : Row false mnemonic destination source encoding) :
    encoding.slot = none := by
  rcases plain_or_withWord_of_row row with ⟨bytes, rfl, _⟩ | ⟨lead, word, rfl, _⟩
  · rfl
  · rfl

theorem slot_eq_none_of_untemplated {instruction : Instruction} {encoding : Encoding}
    (encoded : ofInstruction instruction = .ok encoding)
    (untemplated : instruction.source.template = false) : encoding.slot = none := by
  rw [ofInstruction_eq_ok_iff, untemplated] at encoded
  exact slot_of_row_untemplated encoded.2.2.2

end Encoding

end Stencil
