import Stencil.Proofs.Patching

/-!
# Reading machine code back

A decoder reads one instruction from the front of machine code and gives the rest
of the code; a sweep repeats this from offset zero on. The decoder knows no more of
the encoder than the layout of the code: an opcode, which may contain a register, an
operand byte with what belongs to it, and a constant.

Decoding undoes encoding in front of any other code. So no encoding starts another
one, programs with the same code consist of the same instructions up to template
marks, and the slots give the marks back.
-/

namespace Stencil

namespace Operand

/-- The operand without its template mark. -/
def untemplated (operand : Operand) : Operand :=
  { operand with template := false }

end Operand

namespace Instruction

/-- The instruction without template marks. -/
def untemplated (instruction : Instruction) : Instruction :=
  { instruction with
    destination := instruction.destination.untemplated
    source := instruction.source.untemplated }

/-- The instruction with a template mark on its source. -/
def templated (instruction : Instruction) : Instruction :=
  { instruction with source := { instruction.source with template := true } }

end Instruction

namespace Disassembly

/-! ### Decoding one instruction -/

/-- The register in the lowest three bits of a byte. -/
def register (byte : UInt8) : Register :=
  ⟨byte &&& 7⟩

/-- The middle three bits of an operand byte: a register or a part of the opcode. -/
def field (operands : UInt8) : UInt8 :=
  operands >>> 3 &&& 7

/-- Reads a word. -/
def word? : List UInt8 → Option (UInt32 × List UInt8)
  | first :: second :: third :: fourth :: rest =>
    some (LittleEndian.word first second third fourth, rest)
  | _ => none

/-- Reads an operand byte with its displacement or address: the field and the operand. -/
def operand? : List UInt8 → Option (UInt8 × Shape × List UInt8)
  | [] => none
  | operands :: rest =>
    if operands &&& 0xC0 = 0xC0 then some (field operands, .register (register operands), rest)
    else if operands &&& 0xC0 = 0x40 then
      match rest with
      | [] => none
      | displacement :: rest =>
        some (field operands, .memory (register operands) displacement.toInt8, rest)
    else if operands &&& 0xC7 = 0x05 then
      (word? rest).map fun (address, rest) => (field operands, .absolute address, rest)
    else none

/-- An instruction without template marks. -/
def instruction (mnemonic : Mnemonic) (destination source : Shape) : Instruction :=
  { mnemonic, destination := { shape := destination }, source := { shape := source } }

/-- What ends an instruction: nothing more, a byte or a word. -/
inductive Ending where
  | complete (instruction : Instruction)
  | byte (use : UInt8 → Instruction)
  | word (use : UInt32 → Instruction)

/-- What follows an opcode. -/
inductive Layout where
  | plain (ending : Ending)
  /-- An operand byte; its field and its operand say how the instruction ends, if at all. -/
  | operands (use : UInt8 → Shape → Option Ending)

/-- An ending that is a constant. -/
def Ending.constant (mnemonic : Mnemonic) (destination : Shape) : Ending :=
  .word fun value => instruction mnemonic destination (.immediate value.toInt32)

/-- The operation that a field selects from an opcode, with how it ends. -/
def select (operations : List (UInt8 × Mnemonic)) (ending : Mnemonic → Ending) (field : UInt8) :
    Option Ending :=
  (operations.lookup field).map ending

/-- The fields of the operations on a register and a constant. -/
def arithmetic : List (UInt8 × Mnemonic) := [(0, .add), (5, .sub)]

/-- The fields of the shifts. -/
def shifts : List (UInt8 × Mnemonic) := [(4, .shl), (5, .shr)]

/-- The fields of the jumps to a register. -/
def transfers : List (UInt8 × Mnemonic) := [(2, .call), (4, .jmp)]

/-- An operation on the register in the field of the operand byte. -/
def Layout.toField (mnemonic : Mnemonic) : Layout :=
  .operands fun field source =>
    some (.complete (instruction mnemonic (.register ⟨field⟩) source))

/-- What follows each opcode. -/
def layout? (opcode : UInt8) : Option Layout :=
  match opcode with
  | 0x8B => some (.toField .mov)
  | 0x03 => some (.toField .add)
  | 0x2B => some (.toField .sub)
  | 0x89 => some (.operands fun field destination =>
      some (.complete (instruction .mov destination (.register ⟨field⟩))))
  | 0xC7 => some (.operands fun _ destination => some (.constant .mov destination))
  | 0x81 => some (.operands fun field destination =>
      select arithmetic (fun mnemonic => .constant mnemonic destination) field)
  | 0xD3 => some (.operands fun field destination =>
      select shifts (fun mnemonic => .complete
        (instruction mnemonic destination (.register .ecx))) field)
  | 0xD1 => some (.operands fun field destination =>
      select shifts (fun mnemonic => .complete
        (instruction mnemonic destination (.immediate 1))) field)
  | 0xC1 => some (.operands fun field destination =>
      select shifts (fun mnemonic => .byte fun count =>
        instruction mnemonic destination (.immediate (Int32.ofNat count.toNat))) field)
  | 0xFF => some (.operands fun field source =>
      select transfers (fun mnemonic => .complete (instruction mnemonic .absent source)) field)
  | 0x68 => some (.plain (.constant .push .absent))
  | 0xE8 => some (.plain (.constant .call .absent))
  | 0xE9 => some (.plain (.constant .jmp .absent))
  | 0xEB => some (.plain (.byte fun offset =>
      instruction .jmp .absent (.immediate offset.toInt8.toInt32)))
  | 0xC3 => some (.plain (.complete (instruction .ret .absent .absent)))
  | 0x90 => some (.plain (.complete (instruction .nop .absent .absent)))
  | _ =>
    if opcode &&& 0xF8 = 0x50 then
      some (.plain (.complete (instruction .push .absent (.register (register opcode)))))
    else if opcode &&& 0xF8 = 0x58 then
      some (.plain (.complete (instruction .pop (.register (register opcode)) .absent)))
    else if opcode &&& 0xF8 = 0xB8 then
      some (.plain (.constant .mov (.register (register opcode))))
    else none

/-- Reads what ends an instruction. -/
def Ending.read? : Ending → List UInt8 → Option (Instruction × List UInt8)
  | .complete instruction, code => some (instruction, code)
  | .byte _, [] => none
  | .byte use, value :: rest => some (use value, rest)
  | .word use, code => (word? code).map fun (value, rest) => (use value, rest)

/-- Reads what follows an opcode. -/
def Layout.read? : Layout → List UInt8 → Option (Instruction × List UInt8)
  | .plain ending, code => ending.read? code
  | .operands use, code => do
    let (field, shape, rest) ← operand? code
    let ending ← use field shape
    ending.read? rest

/-- Reads one instruction from the front of machine code and gives the rest of the code. -/
def instruction? : List UInt8 → Option (Instruction × List UInt8)
  | [] => none
  | opcode :: rest => do
    let layout ← layout? opcode
    layout.read? rest

/-! ### Decoding undoes encoding -/

theorem word?_digits (value : UInt32) (rest : List UInt8) :
    word? (Encoding.digits value ++ rest) = some (value, rest) := by
  simp [word?, Encoding.digits_eq_bytes, LittleEndian.bytes, LittleEndian.word_bytes]

theorem operand?_direct {field memory : Register} (fieldValid : field.Valid)
    (memoryValid : memory.Valid) (rest : List UInt8) :
    operand? (Encoding.operandByte 0xC0 field memory :: rest) =
      some (field.number, .register memory, rest) := by
  rw [Register.valid_iff_mem_all] at fieldValid memoryValid
  have table : ∀ field ∈ Register.all, ∀ memory ∈ Register.all,
      let operands := Encoding.operandByte 0xC0 field memory
      operands &&& 0xC0 = 0xC0 ∧ Disassembly.field operands = field.number ∧
        register operands = memory := by
    decide
  rcases table field fieldValid memory memoryValid with ⟨mode_eq, field_eq, memory_eq⟩
  simp only [operand?, mode_eq, if_true, field_eq, memory_eq]

theorem operand?_based {field base : Register} (fieldValid : field.Valid) (baseValid : base.Valid)
    (displacement : Int8) (rest : List UInt8) :
    operand? (Encoding.operandByte 0x40 field base :: displacement.toUInt8 :: rest) =
      some (field.number, .memory base displacement, rest) := by
  rw [Register.valid_iff_mem_all] at fieldValid baseValid
  have table : ∀ field ∈ Register.all, ∀ base ∈ Register.all,
      let operands := Encoding.operandByte 0x40 field base
      operands &&& 0xC0 = 0x40 ∧ Disassembly.field operands = field.number ∧
        register operands = base := by
    decide
  rcases table field fieldValid base baseValid with ⟨mode_eq, field_eq, base_eq⟩
  have direct : ¬(0x40 : UInt8) = 0xC0 := by decide
  simp only [operand?, mode_eq, if_neg direct, if_true, field_eq, base_eq, Int8.toInt8_toUInt8]

theorem operand?_absolute {target : Register} (valid : target.Valid) (address : UInt32)
    (rest : List UInt8) :
    operand? ((target.number <<< 3 ||| 0x05) :: (Encoding.digits address ++ rest)) =
      some (target.number, .absolute address, rest) := by
  rw [Register.valid_iff_mem_all] at valid
  have table : ∀ target ∈ Register.all,
      let operands := target.number <<< 3 ||| 0x05
      ¬operands &&& 0xC0 = 0xC0 ∧ ¬operands &&& 0xC0 = 0x40 ∧ operands &&& 0xC7 = 0x05 ∧
        field operands = target.number := by
    decide
  rcases table target valid with ⟨notDirect, notBased, fixed, field_eq⟩
  simp only [operand?, if_neg notDirect, if_neg notBased, fixed, if_true, word?_digits, field_eq,
    Option.map_some]

theorem layout?_register {register : Register} (valid : register.Valid) :
    layout? (0x50 + register.number) =
        some (.plain (.complete (instruction .push .absent (.register register)))) ∧
      layout? (0x58 + register.number) =
        some (.plain (.complete (instruction .pop (.register register) .absent))) ∧
      layout? (0xB8 + register.number) = some (.plain (.constant .mov (.register register))) := by
  simp only [Register.valid_iff_mem_all, Register.all, List.mem_cons, List.not_mem_nil,
    or_false] at valid
  rcases valid with rfl | rfl | rfl | rfl | rfl | rfl | rfl | rfl <;> exact ⟨rfl, rfl, rfl⟩

theorem read?_constant (mnemonic : Mnemonic) (destination : Shape) (value : Int32)
    (rest : List UInt8) :
    (Ending.constant mnemonic destination).read?
        (Encoding.digits value.toUInt32 ++ rest) =
      some (instruction mnemonic destination (.immediate value), rest) := by
  simp [Ending.constant, Ending.read?, word?_digits]

theorem count_byte {count : Int32} (nonnegative : 0 ≤ count) (bounded : count ≤ 255) :
    Int32.ofNat count.toUInt32.toUInt8.toNat = count := by
  have lower := Int32.le_iff_toInt_le.mp nonnegative
  have upper := Int32.le_iff_toInt_le.mp bounded
  have least : (0 : Int32).toInt = 0 := rfl
  have greatest : (255 : Int32).toInt = 255 := rfl
  have byte_eq : count.toUInt32.toUInt8.toNat = count.toInt.toNat := by
    rw [UInt32.toNat_toUInt8, Int32.toNat_toUInt32_of_le nonnegative, Int32.toNatClampNeg]
    omega
  apply Int32.toInt_inj.mp
  rw [byte_eq, Int32.toInt_ofNat_of_lt] <;> omega

theorem offset_byte {value : Int32} (lower : -128 ≤ value) (upper : value ≤ 127) :
    value.toUInt32.toUInt8.toInt8.toInt32 = value := by
  have lower := Int32.le_iff_toInt_le.mp lower
  have upper := Int32.le_iff_toInt_le.mp upper
  have least : (-128 : Int32).toInt = -128 := rfl
  have greatest : (127 : Int32).toInt = 127 := rfl
  have byte_eq : value.toUInt32.toUInt8.toInt8 = value.toInt8 := by
    apply Int8.toBitVec_inj.mp
    simp [BitVec.signExtend_eq_setWidth_of_le]
  apply Int32.toInt_inj.mp
  rw [byte_eq, Int8.toInt_toInt32, Int32.toInt_toInt8]
  apply Int.bmod_eq_of_le <;> omega

theorem instruction?_operands (opcode : UInt8) {use : UInt8 → Shape → Option Ending}
    {code rest : List UInt8} {field : UInt8} {shape : Shape} {ending : Ending}
    (layout : layout? opcode = some (.operands use))
    (read : operand? code = some (field, shape, rest)) (used : use field shape = some ending) :
    instruction? (opcode :: code) = ending.read? rest := by
  simp [instruction?, layout, Layout.read?, read, used]

theorem instruction?_plain (opcode : UInt8) (code : List UInt8) {ending : Ending}
    (layout : layout? opcode = some (.plain ending)) :
    instruction? (opcode :: code) = ending.read? code := by
  simp [instruction?, layout, Layout.read?]

/-! The field of an operand byte may be part of the opcode; it is then the number of a register. -/

theorem arithmetic_field {mnemonic : Mnemonic} {opcode direct : UInt8}
    (operation : Encoding.Arithmetic mnemonic opcode direct) :
    ∃ field : Register, field.Valid ∧
      (∀ ending, select arithmetic ending field.number = some (ending mnemonic)) ∧
      ∀ target : Register, direct ||| target.number = Encoding.operandByte 0xC0 field target := by
  cases operation with
  | addition => exact ⟨.eax, by decide, fun _ => rfl, fun _ => rfl⟩
  | subtraction => exact ⟨.ebp, by decide, fun _ => rfl, fun _ => rfl⟩

theorem shift_field {mnemonic : Mnemonic} {direct : UInt8}
    (operation : Encoding.Shift mnemonic direct) :
    ∃ field : Register, field.Valid ∧
      (∀ ending, select shifts ending field.number = some (ending mnemonic)) ∧
      ∀ target : Register, direct ||| target.number = Encoding.operandByte 0xC0 field target := by
  cases operation with
  | left => exact ⟨.esp, by decide, fun _ => rfl, fun _ => rfl⟩
  | right => exact ⟨.ebp, by decide, fun _ => rfl, fun _ => rfl⟩

open Encoding in
theorem instruction?_of_row {template : Bool} {mnemonic : Mnemonic} {destination source : Shape}
    {encoding : Encoding} (row : Row template mnemonic destination source encoding)
    (destinationValid : destination.RegistersValid) (sourceValid : source.RegistersValid)
    (rest : List UInt8) :
    instruction? (encoding.bytes ++ rest) =
      some (instruction mnemonic destination source, rest) := by
  cases row with
  | moveRegister target source =>
      have read := operand?_direct (destinationValid _ rfl) (sourceValid _ rfl) rest
      exact instruction?_operands 0x8B rfl read rfl
  | moveLoad target base displacement notStack =>
      have read := operand?_based (destinationValid _ rfl) (sourceValid _ rfl) displacement rest
      exact instruction?_operands 0x8B rfl read rfl
  | moveAbsolute target address =>
      have read := operand?_absolute (destinationValid _ rfl) address rest
      exact instruction?_operands 0x8B rfl read rfl
  | moveConstant target value =>
      have layout := (layout?_register (destinationValid target rfl)).2.2
      exact (instruction?_plain _ _ layout).trans (read?_constant .mov _ value rest)
  | moveStore base source displacement notStack =>
      have read := operand?_based (sourceValid _ rfl) (destinationValid _ rfl) displacement rest
      exact instruction?_operands 0x89 rfl read rfl
  | moveStoreConstant base displacement value notStack =>
      have read := operand?_based (by decide : Register.eax.Valid) (destinationValid _ rfl)
        displacement (Encoding.digits value.toUInt32 ++ rest)
      exact (instruction?_operands 0xC7 rfl read rfl).trans (read?_constant .mov _ value rest)
  | arithmeticRegister operation target source =>
      have read := operand?_direct (destinationValid _ rfl) (sourceValid _ rfl) rest
      cases operation with
      | addition => exact instruction?_operands 0x03 rfl read rfl
      | subtraction => exact instruction?_operands 0x2B rfl read rfl
  | arithmeticConstant operation target value =>
      rcases arithmetic_field operation with ⟨field, valid, selected, operands_eq⟩
      have read := operand?_direct valid (destinationValid target rfl)
        (Encoding.digits value.toUInt32 ++ rest)
      rw [← operands_eq] at read
      exact (instruction?_operands 0x81 rfl read (selected _)).trans
        (read?_constant _ _ value rest)
  | shiftByRegister operation target =>
      rcases shift_field operation with ⟨field, valid, selected, operands_eq⟩
      have read := operand?_direct valid (destinationValid target rfl) rest
      rw [← operands_eq] at read
      exact instruction?_operands 0xD3 rfl read (selected _)
  | shiftByOne operation target untemplated =>
      rcases shift_field operation with ⟨field, valid, selected, operands_eq⟩
      have read := operand?_direct valid (destinationValid target rfl) rest
      rw [← operands_eq] at read
      exact instruction?_operands 0xD1 rfl read (selected _)
  | shiftByConstant operation target count untemplated nonnegative bounded notOne =>
      rcases shift_field operation with ⟨field, valid, selected, operands_eq⟩
      have read := operand?_direct valid (destinationValid target rfl)
        (count.toUInt32.toUInt8 :: rest)
      rw [← operands_eq] at read
      refine (instruction?_operands 0xC1 rfl read (selected _)).trans ?_
      rw [Ending.read?, count_byte nonnegative bounded]
  | pushRegister source =>
      exact instruction?_plain _ _ (layout?_register (sourceValid source rfl)).1
  | pushConstant value =>
      exact (instruction?_plain 0x68 _ rfl).trans (read?_constant .push .absent value rest)
  | popRegister target =>
      exact instruction?_plain _ _ (layout?_register (destinationValid target rfl)).2.1
  | callRegister source =>
      have read := operand?_direct (by decide : Register.edx.Valid) (sourceValid _ rfl) rest
      exact instruction?_operands 0xFF rfl read rfl
  | callOffset value =>
      exact (instruction?_plain 0xE8 _ rfl).trans (read?_constant .call .absent value rest)
  | «return» => exact instruction?_plain 0xC3 _ rfl
  | jumpRegister source =>
      have read := operand?_direct (by decide : Register.esp.Valid) (sourceValid _ rfl) rest
      exact instruction?_operands 0xFF rfl read rfl
  | jumpShort value untemplated lower upper =>
      refine (instruction?_plain 0xEB (value.toUInt32.toUInt8 :: rest) rfl).trans ?_
      rw [Ending.read?, offset_byte lower upper]
  | jumpNear value far =>
      exact (instruction?_plain 0xE9 _ rfl).trans (read?_constant .jmp .absent value rest)
  | nothing => exact instruction?_plain 0x90 _ rfl

theorem instruction?_of_encoded {instruction : Instruction} {encoding : Encoding}
    (encoded : Encoding.ofInstruction instruction = .ok encoding) (rest : List UInt8) :
    instruction? (encoding.bytes ++ rest) = some (instruction.untemplated, rest) := by
  rw [Encoding.ofInstruction_eq_ok_iff] at encoded
  rcases encoded with ⟨destinationValid, sourceValid, _, row⟩
  exact instruction?_of_row row destinationValid sourceValid rest

/-- No encoding is a proper beginning of another one. -/
theorem bytes_eq_of_isPrefix {first second : Instruction} {firstEncoding secondEncoding : Encoding}
    (firstEncoded : Encoding.ofInstruction first = .ok firstEncoding)
    (secondEncoded : Encoding.ofInstruction second = .ok secondEncoding)
    (starts : firstEncoding.bytes <+: secondEncoding.bytes) :
    firstEncoding.bytes = secondEncoding.bytes := by
  rcases starts with ⟨rest, bytes_eq⟩
  have firstDecoded := instruction?_of_encoded firstEncoded rest
  have secondDecoded := instruction?_of_encoded secondEncoded []
  rw [bytes_eq] at firstDecoded
  rw [List.append_nil, firstDecoded] at secondDecoded
  have rest_eq : rest = [] := congrArg Prod.snd (Option.some.inj secondDecoded)
  rw [← bytes_eq, rest_eq, List.append_nil]

/-! ### Sweeping -/

theorem word?_length_lt {code rest : List UInt8} {value : UInt32}
    (read : word? code = some (value, rest)) : rest.length < code.length := by
  unfold word? at read
  split at read
  · simp only [Option.some.injEq, Prod.mk.injEq] at read
    rw [← read.2]
    simp only [List.length_cons]
    omega
  · simp at read

theorem operand?_length_lt {code rest : List UInt8} {field : UInt8} {shape : Shape}
    (read : operand? code = some (field, shape, rest)) : rest.length < code.length := by
  unfold operand? at read
  split at read
  · simp at read
  · rename_i operands behind
    rw [List.length_cons]
    split_ifs at read
    · simp only [Option.some.injEq, Prod.mk.injEq] at read
      rw [read.2.2]
      omega
    · split at read
      · simp at read
      · simp only [Option.some.injEq, Prod.mk.injEq] at read
        rw [read.2.2, List.length_cons]
        omega
    · rcases Option.map_eq_some_iff.mp read with ⟨⟨address, after⟩, found, read⟩
      have shorter := word?_length_lt found
      simp only [Prod.mk.injEq] at read
      rw [← read.2.2]
      omega

theorem ending_length_le {ending : Ending} {code rest : List UInt8} {decoded : Instruction}
    (read : ending.read? code = some (decoded, rest)) : rest.length ≤ code.length := by
  unfold Ending.read? at read
  split at read
  · simp only [Option.some.injEq, Prod.mk.injEq] at read
    rw [read.2]
  · simp at read
  · simp only [Option.some.injEq, Prod.mk.injEq] at read
    rw [read.2, List.length_cons]
    omega
  · rcases Option.map_eq_some_iff.mp read with ⟨⟨value, after⟩, found, read⟩
    have shorter := word?_length_lt found
    simp only [Prod.mk.injEq] at read
    rw [← read.2]
    omega

theorem instruction?_length_lt {code rest : List UInt8} {decoded : Instruction}
    (read : instruction? code = some (decoded, rest)) : rest.length < code.length := by
  cases code with
  | nil => simp [instruction?] at read
  | cons opcode behind =>
      rcases Option.bind_eq_some_iff.mp read with ⟨layout, _, read⟩
      rw [List.length_cons]
      cases layout with
      | plain ending =>
          have shorter := ending_length_le read
          omega
      | operands use =>
          rcases Option.bind_eq_some_iff.mp read with ⟨⟨field, shape, after⟩, found, read⟩
          rcases Option.bind_eq_some_iff.mp read with ⟨ending, _, read⟩
          have operandShorter := operand?_length_lt found
          have shorter := ending_length_le read
          omega

/-- The slots behind the first one, if that one starts in front of an offset. -/
def slotBefore? (offset : Nat) : List Int64 → Option (List Int64)
  | [] => none
  | slot :: later => if slot.toInt < offset then some later else none

/--
Reads instructions one after the other. `offset` is the place of the code; an
instruction gets a template mark if the next slot starts in front of its end.
-/
def sweepFrom (offset : Nat) (slots : List Int64) (code : List UInt8) :
    Option (List Instruction) :=
  match decoded : instruction? code with
  | none => if code = [] then some [] else none
  | some (instruction, rest) =>
    have _shorter := instruction?_length_lt decoded
    let next := offset + (code.length - rest.length)
    match slotBefore? next slots with
    | some later => (sweepFrom next later rest).map (instruction.templated :: ·)
    | none => (sweepFrom next slots rest).map (instruction :: ·)
termination_by code.length

/-- The instructions of machine code, without template marks. -/
def sweep (code : List UInt8) : Option (List Instruction) :=
  sweepFrom 0 [] code

/-- The instructions of a template, with template marks where its slots are. -/
def program? (template : Template) : Option (List Instruction) :=
  sweepFrom 0 template.slots template.code

theorem sweepFrom_nil (offset : Nat) (slots : List Int64) :
    sweepFrom offset slots [] = some [] := by
  rw [sweepFrom]
  simp [instruction?]

theorem sweepFrom_encoding {instruction : Instruction} {encoding : Encoding}
    (encoded : Encoding.ofInstruction instruction = .ok encoding) (offset : Nat)
    (slots : List Int64) (rest : List UInt8) :
    sweepFrom offset slots (encoding.bytes ++ rest) =
      match slotBefore? (offset + encoding.bytes.length) slots with
      | some later => (sweepFrom (offset + encoding.bytes.length) later rest).map
          (instruction.untemplated.templated :: ·)
      | none => (sweepFrom (offset + encoding.bytes.length) slots rest).map
          (instruction.untemplated :: ·) := by
  have decoded := instruction?_of_encoded encoded rest
  have size_eq : (encoding.bytes ++ rest).length - rest.length = encoding.bytes.length := by simp
  rw [sweepFrom]
  split
  · rename_i refused
    simp [decoded] at refused
  · rename_i found
    rw [decoded, Option.some.injEq, Prod.mk.injEq] at found
    rcases found with ⟨rfl, rfl⟩
    rw [size_eq]

theorem sweepFrom_codeOf {program : List Instruction} {encodings : List Encoding}
    (encodes : Encodes program encodings) (offset : Nat) :
    sweepFrom offset [] (Template.codeOf encodings) = some (program.map .untemplated) := by
  induction encodes generalizing offset with
  | nil => exact sweepFrom_nil offset []
  | @cons instruction encoding program encodings encoded _ ih =>
      rw [Template.codeOf_cons, sweepFrom_encoding encoded]
      simp [slotBefore?, ih]

theorem slotBefore?_eq_none {offset : Nat} {slots : List Int64}
    (behind : ∀ slot ∈ slots, (offset : Int) ≤ slot.toInt) : slotBefore? offset slots = none := by
  cases slots with
  | nil => rfl
  | cons slot later =>
      have first := behind slot List.mem_cons_self
      simp only [slotBefore?, ite_eq_right_iff]
      intro inside
      omega

theorem untemplated_of_source {instruction : Instruction} {encoding : Encoding}
    (encoded : Encoding.ofInstruction instruction = .ok encoding)
    (untemplated : instruction.source.template = false) :
    instruction.untemplated = instruction := by
  rcases (Encoding.ofInstruction_eq_ok_iff ..).mp encoded with ⟨_, _, plainDestination, _⟩
  rcases instruction with ⟨mnemonic, ⟨destination, _⟩, ⟨source, _⟩⟩
  dsimp only at plainDestination untemplated
  subst plainDestination untemplated
  rfl

theorem templated_untemplated {instruction : Instruction} {encoding : Encoding}
    (encoded : Encoding.ofInstruction instruction = .ok encoding)
    (templated : instruction.source.template = true) :
    instruction.untemplated.templated = instruction := by
  rcases (Encoding.ofInstruction_eq_ok_iff ..).mp encoded with ⟨_, _, plainDestination, _⟩
  rcases instruction with ⟨mnemonic, ⟨destination, _⟩, ⟨source, _⟩⟩
  dsimp only at plainDestination templated
  subst plainDestination templated
  rfl

theorem sweepFrom_slotsFrom {program : List Instruction} {encodings : List Encoding}
    (encodes : Encodes program encodings)
    (canonical : ∀ instruction ∈ program, instruction.source.Canonical) (offset : Nat)
    (bounded : offset + (Template.codeOf encodings).length < 2 ^ 63) :
    sweepFrom offset (Template.slotsFrom offset encodings) (Template.codeOf encodings) =
      some program := by
  induction encodes generalizing offset with
  | nil => exact sweepFrom_nil offset _
  | @cons instruction encoding program encodings encoded encodes ih =>
      rw [List.forall_mem_cons] at canonical
      rw [Template.codeOf_cons, List.length_append] at bounded
      have rest := ih canonical.2 (offset + encoding.bytes.length) (by omega)
      rw [Template.codeOf_cons, sweepFrom_encoding encoded]
      cases templated : instruction.source.template with
      | false =>
          -- The next slot belongs to a later instruction, so this one gets no mark.
          have unslotted := Encoding.slot_eq_none_of_untemplated encoded templated
          have behind :=
            Template.le_of_mem_slotsFrom encodes (offset + encoding.bytes.length) (by omega)
          rw [Template.slotsFrom_cons_plain unslotted, slotBefore?_eq_none behind]
          simp only [rest, untemplated_of_source encoded templated, Option.map_some]
      | true =>
          rcases Encoding.ofInstruction_carrying encoded canonical.1 templated with
            ⟨lead, word, rfl, _⟩
          have size_eq : offset + (Encoding.withWord lead word true).bytes.length =
              offset + lead.length + 4 := by
            simp [Encoding.withWord, LittleEndian.width, Nat.add_assoc]
          rw [size_eq] at rest ⊢
          have inside : (Int64.ofNat (offset + lead.length)).toInt <
              (offset + lead.length + 4 : Nat) := by
            rw [Int64.toInt_ofNat_of_lt (by omega)]
            omega
          rw [Template.slotsFrom_cons_withWord, slotBefore?, if_pos inside]
          simp only [rest, templated_untemplated encoded templated, Option.map_some]

theorem sweep_of_assembled {program : List Instruction} {template : Template}
    (assembled : assembleProgram program = .ok template) :
    sweep template.code = some (program.map .untemplated) := by
  rcases (assembleProgram_eq_ok_iff program template).mp assembled with ⟨encodings, encodes, rfl⟩
  exact sweepFrom_codeOf encodes 0

theorem program?_of_assembled {program : List Instruction} {template : Template}
    (wellFormed : ∀ instruction ∈ program, instruction.WellFormed)
    (assembled : assembleProgram program = .ok template) (addressable : template.Addressable) :
    program? template = some program := by
  rcases (assembleProgram_eq_ok_iff program template).mp assembled with ⟨encodings, encodes, rfl⟩
  apply sweepFrom_slotsFrom encodes
  · intro instruction instructionMem
    exact Instruction.canonical_source_of_wellFormed (wellFormed instruction instructionMem)
  · rwa [Nat.zero_add]

end Disassembly

/--
Machine code is uniquely decodable. Programs with the same code have the same
instructions up to template marks, and with the same slots they are the same; a sweep
over the code gives the instructions back, for no encoding starts another one.
-/
theorem assembled_code_uniquely_decodable {first second : List Instruction}
    {firstTemplate secondTemplate : Template}
    (firstWellFormed : ∀ instruction ∈ first, instruction.WellFormed)
    (secondWellFormed : ∀ instruction ∈ second, instruction.WellFormed)
    (firstAssembled : assembleProgram first = .ok firstTemplate)
    (secondAssembled : assembleProgram second = .ok secondTemplate) :
    (firstTemplate.code = secondTemplate.code →
      first.length = second.length ∧
        first.map Instruction.untemplated = second.map Instruction.untemplated) ∧
    (firstTemplate.code = secondTemplate.code → firstTemplate.slots = secondTemplate.slots →
      firstTemplate.Addressable → first = second) ∧
    Disassembly.sweep firstTemplate.code = some (first.map Instruction.untemplated) ∧
    (∀ {shorter longer : Instruction} {shorterEncoding longerEncoding : Encoding},
      Encoding.ofInstruction shorter = .ok shorterEncoding →
      Encoding.ofInstruction longer = .ok longerEncoding →
      shorterEncoding.bytes <+: longerEncoding.bytes →
      shorterEncoding.bytes = longerEncoding.bytes) := by
  have firstSwept := Disassembly.sweep_of_assembled firstAssembled
  have secondSwept := Disassembly.sweep_of_assembled secondAssembled
  refine ⟨?_, ?_, firstSwept, Disassembly.bytes_eq_of_isPrefix⟩
  · intro code_eq
    rw [code_eq, secondSwept, Option.some.injEq] at firstSwept
    have length_eq := congrArg List.length firstSwept
    simp only [List.length_map] at length_eq
    exact ⟨length_eq.symm, firstSwept.symm⟩
  · intro code_eq slots_eq addressable
    have template_eq : firstTemplate = secondTemplate := by
      rcases firstTemplate with ⟨firstCode, firstSlots⟩
      rcases secondTemplate with ⟨secondCode, secondSlots⟩
      rw [Template.mk.injEq]
      exact ⟨code_eq, slots_eq⟩
    subst template_eq
    have firstRead := Disassembly.program?_of_assembled firstWellFormed firstAssembled addressable
    have secondRead :=
      Disassembly.program?_of_assembled secondWellFormed secondAssembled addressable
    rw [firstRead, Option.some.injEq] at secondRead
    exact secondRead

/--
`mov eax, [$0x1000]; shl ecx, 3; jmp $5;` and the same program without the first mark: the
code is the same, and a sweep finds the unmarked instructions in it.
-/
theorem assembled_code_uniquely_decodable_load_shift_jump :
    let load (template : Bool) : Instruction :=
      { mnemonic := .mov, destination := { shape := .register .eax }
        source := { shape := .absolute 0x1000, template } }
    let rest : List Instruction :=
      [{ mnemonic := .shl, destination := { shape := .register .ecx }
         source := { shape := .immediate 3 } },
        { mnemonic := .jmp, source := { shape := .immediate 5, template := true } }]
    let code : List UInt8 :=
      [0x8B, 0x05, 0x00, 0x10, 0x00, 0x00, 0xC1, 0xE1, 0x03, 0xE9, 0x05, 0x00, 0x00, 0x00]
    assembleProgram (load true :: rest) = .ok { code, slots := [2, 10] } ∧
      assembleProgram (load false :: rest) = .ok { code, slots := [10] } ∧
      (load true :: rest).map Instruction.untemplated =
        (load false :: rest).map Instruction.untemplated ∧
      Disassembly.sweep code = some ((load true :: rest).map Instruction.untemplated) := by
  intro load rest code
  have firstAssembled : assembleProgram (load true :: rest) = .ok { code, slots := [2, 10] } := rfl
  have secondAssembled : assembleProgram (load false :: rest) = .ok { code, slots := [10] } := rfl
  have wellFormed : ∀ template, ∀ instruction ∈ load template :: rest,
      instruction.WellFormed := by
    intro template instruction instructionMem
    simp only [load, rest, List.mem_cons, List.not_mem_nil, or_false] at instructionMem
    rcases instructionMem with rfl | rfl | rfl
    · exact .destinationAndSource (by decide) rfl (.register (by decide))
        (.absolute 0x1000 template)
    · exact .destinationAndSource (by decide) rfl (.register (by decide)) (.immediate 3 false)
    · exact .source (by decide) rfl (.immediate 5 true)
  rcases assembled_code_uniquely_decodable (wellFormed true) (wellFormed false) firstAssembled
    secondAssembled with ⟨sameCode, _, swept, _⟩
  exact ⟨firstAssembled, secondAssembled, (sameCode rfl).2, swept⟩

end Stencil
