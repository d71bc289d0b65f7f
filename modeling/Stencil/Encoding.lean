import Stencil.Bytes.LittleEndian
import Stencil.Category
import Stencil.Instruction

/-!
# Machine code of one instruction

The encoder gives the bytes of an instruction and, for an instruction with a
templated source, the offset of the four bytes that hold its value. It first
checks the operands against the form of the operation, then looks for the row of
the encoding table that fits.

Rows with a 32-bit field end in that field, so a slot always covers the last
four bytes of its instruction. The short form of a jump is never chosen for a
template, since a slot needs all four bytes.
-/

namespace Stencil

/-- The machine code of one instruction. -/
structure Encoding where
  bytes : List UInt8
  /-- The offset within `bytes` of the four bytes that may be patched. -/
  slot : Option Int64 := none
deriving DecidableEq, Inhabited

/-- The reasons for which an instruction has no encoding. -/
inductive EncodingError where
  /-- No row of the table has operands of these shapes. -/
  | unsupported (instruction : Instruction)
  | templatedDestination (instruction : Instruction)
  | countRegister (instruction : Instruction)
  | unknownRegister (register : Register)
  | unknownMnemonic (mnemonic : Mnemonic)
  | templatedShift (instruction : Instruction)
  | shiftCount (instruction : Instruction)
  | stackBase (operand : Operand)
deriving DecidableEq

namespace EncodingError

/-- The category of an encoding error. -/
def category : EncodingError → Category
  | unsupported _ => .unsupportedOperands
  | templatedDestination _ => .unsupportedOperands
  | countRegister _ => .unsupportedOperands
  | unknownRegister _ => .unknownRegister
  | unknownMnemonic _ => .unknownMnemonic
  | templatedShift _ => .templatedShift
  | shiftCount _ => .shiftCountRange
  | stackBase _ => .stackBase

/-- What an encoding error is about. -/
def subject : EncodingError → String
  | unsupported instruction => instruction.text
  | templatedDestination instruction =>
    instruction.text ++ ": a destination cannot be a template"
  | countRegister instruction => instruction.text ++ ": count register must be ecx"
  | unknownRegister register => register.text
  | unknownMnemonic mnemonic => mnemonic.text
  | templatedShift instruction => instruction.text
  | shiftCount instruction => instruction.text
  | stackBase operand => operand.text

/-- The message of an encoding error. -/
def message (error : EncodingError) : String :=
  error.subject ++ ": " ++ error.category.text

end EncodingError

namespace Encoding

/-- The number that stands for a missing slot where a number is asked for. -/
def noSlot : Int64 := -1

/-- The slot as a number. -/
def slotNumber (encoding : Encoding) : Int64 :=
  encoding.slot.getD noSlot

/-- The slot that a number stands for. -/
def slotOfNumber (number : Int64) : Option Int64 :=
  if number = noSlot then none else some number

/-- Packs the three fields of the byte that selects operands: two, three and three bits. -/
def modRM (mode register memory : UInt8) : UInt8 :=
  ((mode &&& 3) <<< 6) ||| ((register &&& 7) <<< 3) ||| (memory &&& 7)

/-- The operand byte for a register used directly. -/
def direct (field : UInt8) (register : Register) : UInt8 :=
  modRM 3 field register.code

/-- The operand byte for a fixed address. -/
def fixedAddress (field : UInt8) : UInt8 :=
  modRM 0 field 5

/-- The operand byte for the memory at a base register plus a byte. -/
def based (field : UInt8) (base : Register) : UInt8 :=
  modRM 1 field base.code

/-- An encoding without a slot. -/
def plain (bytes : List UInt8) : Encoding :=
  { bytes }

/-- Leading bytes followed by a 32-bit field, which is a slot if `template` says so. -/
def withWord (lead : List UInt8) (word : UInt32) (template : Bool) : Encoding :=
  { bytes := lead ++ LittleEndian.bytes word
    slot := if template then some (Int64.ofNat lead.length) else none }

/--
The operand byte and the displacement byte of a memory operand. The code of
`esp` means something else in this place, so `esp` cannot be a base.
-/
def memoryBytes (field : UInt8) (base : Register) (displacement : Int8) (operand : Operand) :
    Except EncodingError (List UInt8) :=
  if base.code = Register.esp.code then .error (.stackBase operand)
  else .ok [based field base, displacement.toUInt8]

/-- Moves between registers, memory, fixed addresses and constants. -/
def move (instruction : Instruction) : Except EncodingError Encoding :=
  let template := instruction.source.template
  match instruction.destination.shape, instruction.source.shape with
  | .register target, .register source => .ok (plain [0x8B, direct target.code source])
  | .register target, .memory base displacement =>
    (memoryBytes target.code base displacement instruction.source).map fun operands =>
      plain (0x8B :: operands)
  | .register target, .absolute address =>
    .ok (withWord [0x8B, fixedAddress target.code] address template)
  | .register target, .immediate value =>
    .ok (withWord [0xB8 + target.code] value.toUInt32 template)
  | .memory base displacement, .register source =>
    (memoryBytes source.code base displacement instruction.destination).map fun operands =>
      plain (0x89 :: operands)
  | .memory base displacement, .immediate value =>
    (memoryBytes 0 base displacement instruction.destination).map fun operands =>
      withWord (0xC7 :: operands) value.toUInt32 template
  | _, _ => .error (.unsupported instruction)

/-- Addition and subtraction: an opcode for registers and a field for constants. -/
def arithmetic (opcode field : UInt8) (instruction : Instruction) :
    Except EncodingError Encoding :=
  match instruction.destination.shape, instruction.source.shape with
  | .register target, .register source => .ok (plain [opcode, direct target.code source])
  | .register target, .immediate value =>
    .ok (withWord [0x81, direct field target] value.toUInt32 instruction.source.template)
  | _, _ => .error (.unsupported instruction)

/--
Shifts by the low byte of `ecx` or by a constant byte. The count is fixed when the
program is assembled, so it is never a template; a shift by one has a form of its own.
-/
def shift (field : UInt8) (instruction : Instruction) : Except EncodingError Encoding :=
  match instruction.destination.shape, instruction.source.shape with
  | .register target, .register count =>
    if count = Register.ecx then .ok (plain [0xD3, direct field target])
    else .error (.countRegister instruction)
  | .register target, .immediate count =>
    if instruction.source.template then .error (.templatedShift instruction)
    else if count < 0 ∨ 255 < count then .error (.shiftCount instruction)
    else if count = 1 then .ok (plain [0xD1, direct field target])
    else .ok (plain [0xC1, direct field target, count.toUInt32.toUInt8])
  | _, _ => .error (.unsupported instruction)

/-- Pushes a register or a constant. -/
def push (instruction : Instruction) : Except EncodingError Encoding :=
  match instruction.source.shape with
  | .register source => .ok (plain [0x50 + source.code])
  | .immediate value => .ok (withWord [0x68] value.toUInt32 instruction.source.template)
  | _ => .error (.unsupported instruction)

/-- Pops into a register. -/
def pop (instruction : Instruction) : Except EncodingError Encoding :=
  match instruction.destination.shape with
  | .register target => .ok (plain [0x58 + target.code])
  | _ => .error (.unsupported instruction)

/-- Calls the address in a register or at a relative offset. -/
def call (instruction : Instruction) : Except EncodingError Encoding :=
  match instruction.source.shape with
  | .register source => .ok (plain [0xFF, direct 2 source])
  | .immediate value => .ok (withWord [0xE8] value.toUInt32 instruction.source.template)
  | _ => .error (.unsupported instruction)

/-- Jumps to the address in a register or to a relative offset, in the short form if it fits. -/
def jump (instruction : Instruction) : Except EncodingError Encoding :=
  match instruction.source.shape with
  | .register source => .ok (plain [0xFF, direct 4 source])
  | .immediate value =>
    if !instruction.source.template ∧ -128 ≤ value ∧ value ≤ 127 then
      .ok (plain [0xEB, value.toUInt32.toUInt8])
    else
      .ok (withWord [0xE9] value.toUInt32 instruction.source.template)
  | _ => .error (.unsupported instruction)

/-- The encoding of an instruction whose operands have passed the check. -/
def row (instruction : Instruction) : Except EncodingError Encoding :=
  match instruction.mnemonic with
  | .mov => move instruction
  | .add => arithmetic 0x03 0 instruction
  | .sub => arithmetic 0x2B 5 instruction
  | .shl => shift 4 instruction
  | .shr => shift 5 instruction
  | .push => push instruction
  | .pop => pop instruction
  | .call => call instruction
  | .ret => .ok (plain [0xC3])
  | .jmp => jump instruction
  | .nop => .ok (plain [0x90])
  | .unknown number => .error (.unknownMnemonic (.unknown number))

/--
What is wrong with one operand of an instruction: it is there although the form does
not have it, or the other way round, or it mentions a register that does not exist.
-/
def operandFault? (instruction : Instruction) (operand : Operand) (expected : Bool) :
    Option EncodingError :=
  if operand.shape.isPresent != expected then some (.unsupported instruction)
  else
    match operand.shape.register? with
    | some register => if register.Valid then none else some (.unknownRegister register)
    | none => none

/-- The first thing that is wrong with the operands of an instruction. -/
def fault? (instruction : Instruction) : Option EncodingError :=
  let form := instruction.mnemonic.form
  match operandFault? instruction instruction.destination form.hasDestination with
  | some error => some error
  | none =>
    match operandFault? instruction instruction.source form.hasSource with
    | some error => some error
    | none =>
      if instruction.destination.template then some (.templatedDestination instruction) else none

/-- The machine code of an instruction. -/
def ofInstruction (instruction : Instruction) : Except EncodingError Encoding :=
  match fault? instruction with
  | some error => .error error
  | none => row instruction

end Encoding

end Stencil
