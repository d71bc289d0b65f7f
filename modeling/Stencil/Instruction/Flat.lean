import Stencil.Instruction

/-!
# Flat records

Instructions that are exchanged with other programs come as flat records: the
operation and the kind of each operand are numbers, and an operand has one field
for every value that some kind of operand may need. Reading such a record keeps
the fields that its kind uses and forgets the others; writing one fills the
unused fields with zero.
-/

namespace Stencil

/-- An operand as a flat record. -/
structure FlatOperand where
  kind : Int64 := 0
  register : UInt8 := 0
  displacement : Int8 := 0
  address : UInt32 := 0
  value : Int32 := 0
  template : Bool := false
deriving DecidableEq, Inhabited

/-- An instruction as a flat record. -/
structure FlatInstruction where
  mnemonic : Int64 := 0
  destination : FlatOperand := {}
  source : FlatOperand := {}
deriving DecidableEq, Inhabited

namespace FlatOperand

/-- The shape that the kind of a record selects. -/
def shape (record : FlatOperand) : Shape :=
  if record.kind = 0 then .absent
  else if record.kind = 1 then .register ⟨record.register⟩
  else if record.kind = 2 then .memory ⟨record.register⟩ record.displacement
  else if record.kind = 3 then .absolute record.address
  else if record.kind = 4 then .immediate record.value
  else .unknown record.kind

/-- The operand that a record describes. -/
def operand (record : FlatOperand) : Operand :=
  { shape := record.shape, template := record.template }

/-- The record of an operand, with zero in every field that its shape does not use. -/
def ofOperand (operand : Operand) : FlatOperand :=
  match operand.shape with
  | .absent => { kind := 0, template := operand.template }
  | .register register =>
    { kind := 1, register := register.number, template := operand.template }
  | .memory base displacement =>
    { kind := 2, register := base.number, displacement, template := operand.template }
  | .absolute address => { kind := 3, address, template := operand.template }
  | .immediate value => { kind := 4, value, template := operand.template }
  | .unknown number => { kind := number, template := operand.template }

end FlatOperand

namespace FlatInstruction

/-- The instruction that a record describes. -/
def instruction (record : FlatInstruction) : Instruction :=
  { mnemonic := .ofNumber record.mnemonic
    destination := record.destination.operand
    source := record.source.operand }

/-- The record of an instruction. -/
def ofInstruction (instruction : Instruction) : FlatInstruction :=
  { mnemonic := instruction.mnemonic.number
    destination := .ofOperand instruction.destination
    source := .ofOperand instruction.source }

end FlatInstruction

end Stencil
