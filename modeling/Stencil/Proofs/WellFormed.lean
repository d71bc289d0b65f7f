import Stencil.Instruction

/-!
# Canonical and well-formed instructions

Instructions may be built from outside data and then hold anything. In a canonical
one the template mark stands only on an address or a constant. A well-formed one is
an operation of the language with exactly the operands that it takes: existing
registers, a destination that can be written and is no template, and a canonical
source.
-/

namespace Stencil

namespace Operand

/-- The template mark stands only where it means something: on an address or a constant. -/
def Canonical (operand : Operand) : Prop :=
  operand.template = true → operand.shape.isAbsolute = true ∨ operand.shape.isImmediate = true

/-- The operands that an operation may write to. They are never templates. -/
inductive IsDestination : Operand → Prop where
  | register {register : Register} (valid : register.Valid) :
      IsDestination { shape := .register register }
  | memory {base : Register} (valid : base.Valid) (displacement : Int8) :
      IsDestination { shape := .memory base displacement }
  | absolute (address : UInt32) : IsDestination { shape := .absolute address }

/-- The operands that an operation may read from. Addresses and constants may be templates. -/
inductive IsSource : Operand → Prop where
  | register {register : Register} (valid : register.Valid) :
      IsSource { shape := .register register }
  | memory {base : Register} (valid : base.Valid) (displacement : Int8) :
      IsSource { shape := .memory base displacement }
  | absolute (address : UInt32) (template : Bool) :
      IsSource { shape := .absolute address, template }
  | immediate (value : Int32) (template : Bool) : IsSource { shape := .immediate value, template }

theorem canonical_absent : absent.Canonical := by
  intro templated
  simp [absent] at templated

theorem canonical_of_isSource {operand : Operand} (isSource : operand.IsSource) :
    operand.Canonical := by
  intro templated
  cases isSource with
  | register valid => simp at templated
  | memory valid displacement => simp at templated
  | absolute address template => exact .inl rfl
  | immediate value template => exact .inr rfl

end Operand

namespace Instruction

/-- Both operands are as the parser builds them. -/
def Canonical (instruction : Instruction) : Prop :=
  instruction.destination.Canonical ∧ instruction.source.Canonical

/-- A known operation with the operands of its form and nothing in the place of the others. -/
inductive WellFormed : Instruction → Prop where
  | plain {mnemonic : Mnemonic} (known : mnemonic ∈ Mnemonic.all)
      (form : mnemonic.form = .plain) : WellFormed { mnemonic }
  | destination {mnemonic : Mnemonic} {destination : Operand} (known : mnemonic ∈ Mnemonic.all)
      (form : mnemonic.form = .destination) (isDestination : destination.IsDestination) :
      WellFormed { mnemonic, destination }
  | source {mnemonic : Mnemonic} {source : Operand} (known : mnemonic ∈ Mnemonic.all)
      (form : mnemonic.form = .source) (isSource : source.IsSource) :
      WellFormed { mnemonic, source }
  | destinationAndSource {mnemonic : Mnemonic} {destination source : Operand}
      (known : mnemonic ∈ Mnemonic.all) (form : mnemonic.form = .destinationAndSource)
      (isDestination : destination.IsDestination) (isSource : source.IsSource) :
      WellFormed { mnemonic, destination, source }

theorem canonical_source_of_wellFormed {instruction : Instruction}
    (wellFormed : instruction.WellFormed) : instruction.source.Canonical := by
  cases wellFormed with
  | plain known form => exact Operand.canonical_absent
  | destination known form isDestination => exact Operand.canonical_absent
  | source known form isSource => exact Operand.canonical_of_isSource isSource
  | destinationAndSource known form isDestination isSource =>
      exact Operand.canonical_of_isSource isSource

end Instruction

end Stencil
