import Stencil.Text.LowerCase

/-!
# Registers

The eight 32-bit general-purpose registers, numbered in encoding order. A
register is carried as a whole byte, so that instructions built from outside
data can be represented; the numbers from eight on name no register, are
printed by number and are refused by the encoder.
-/

namespace Stencil

/-- A register number. -/
structure Register where
  number : UInt8
deriving DecidableEq, Inhabited

namespace Register

def eax : Register := ⟨0⟩
def ecx : Register := ⟨1⟩
def edx : Register := ⟨2⟩
def ebx : Register := ⟨3⟩
def esp : Register := ⟨4⟩
def ebp : Register := ⟨5⟩
def esi : Register := ⟨6⟩
def edi : Register := ⟨7⟩

/-- The registers in encoding order. -/
def all : List Register := [eax, ecx, edx, ebx, esp, ebp, esi, edi]

/-- The names of the registers in encoding order. -/
def names : List String := ["eax", "ecx", "edx", "ebx", "esp", "ebp", "esi", "edi"]

/-- The number names one of the eight registers. -/
def Valid (register : Register) : Prop := register.number < 8

instance (register : Register) : Decidable register.Valid :=
  inferInstanceAs (Decidable (register.number < 8))

/-- The three bits that stand for the register in machine code. -/
def code (register : Register) : UInt8 := register.number &&& 7

/-- The name of a register, or its number where it has no name. -/
def text (register : Register) : String :=
  names.getD register.number.toNat s!"reg({register.number.toNat})"

/-- The register of a name, in any letter case. -/
def ofName? (name : String) : Option Register :=
  (names.idxOf? (LowerCase.text name)).map fun index => ⟨UInt8.ofNat index⟩

end Register

end Stencil
