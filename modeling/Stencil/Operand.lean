import Stencil.Bytes.Hexadecimal
import Stencil.Register

/-!
# Operands

An operand has a shape, which says what it denotes, and a template mark, which
asks for its four-byte value to become a patchable slot. The mark is written `$`
and only means something on an absolute address or an immediate value; it is
nevertheless kept beside the shape, because an instruction built from outside
data may carry it anywhere and the encoder has to refuse it on a destination.
-/

namespace Stencil

/-- What an operand denotes. -/
inductive Shape where
  /-- No operand at all. -/
  | absent
  | register (register : Register)
  /-- The memory at a base register plus a signed byte. -/
  | memory (base : Register) (displacement : Int8)
  /-- The memory at a fixed address. -/
  | absolute (address : UInt32)
  /-- A constant. -/
  | immediate (value : Int32)
  /-- A number that stands for no shape. -/
  | unknown (number : Int64)
deriving DecidableEq, Inhabited

/-- An operand of an instruction. -/
structure Operand where
  shape : Shape := .absent
  /-- The value of the operand is to become a slot. -/
  template : Bool := false
deriving DecidableEq, Inhabited

namespace Shape

/-- There is an operand, of whatever shape. -/
def isPresent : Shape → Bool
  | absent => false
  | _ => true

def isRegister : Shape → Bool
  | register _ => true
  | _ => false

def isMemory : Shape → Bool
  | memory _ _ => true
  | _ => false

def isAbsolute : Shape → Bool
  | absolute _ => true
  | _ => false

def isImmediate : Shape → Bool
  | immediate _ => true
  | _ => false

/-- The register that a shape mentions. -/
def register? : Shape → Option Register
  | .register used => some used
  | .memory base _ => some base
  | _ => none

end Shape

namespace Operand

/-- The operand that is not there. -/
def absent : Operand := {}

/-- The mark in front of a value that becomes a slot. -/
def mark (operand : Operand) : String :=
  if operand.template then "$" else ""

/-- A displacement with its sign, as two hexadecimal digits. -/
def displacementText (displacement : Int8) : String :=
  if displacement < 0 then "-0x" ++ Hexadecimal.byte (-displacement).toUInt8
  else "+0x" ++ Hexadecimal.byte displacement.toUInt8

/-- The text of an operand in the source language. -/
def text (operand : Operand) : String :=
  match operand.shape with
  | .register register => register.text
  | .memory base displacement => "[" ++ base.text ++ displacementText displacement ++ "]"
  | .absolute address => "[" ++ operand.mark ++ "0x" ++ Hexadecimal.word address ++ "]"
  | .immediate value => operand.mark ++ toString value.toInt
  | .absent => "<none>"
  | .unknown _ => "<none>"

end Operand

end Stencil
