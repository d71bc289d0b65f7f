import Stencil.Text.LowerCase

/-!
# Mnemonics

The eleven operations of the dialect, and the operands that each one takes.
Operations built from outside data are numbered; a number outside the table has
no name, takes no operands and is refused by the encoder.
-/

namespace Stencil

/-- The operation that an instruction performs. -/
inductive Mnemonic where
  | mov
  | add
  | sub
  | shl
  | shr
  | push
  | pop
  | call
  | ret
  | jmp
  | nop
  /-- A number that stands for no operation. -/
  | unknown (number : Int64)
deriving DecidableEq, Inhabited

/-- Which operands an operation takes. -/
inductive Form where
  | plain
  | destination
  | source
  | destinationAndSource
deriving DecidableEq, Inhabited

namespace Form

/-- The number of a form: bit 0 for a destination, bit 1 for a source. -/
def number : Form → Nat
  | plain => 0
  | destination => 1
  | source => 2
  | destinationAndSource => 3

/-- The form has a destination operand. -/
def hasDestination : Form → Bool
  | plain => false
  | destination => true
  | source => false
  | destinationAndSource => true

/-- The form has a source operand. -/
def hasSource : Form → Bool
  | plain => false
  | destination => false
  | source => true
  | destinationAndSource => true

end Form

namespace Mnemonic

/-- The known operations in the order of their numbers. -/
def all : List Mnemonic := [mov, add, sub, shl, shr, push, pop, call, ret, jmp, nop]

/-- The name of an operation, or its number where it has no name. -/
def text : Mnemonic → String
  | mov => "mov"
  | add => "add"
  | sub => "sub"
  | shl => "shl"
  | shr => "shr"
  | push => "push"
  | pop => "pop"
  | call => "call"
  | ret => "ret"
  | jmp => "jmp"
  | nop => "nop"
  | unknown number => s!"mnemonic({number.toInt})"

/-- The number of an operation: its place among the known ones. -/
def number : Mnemonic → Int64
  | mov => 0
  | add => 1
  | sub => 2
  | shl => 3
  | shr => 4
  | push => 5
  | pop => 6
  | call => 7
  | ret => 8
  | jmp => 9
  | nop => 10
  | unknown number => number

/-- The operation with the given number. -/
def ofNumber (number : Int64) : Mnemonic :=
  (all.find? fun mnemonic => mnemonic.number = number).getD (unknown number)

/-- The operation of a name, in any letter case. -/
def ofName? (name : String) : Option Mnemonic :=
  all.find? fun mnemonic => mnemonic.text = LowerCase.text name

/-- The operands that an operation takes. -/
def form : Mnemonic → Form
  | mov | add | sub | shl | shr => .destinationAndSource
  | push | call | jmp => .source
  | pop => .destination
  | ret | nop | unknown _ => .plain

end Mnemonic

end Stencil
