import Stencil.Bytes.Hexadecimal
import Stencil.Bytes.LittleEndian
import Stencil.Encoding

/-!
# Templates

A template is machine code together with the offsets of its slots, the four-byte
fields that may be overwritten after assembly. Linking concatenates encodings
and turns the slot of each one into an offset of the whole code.

Offsets are 64-bit integers with wrapping arithmetic. A slot that passes the
check of the linker only because its end wraps around lies outside the code;
reading or writing such a slot fails, and a write that fails keeps what it
stored before.
-/

namespace Stencil

/-- Machine code with slots. -/
structure Template where
  code : List UInt8 := []
  /-- The offsets of the slots, in the order of their instructions. -/
  slots : List Int64 := []
deriving DecidableEq, Inhabited

/-- An encoding whose slot does not leave room for four bytes. -/
structure MisplacedSlot where
  /-- The place of the encoding in the list, counted from zero. -/
  index : Nat
  slot : Int64
  size : Nat
deriving DecidableEq

/-- The reasons for which values cannot be stored in the slots of a template. -/
inductive PatchError where
  | countMismatch (values slots : Nat)
  /-- A slot lies outside the code. -/
  | slotOutside
deriving DecidableEq

/-- The code after values have been stored, and whether all of them were. -/
structure Stored where
  code : List UInt8
  complete : Bool
deriving DecidableEq

namespace MisplacedSlot

/-- The message for a misplaced slot. -/
def message (misplaced : MisplacedSlot) : String :=
  s!"assembler: instruction {misplaced.index} has slot {misplaced.slot.toInt} outside its {misplaced.size} bytes"

end MisplacedSlot

namespace PatchError

/-- The message for a patch that failed. -/
def message : PatchError → String
  | countMismatch values slots =>
    s!"got {values} values for {slots} slots: " ++ Category.slotCount.text
  | slotOutside => "slot outside the code"

end PatchError

namespace Template

/-- The check of the linker: the slot ends inside its encoding, in wrapping arithmetic. -/
def acceptsSlot (size : Nat) (slot : Int64) : Bool :=
  0 ≤ slot && slot + 4 ≤ Int64.ofNat size

/-- Puts an encoding in front of a template whose code already counts from its own offset. -/
def prepend (bytes : List UInt8) (slot : Option Int64) (template : Template) : Template :=
  { code := bytes ++ template.code, slots := slot.toList ++ template.slots }

/--
Links encodings. `index` encodings with `offset` bytes in total stand in front of
them; the code returned does not include those, but its slots count them.
-/
def linkFrom (index offset : Nat) : List Encoding → Except MisplacedSlot Template
  | [] => .ok {}
  | encoding :: rest =>
    match encoding.slot with
    | none =>
      (linkFrom (index + 1) (offset + encoding.bytes.length) rest).map (prepend encoding.bytes none)
    | some slot =>
      if acceptsSlot encoding.bytes.length slot then
        (linkFrom (index + 1) (offset + encoding.bytes.length) rest).map
          (prepend encoding.bytes (some (Int64.ofNat offset + slot)))
      else .error { index, slot, size := encoding.bytes.length }

/-- Concatenates encodings into a template. -/
def link (encodings : List Encoding) : Except MisplacedSlot Template :=
  linkFrom 0 0 encodings

/-- The values that the slots hold, if all of them lie inside the code. -/
def values? (template : Template) : Option (List Int32) :=
  template.slots.mapM fun slot => (LittleEndian.read? template.code slot).map UInt32.toInt32

/-- Stores values in slots from left to right, up to the first slot outside the code. -/
def store (code : List UInt8) : List (Int64 × Int32) → Stored
  | [] => { code, complete := true }
  | (slot, value) :: rest =>
    match LittleEndian.write? code slot value.toUInt32 with
    | some code => store code rest
    | none => { code, complete := false }

/--
Overwrites the slots of a template in place: gives the template afterwards and what
went wrong, if anything did. Values that were stored before a failure stay.
-/
def applyInPlace (template : Template) (values : List Int32) : Template × Option PatchError :=
  if values.length = template.slots.length then
    let stored := store template.code (template.slots.zip values)
    ({ template with code := stored.code }, if stored.complete then none else some .slotOutside)
  else (template, some (.countMismatch values.length template.slots.length))

/-- A copy of the template whose slots hold the given values. -/
def apply (template : Template) (values : List Int32) : Except PatchError Template :=
  match template.applyInPlace values with
  | (patched, none) => .ok patched
  | (_, some error) => .error error

/-- The code of the template with the given values in its slots. -/
def patch (template : Template) (values : List Int32) : Except PatchError (List UInt8) :=
  (template.apply values).map code

/-- A line of `perLine` bytes ends after the byte with the given index. -/
def endsLine (perLine : Int64) (index : Nat) : Bool :=
  0 < perLine && (index + 1) % perLine.toInt.toNat == 0

/-- The code as two-digit groups, each followed by a space, with `perLine` groups to a line. -/
def dump (template : Template) (perLine : Int64) : String :=
  String.ofList (template.code.zipIdx.flatMap fun (byte, index) =>
    Hexadecimal.byteDigits byte ++ ' ' :: (if endsLine perLine index then ['\n'] else []))

/-- The code as text, eight bytes to a line. -/
def text (template : Template) : String := template.dump 8

end Template

end Stencil
