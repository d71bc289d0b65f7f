import Stencil.Template

/-!
# Listings

The command prints machine code as two-digit groups with single spaces between
them and `perLine` groups to a line, or all of them on one line if that number is
not positive; the last line ends as well. On a terminal the groups of slot bytes
are highlighted. A list of the slots with their offsets and values may follow.

A listing is a list of texts that are printed one after another: a text for each
group with what follows it, and one for each slot. It cannot always be made: no byte
in front of the code can be marked, whether it would be highlighted or not, and the list
of the slots needs the value of each. The listing breaks off in front of such a part.
-/

namespace Stencil

/-- The texts of a listing, up to its end or to where it breaks off. -/
structure Listing where
  texts : List String
  complete : Bool

namespace Listing

/-- The listing that consists of the given parts, as far as they can be made. -/
def ofParts : List (Option (List String)) → Listing
  | [] => { texts := [], complete := true }
  | none :: _ => { texts := [], complete := false }
  | some texts :: parts =>
    let rest := ofParts parts
    { rest with texts := texts ++ rest.texts }

/-- The text in front of a highlighted group. -/
def highlightOn : List Char := "\x1b[33;1m".toList

/-- The text after a highlighted group. -/
def highlightOff : List Char := "\x1b[0;22m".toList

/-- Marks `count` bytes from `index` on, up to the end of the code. -/
def markFrom? (marks : Array Bool) (index : Int) : Nat → Option (Array Bool)
  | 0 => some marks
  | count + 1 =>
    if index < marks.size then
      if index < 0 then none
      else markFrom? (marks.setIfInBounds index.toNat true) (index + 1) count
    else some marks

/-- The bytes of the code, with those that belong to a slot marked. -/
def marks? (template : Template) : Option (Array Bool) :=
  template.slots.foldlM (fun marks slot => markFrom? marks slot.toInt LittleEndian.width)
    (Array.replicate template.code.length false)

/-- One group of the listing. -/
def group (highlighted : Bool) (byte : UInt8) : List Char :=
  if highlighted then highlightOn ++ Hexadecimal.byteDigits byte ++ highlightOff
  else Hexadecimal.byteDigits byte

/-- What follows the group with the given index. -/
def separator (size : Nat) (perLine : Int64) (index : Nat) : Char :=
  if Template.endsLine perLine index || index + 1 == size then '\n' else ' '

/-- The text for one byte of the code. -/
def codeText (size : Nat) (perLine : Int64) (highlighted : Bool) (index : Nat) (byte : UInt8) :
    String :=
  String.ofList (group highlighted byte ++ [separator size perLine index])

/-- The machine code of a template, a text for each byte. -/
def code (template : Template) (perLine : Int64) (highlighted : Bool) : Option (List String) :=
  (marks? template).map fun marks =>
    template.code.zipIdx.map fun (byte, index) =>
      codeText template.code.length perLine (highlighted && marks.getD index false) index byte

/-- The line for one slot. -/
def slotLine (index : Nat) (slot : Int64) (value : Int32) : String :=
  s!"slot {index}: offset {slot.toInt} value {value.toInt} (0x" ++
    Hexadecimal.word value.toUInt32 ++ ")\n"

/-- The slots of a template, a line for each. -/
def slots (template : Template) : Option (List String) :=
  template.values?.map fun values =>
    (template.slots.zip values).zipIdx.map fun (entry, index) => slotLine index entry.1 entry.2

end Listing

end Stencil
