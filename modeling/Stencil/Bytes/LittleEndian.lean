/-!
# Little-endian words

A 32-bit word occupies four bytes of a code buffer, the least significant one
first. This file gives the four bytes of a word, the word of four bytes, and
reading and writing such a field at an offset of a buffer.

Offsets are 64-bit integers, because offsets may come from outside and may then
point anywhere. An access first takes the part of the buffer from the offset on,
which exists up to the end of the buffer, and then needs four bytes of it.
-/

namespace Stencil.LittleEndian

/-- The number of bytes that a word occupies. -/
def width : Nat := 4

/-- The four bytes of a word, least significant first. -/
def bytes (word : UInt32) : List UInt8 :=
  [word.toUInt8, (word >>> 8).toUInt8, (word >>> 16).toUInt8, (word >>> 24).toUInt8]

/-- The word whose bytes are the four given ones, least significant first. -/
def word (first second third fourth : UInt8) : UInt32 :=
  first.toUInt32 ||| (second.toUInt32 <<< 8) ||| (third.toUInt32 <<< 16) |||
    (fourth.toUInt32 <<< 24)

/-- The part of a buffer from `offset` on, if the offset lies in the buffer or at its end. -/
def suffix? (buffer : List UInt8) (offset : Int64) : Option (List UInt8) :=
  if 0 ≤ offset.toInt ∧ offset.toInt ≤ buffer.length then some (buffer.drop offset.toInt.toNat)
  else none

/-- The word stored at `offset`, if there are four bytes from there on. -/
def read? (buffer : List UInt8) (offset : Int64) : Option UInt32 :=
  match suffix? buffer offset with
  | some (first :: second :: third :: fourth :: _) => some (word first second third fourth)
  | _ => none

/-- The buffer after `value` has been stored at `offset`, if there are four bytes from there on. -/
def write? (buffer : List UInt8) (offset : Int64) (value : UInt32) : Option (List UInt8) :=
  match suffix? buffer offset with
  | some (_ :: _ :: _ :: _ :: rest) =>
    some (buffer.take offset.toInt.toNat ++ bytes value ++ rest)
  | _ => none

@[simp]
theorem length_bytes (value : UInt32) : (bytes value).length = width := rfl

end Stencil.LittleEndian
