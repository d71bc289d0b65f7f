import Stencil.Bytes.LittleEndian

/-!
# Hexadecimal text

Bytes are written as two lower-case hexadecimal digits, the high one first. A
32-bit word is written as its four bytes from the most significant one down,
which makes eight digits.
-/

namespace Stencil.Hexadecimal

/-- The lower-case digit of a value below sixteen. -/
def digit (value : Nat) : Char :=
  if value < 10 then Char.ofNat ('0'.toNat + value) else Char.ofNat ('a'.toNat + (value - 10))

/-- The value of a hexadecimal digit in either case. -/
def value? (character : Char) : Option Nat :=
  if '0' ≤ character ∧ character ≤ '9' then some (character.toNat - '0'.toNat)
  else if 'a' ≤ character ∧ character ≤ 'f' then some (character.toNat - 'a'.toNat + 10)
  else if 'A' ≤ character ∧ character ≤ 'F' then some (character.toNat - 'A'.toNat + 10)
  else none

/-- The two digits of a byte. -/
def byteDigits (byte : UInt8) : List Char :=
  [digit (byte.toNat / 16), digit (byte.toNat % 16)]

/-- The two-digit text of a byte. -/
def byte (byte : UInt8) : String :=
  String.ofList (byteDigits byte)

/-- The eight-digit text of a word. -/
def word (value : UInt32) : String :=
  String.ofList ((LittleEndian.bytes value).reverse.flatMap byteDigits)

/-- The bytes of a buffer, written one after the other without separators. -/
def dense (buffer : List UInt8) : String :=
  String.ofList (buffer.flatMap byteDigits)

/-- The bytes of a buffer, each written as two digits, with single spaces between them. -/
def spaced (buffer : List UInt8) : String :=
  " ".intercalate (buffer.map byte)

/-- Reads pairs of digits as bytes; refuses a foreign character or an odd number of digits. -/
def readDense? : List Char → Option (List UInt8)
  | [] => some []
  | [_] => none
  | high :: low :: rest =>
    match value? high, value? low, readDense? rest with
    | some high, some low, some buffer => some (UInt8.ofNat (16 * high + low) :: buffer)
    | _, _, _ => none

end Stencil.Hexadecimal
