/-!
# Base 64 text

Three bytes are written as four digits of six bits each, the high bits first. At the
end, one byte is written as two digits and two equals signs, and two bytes as three
digits and one equals sign; bits that are left over are not looked at. Line ends may
stand anywhere.
-/

namespace Stencil.Base64

/-- The value of a digit. -/
def value? (character : Char) : Option Nat :=
  if 'A' ≤ character ∧ character ≤ 'Z' then some (character.toNat - 'A'.toNat)
  else if 'a' ≤ character ∧ character ≤ 'z' then some (character.toNat - 'a'.toNat + 26)
  else if '0' ≤ character ∧ character ≤ '9' then some (character.toNat - '0'.toNat + 52)
  else if character = '+' then some 62
  else if character = '/' then some 63
  else none

/-- Reads groups of four characters as bytes. -/
def readGroups? : List Char → Option (List UInt8)
  | [] => some []
  | [first, second, '=', '='] => do
    return [UInt8.ofNat (4 * (← value? first) + (← value? second) / 16)]
  | [first, second, third, '='] => do
    let middle ← value? second
    return [UInt8.ofNat (4 * (← value? first) + middle / 16),
      UInt8.ofNat (16 * (middle % 16) + (← value? third) / 4)]
  | first :: second :: third :: fourth :: rest => do
    let value := 64 * (64 * (64 * (← value? first) + (← value? second)) + (← value? third)) +
      (← value? fourth)
    return UInt8.ofNat (value / 2 ^ 16) :: UInt8.ofNat (value / 2 ^ 8 % 2 ^ 8) ::
      UInt8.ofNat (value % 2 ^ 8) :: (← readGroups? rest)
  | _ => none

/-- Reads a text as bytes. -/
def read? (characters : List Char) : Option (List UInt8) :=
  readGroups? (characters.filter fun character => character ≠ '\n' && character ≠ '\r')

end Stencil.Base64
