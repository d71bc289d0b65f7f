import Stencil.Bytes.Hexadecimal
import Stencil.Text.Printable

/-!
# Quoted text

Texts inside messages are quoted, so that every character of them can be seen.
A printable character stands for itself. The common controls have a letter of
their own after a backslash, the other ASCII controls two hexadecimal digits,
and the remaining characters that cannot be shown four digits or eight. A
backslash and the quote in use are escaped; the quote is double for a text and
single for one character.
-/

namespace Stencil.Quoted

/-- The letter that stands for a control after a backslash. -/
def controlLetter? (character : Char) : Option Char :=
  if character = '\x07' then some 'a'
  else if character = '\x08' then some 'b'
  else if character = '\x0c' then some 'f'
  else if character = '\n' then some 'n'
  else if character = '\r' then some 'r'
  else if character = '\t' then some 't'
  else if character = '\x0b' then some 'v'
  else none

/-- The last `digits` hexadecimal digits of a number, zeros in front included. -/
def fixedDigits : Nat → Nat → List Char
  | 0, _ => []
  | digits + 1, number =>
    fixedDigits digits (number / 16) ++ [Hexadecimal.digit (number % 16)]

/-- One character as it stands between quotes of the given kind. -/
def escape (quote character : Char) : List Char :=
  if character = quote ∨ character = '\\' then ['\\', character]
  else if Printable.isPrintable character then [character]
  else
    match controlLetter? character with
    | some letter => ['\\', letter]
    | none =>
      if character.toNat < 0x80 then '\\' :: 'x' :: fixedDigits 2 character.toNat
      else if character.toNat < 0x10000 then '\\' :: 'u' :: fixedDigits 4 character.toNat
      else '\\' :: 'U' :: fixedDigits 8 character.toNat

/-- A text between double quotes. -/
def text (text : String) : String :=
  String.ofList ('\x22' :: text.toList.flatMap (escape '\x22') ++ ['\x22'])

/-- A character between single quotes. -/
def character (character : Char) : String :=
  String.ofList ('\x27' :: escape '\x27' character ++ ['\x27'])

end Stencil.Quoted
