/-!
# Blank characters

The characters that Unicode calls white space, and texts without the blanks at
their two ends.
-/

namespace Stencil.Blank

/-- The character is white space. -/
def isBlank (character : Char) : Bool :=
  let code := character.toNat
  (9 ≤ code && code ≤ 13) || code == 0x20 || code == 0x85 || code == 0xa0 || code == 0x1680 ||
    (0x2000 ≤ code && code ≤ 0x200a) || code == 0x2028 || code == 0x2029 || code == 0x202f ||
    code == 0x205f || code == 0x3000

/-- The characters without the blanks at both ends. -/
def trimmed (characters : List Char) : List Char :=
  ((characters.dropWhile isBlank).reverse.dropWhile isBlank).reverse

/-- The text without the blanks at both ends. -/
def trim (text : String) : String :=
  String.ofList (trimmed text.toList)

end Stencil.Blank
