/-!
# Lower case

Mnemonics and registers are looked up by name without regard to letter case.
All names are ASCII, so only the characters whose lower-case form is an ASCII
letter matter: the ASCII capitals and two capitals outside ASCII, the dotted
`İ` (U+0130), whose lower-case form is `i`, and the Kelvin sign (U+212A), whose
lower-case form is `k`. Every other character keeps a form that is no ASCII
letter unless it is one already, and is left alone here.
-/

namespace Stencil.LowerCase

/-- The lower-case form of a character wherever that form is an ASCII letter. -/
def character (character : Char) : Char :=
  if character.isUpper then character.toLower
  else if character = 'İ' then 'i'
  else if character = 'K' then 'k'
  else character

/-- The text with every character in lower case. -/
def text (text : String) : String :=
  String.ofList (text.toList.map character)

end Stencil.LowerCase
