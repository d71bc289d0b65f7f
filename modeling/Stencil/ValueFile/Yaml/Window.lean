/-!
# Windows on a YAML text

A text is fetched in blocks of whole characters, each as long as fits into 512 bytes.
A window is the part of a text that has been fetched, seen from a place in it. Where
more characters are required than it holds from there on, it is moved to that place and
blocks are added. A block with a character that no text may have cannot be fetched.

A byte order mark in front of a text is not part of it. Behind that, the mark is a
character like any other, with one exception: as long as the window starts with a mark,
the first character of every line is passed over where a token is looked for.
-/

namespace Stencil.Yaml

def byteOrderMark : Char := '\ufeff'

/-- The part of a text that has been fetched, seen from a place in the text. -/
structure Window where
  /-- The number of fetched characters from the place on. -/
  ahead : Nat := 0
  /-- The numbers of characters of the blocks that can be fetched next. -/
  blocks : List Nat := []
  /-- The block behind those cannot be fetched. -/
  damaged : Bool := false
  /-- The window starts with a byte order mark. -/
  marked : Bool := false
  /-- Characters were required that cannot be fetched. -/
  failed : Bool := false
deriving DecidableEq

namespace Window

/-! ### Blocks -/

/-- The most bytes that a block may have. -/
def blockSize : Nat := 512

/-- The blocks of a text, of which the first one has at most `room` bytes. -/
def blocksOf : Nat → List Char → List (List Char)
  | _, [] => [[]]
  | room, character :: rest =>
    let size := character.utf8Size
    if size ≤ room then (blocksOf (room - size) rest).modifyHead (character :: ·)
    else [] :: (blocksOf (blockSize - size) rest).modifyHead (character :: ·)

/-- The blocks of a text without the byte order mark in front of it, which takes its room. -/
def blocksOfMarked : List Char → List (List Char)
  | [] => [[]]
  | character :: rest =>
    if character = byteOrderMark then blocksOf (blockSize - byteOrderMark.utf8Size) rest
    else blocksOf blockSize (character :: rest)

/-- The character may stand in a text. -/
def isAllowed (character : Char) : Bool :=
  let code := character.toNat
  code = 0x09 || code = 0x0a || code = 0x0d || (0x20 ≤ code && code ≤ 0x7e) || code = 0x85 ||
    (0xa0 ≤ code && code ≤ 0xfffd) || 0x10000 ≤ code

/-! ### Fetching -/

/--
Fetches blocks until the wanted number of characters is there. If there are no more
blocks, the end of the text counts as a character.
-/
def fetch (wanted : Nat) : Nat → List Nat → Nat × List Nat
  | ahead, [] => (ahead + 1, [])
  | ahead, block :: blocks =>
    if wanted ≤ ahead + block then (ahead + block, blocks)
    else fetch wanted (ahead + block) blocks

/--
Requires a number of characters from a place on. If they are not there, the window moves
to that place, `rest` being the text from there on.
-/
def require (window : Window) (wanted : Nat) (rest : List Char) : Window :=
  if wanted ≤ window.ahead then window
  else
    let (ahead, blocks) := fetch wanted window.ahead window.blocks
    { window with
      ahead
      blocks
      marked := rest.head? = some byteOrderMark
      failed := window.failed ||
        (window.damaged && window.blocks.foldl (· + ·) window.ahead < wanted) }

/-- The window from a place a number of characters further on, with at least one character. -/
def pass (window : Window) (count : Nat) (rest : List Char) : Window :=
  { window with ahead := window.ahead - count }.require 1 rest

end Window

end Stencil.Yaml
