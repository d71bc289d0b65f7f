import Stencil.Text.LowerCase

/-!
# Paths

A path is a text with slashes between the names of directories and files. Two
paths that differ only in doubled slashes, in dots, or in a name that a pair of
dots takes back name the same file, and have the same clean form.
-/

namespace Stencil.Path

/-- The parts of a path between its slashes. -/
def parts : List Char → List (List Char)
  | [] => [[]]
  | character :: rest =>
    if character = '/' then [] :: parts rest
    else
      match parts rest with
      | [] => [[character]]
      | first :: others => (character :: first) :: others

/-- The path starts at the root. -/
def isRooted (path : List Char) : Bool := path.head? = some '/'

/-- Adds a part to the parts that are left so far, of which the last one comes first. -/
def pushPart (rooted : Bool) (kept : List (List Char)) (part : List Char) : List (List Char) :=
  if part = [] ∨ part = ['.'] then kept
  else if part = ['.', '.'] then
    match kept with
    | [] => if rooted then [] else [part]
    | last :: others => if last = ['.', '.'] then part :: kept else others
  else part :: kept

/-- The clean form of a path. -/
def clean (path : String) : String :=
  let characters := path.toList
  let rooted := isRooted characters
  let kept := ((parts characters).foldl (pushPart rooted) []).reverse
  let body := String.ofList (['/'].intercalate kept)
  if rooted then "/" ++ body else if kept = [] then "." else body

/-- The name under which a file system keeps the file of a path. -/
def key (path : String) : String :=
  let cleaned := clean path
  if cleaned = "." ∨ cleaned = ".." then "/" else cleaned

/-- The last part of a path from its last point on, or nothing. -/
def extension (path : String) : String :=
  let last := path.toList.reverse.takeWhile (· ≠ '/')
  if '.' ∈ last then String.ofList ('.' :: (last.takeWhile (· ≠ '.')).reverse) else ""

end Stencil.Path
