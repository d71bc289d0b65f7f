import Stencil.Path

/-!
# Files in memory

A file system keeps the contents of files under the clean forms of their paths.
Directories are not kept: they exist as far as files lie below them, and the root
always exists. A directory can be read like a file without contents.
-/

namespace Stencil

/-- Files by the clean forms of their paths. -/
structure FileSystem where
  files : List (String × List UInt8) := []
deriving DecidableEq, Inhabited

namespace FileSystem

/-- Something lies below the directory with the given key. -/
def isDirectory (fileSystem : FileSystem) (key : String) : Bool :=
  key = "/" || fileSystem.files.any fun (name, _) => (key.toList ++ ['/']).isPrefixOf name.toList

/-- The contents of a file, and nothing for a directory. -/
def file? (fileSystem : FileSystem) (path : String) : Option (List UInt8) :=
  fileSystem.files.lookup (Path.key path)

/-- What is read from a path, if there is a file or a directory. -/
def read? (fileSystem : FileSystem) (path : String) : Option (List UInt8) :=
  match fileSystem.file? path with
  | some contents => some contents
  | none => if fileSystem.isDirectory (Path.key path) then some [] else none

/-- Stores contents under a key, in place of older ones. -/
def insert (key : String) (contents : List UInt8) :
    List (String × List UInt8) → List (String × List UInt8)
  | [] => [(key, contents)]
  | (name, older) :: rest =>
    if name = key then (key, contents) :: rest else (name, older) :: insert key contents rest

/-- The file system after a file has been written. -/
def write (fileSystem : FileSystem) (path : String) (contents : List UInt8) : FileSystem :=
  { files := insert (Path.key path) contents fileSystem.files }

/-- The files that differ from those of an earlier file system, with their contents. -/
def changes (earlier later : FileSystem) : List (String × List UInt8) :=
  later.files.filter fun file => !earlier.files.contains file

end FileSystem

end Stencil
