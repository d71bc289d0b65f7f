import Stencil.FileSystem
import Stencil.PatchValue
import Stencil.ValueFile.Toml
import Stencil.ValueFile.Yaml

/-!
# Values files

The values for the slots of a template can be kept in a file. The extension of
its path tells the format: TOML for `.toml` in any letter case, and YAML, of
which JSON is a part, for everything else.

Nothing here depends on how a format is decoded: the decoders of both formats are
a parameter. `ValueFile.formats` are those that the program brings along.
-/

namespace Stencil

/-- The reasons for which a values file gives no values. -/
inductive ValueFileError where
  /-- There is no file under this key. -/
  | missing (key : String)
  | undecodable (path : String)
  /-- A value does not fit in 32 bits; values count from one. -/
  | range (path : String) (index : Nat)
deriving DecidableEq

namespace ValueFileError

/-- The message for a file that is not there. -/
def missingText (key : String) : String := "open " ++ key ++ ": file does not exist"

/-- The message for a bad values file. -/
def message : ValueFileError → String
  | missing key => missingText key
  | undecodable path => "decoding " ++ path
  | range path index => path ++ s!": value {index}: " ++ Category.valueRange.text

end ValueFileError

namespace ValueFile

/-- Decoders give the integers that the contents of a file list, or refuse the contents. -/
structure Decoder where
  toml : List UInt8 → Option (List Int64)
  yaml : List UInt8 → Option (List Int64)

/-- The integers that the contents of a values file list, by the format of its path. -/
def Decoder.decode? (decoder : Decoder) (path : String) (contents : List UInt8) :
    Option (List Int64) :=
  if LowerCase.text (Path.extension path) = ".toml" then decoder.toml contents
  else decoder.yaml contents

/-- The integers that a reader finds in contents that are text. -/
def ofText? (reader : String → Option (List Int)) (contents : List UInt8) :
    Option (List Int64) := do
  let text ← String.fromUTF8? ⟨contents.toArray⟩
  let integers ← reader text
  return integers.map Int64.ofInt

/-- The decoders of the program. -/
def formats : Decoder where
  toml := ofText? Toml.values?
  yaml := ofText? Yaml.values?

/-- The 32-bit values of a list of integers; `index` is the number of the first one. -/
def narrow (path : String) (index : Nat) : List Int64 → Except ValueFileError (List Int32)
  | [] => .ok []
  | value :: rest =>
    match PatchValue.ofInt? value.toInt with
    | none => .error (.range path index)
    | some value => (narrow path (index + 1) rest).map (value :: ·)

/-- The values of a values file. -/
def load (fileSystem : FileSystem) (path : String) (decoder : Decoder := formats) :
    Except ValueFileError (List Int32) :=
  match fileSystem.read? path with
  | none => .error (.missing (Path.key path))
  | some contents =>
    match decoder.decode? path contents with
    | none => .error (.undecodable path)
    | some values => narrow path 1 values

end ValueFile

end Stencil
