import Stencil.Assembly

/-!
# Sessions

A session keeps a table of named templates. Each step works on the table: it
stores a new template under a name, overwrites the slots of a stored one, or
only looks at one. A step that fails stores nothing; the one exception is
overwriting in place, where a slot outside the code leaves what was written
before it.
-/

namespace Stencil

/-- Named templates in the order of their names. -/
abbrev Table := List (String × Template)

/-- The lists of a template that can be copied out of it. -/
inductive View where
  | code
  | slots
  | values
deriving DecidableEq

/-- One step of a session. Names of templates that are read come first. -/
inductive SessionStep where
  /-- With `insist`, a failure is fatal to whoever asked. -/
  | assemble (source : List UInt8) (target : String) (insist : Bool)
  | assembleProgram (program : List Instruction) (target : String)
  | link (encodings : List Encoding) (target : String)
  | empty (target : String)
  | clone (name target : String)
  | apply (name target : String) (values : List Int32)
  | applyInPlace (name : String) (values : List Int32)
  | patch (name : String) (values : List Int32)
  | dump (name : String) (perLine : Int64)
  | text (name : String)
  /-- Copies a list out of a template and overwrites one element of the copy. -/
  | overwriteCopy (name : String) (view : View) (index value : Int64)

/-- The reasons for which a step fails. -/
inductive SessionError where
  | assembly (error : AssemblyError) (fatal : Bool)
  | misplacedSlot (misplaced : MisplacedSlot)
  | patch (error : PatchError)
  | unknownName
  /-- A slot or an element outside its list was asked for. -/
  | outside
deriving DecidableEq

/-- What a step answers. -/
inductive SessionAnswer where
  | done
  | code (bytes : List UInt8)
  | integers (values : List Int)
  | text (text : String)
  | failed (error : SessionError)
deriving DecidableEq

namespace Table

/-- The template with the given name. -/
def find? (table : Table) (name : String) : Option Template :=
  table.lookup name

/-- The table with a template stored under a name, in place of an older one. -/
def insert (table : Table) (name : String) (template : Template) : Table :=
  match table with
  | [] => [(name, template)]
  | (first, stored) :: rest =>
    if name < first then (name, template) :: (first, stored) :: rest
    else if name = first then (name, template) :: rest
    else (first, stored) :: insert rest name template

end Table

namespace Session

/-- The list with one element overwritten, if there is such an element. -/
def overwrite? {α : Type} (list : List α) (index : Int64) (value : α) : Option (List α) :=
  if 0 ≤ index.toInt ∧ index.toInt < list.length then some (list.set index.toInt.toNat value)
  else none

/-- A copy of a list of the template with one element overwritten. -/
def overwriteCopy (template : Template) (view : View) (index value : Int64) : SessionAnswer :=
  match view with
  | .code =>
    match overwrite? template.code index value.toUInt64.toUInt8 with
    | some bytes => .code bytes
    | none => .failed .outside
  | .slots =>
    match overwrite? template.slots index value with
    | some slots => .integers (slots.map Int64.toInt)
    | none => .failed .outside
  | .values =>
    match template.values?.bind fun values => overwrite? values index value.toInt32 with
    | some values => .integers (values.map Int32.toInt)
    | none => .failed .outside

/-- Stores a template that a step has made, or answers why it has not. -/
def storeResult (table : Table) (target : String) (result : Except SessionError Template) :
    Table × SessionAnswer :=
  match result with
  | .ok template => (table.insert target template, .done)
  | .error error => (table, .failed error)

/-- Looks up a template and goes on with it. -/
def withTemplate (table : Table) (name : String)
    (next : Template → Table × SessionAnswer) : Table × SessionAnswer :=
  match table.find? name with
  | some template => next template
  | none => (table, .failed .unknownName)

/-- Carries out one step: gives the table afterwards and the answer. -/
def step (table : Table) : SessionStep → Table × SessionAnswer
  | .assemble source target insist =>
    storeResult table target ((Stencil.assemble source).mapError (.assembly · insist))
  | .assembleProgram program target =>
    storeResult table target ((Stencil.assembleProgram program).mapError (.assembly · false))
  | .link encodings target =>
    storeResult table target ((Template.link encodings).mapError .misplacedSlot)
  | .empty target => storeResult table target (.ok {})
  | .clone name target =>
    withTemplate table name fun template => storeResult table target (.ok template)
  | .apply name target values =>
    withTemplate table name fun template =>
      storeResult table target ((template.apply values).mapError .patch)
  | .applyInPlace name values =>
    withTemplate table name fun template =>
      match template.applyInPlace values with
      | (patched, none) => (table.insert name patched, .done)
      | (patched, some error) => (table.insert name patched, .failed (.patch error))
  | .patch name values =>
    withTemplate table name fun template =>
      match template.patch values with
      | .ok bytes => (table, .code bytes)
      | .error error => (table, .failed (.patch error))
  | .dump name perLine =>
    withTemplate table name fun template => (table, .text (template.dump perLine))
  | .text name => withTemplate table name fun template => (table, .text template.text)
  | .overwriteCopy name view index value =>
    withTemplate table name fun template => (table, overwriteCopy template view index value)

/-- Carries out steps in order: gives the answer of each one and the table after it. -/
def run (table : Table) : List SessionStep → List (SessionAnswer × Table)
  | [] => []
  | first :: rest =>
    let (after, answer) := step table first
    (answer, after) :: run after rest

end Session

end Stencil
