import Stencil.ValueFile.Toml.Value

/-!
# Documents of TOML

A document is a tree of tables that grows while it is read. Names are relative to the
current table. Tables come into being implicitly when a name below them is used; such
a table may be started once more by its own name. Any other name is given once, except
that a new value may take the place of an array.
-/

namespace Stencil.Toml

namespace Entries

/-- The entries with a value under a name, in place of an older one. -/
def put (name : String) (value : Value) : Entries → Entries
  | [] => [(name, value)]
  | (other, older) :: rest =>
    if other = name then (name, value) :: rest else (other, older) :: put name value rest

/-- The entries of the table at a path. Of tables that share a name, the last one is meant. -/
def tableAt? : Path → Entries → Option Entries
  | [], entries => some entries
  | name :: rest, entries =>
    match entries.lookup name with
    | some (.table inner) => tableAt? rest inner
    | some (.tables elements) => elements.getLast?.bind (tableAt? rest)
    | _ => none

/-- Changes the table at a path. Of tables that share a name, the last one is meant. -/
def update (change : Entries → Option Entries) : Path → Entries → Option Entries
  | [], entries => change entries
  | name :: rest, entries =>
    match entries.lookup name with
    | some (.table inner) => do return entries.put name (.table (← update change rest inner))
    | some (.tables elements) => do
      let last ← elements.getLast?
      return entries.put name (.tables (elements.dropLast ++ [← update change rest last]))
    | _ => none

/-- Makes sure that there is a table at a path: gives the entries, and the paths that were new. -/
def openPath (above : Path) : Path → Entries → Option (Entries × List Path)
  | [], entries => some (entries, [])
  | name :: rest, entries =>
    let path := above ++ [name]
    match entries.lookup name with
    | none => do
      let (inner, created) ← openPath path rest []
      return (entries.put name (.table inner), path :: created)
    | some (.table inner) => do
      let (inner, created) ← openPath path rest inner
      return (entries.put name (.table inner), created)
    | some (.tables elements) => do
      let last ← elements.getLast?
      let (last, created) ← openPath path rest last
      return (entries.put name (.tables (elements.dropLast ++ [last])), created)
    | some _ => none

/-- Puts a value at a path below a table of its own; the names above it are tables. -/
def putAt (value : Value) : Path → Entries → Option Entries
  | [], entries => some entries
  | [name], entries => some (entries.put name value)
  | name :: rest, entries =>
    match entries.lookup name with
    | none => do return entries.put name (.table (← putAt value rest []))
    | some (.table inner) => do return entries.put name (.table (← putAt value rest inner))
    | some _ => none

/-- Starts another one of the tables that share a name. -/
def addElement (name : String) (entries : Entries) : Option Entries :=
  match entries.lookup name with
  | none => some (entries.put name (.tables [[]]))
  | some (.tables elements) => some (entries.put name (.tables (elements ++ [[]])))
  | some _ => none

end Entries

/-- What has been read of a document. -/
structure Document where
  entries : Entries := []
  /-- The path of the current table. -/
  current : Path := []
  /-- The paths of tables that have not been started by their own name. -/
  implicit : List Path := []
  /-- The paths where an array was read last. -/
  arrays : List Path := []

namespace Document

/-- Notes a table as implicit. -/
def addImplicit (document : Document) (path : Path) : Document :=
  { document with implicit := path :: document.implicit }

/-- The path of a name in the current table; an empty name stands for the table itself. -/
def pathOf (document : Document) (name : String) : Path :=
  let path := if name = "" then document.current else document.current ++ [name]
  if path = [] then [""] else path

/-- Notes whether an array was read for a name. -/
def noteArray (document : Document) (name : String) (isArray : Bool) : Document :=
  let path := document.pathOf name
  let others := document.arrays.filter (· ≠ path)
  { document with arrays := if isArray then path :: others else others }

/-- Gives a name of the current table a value. -/
def assign? (document : Document) (name : String) (value : Value) : Option Document := do
  let path := document.current ++ [name]
  let given := ((← document.entries.tableAt? document.current).lookup name).isSome
  let put := document.entries.update (fun entries => some (entries.put name value)) document.current
  let removed := document.implicit.filter (· ≠ path)
  if !given then return { document with entries := ← put }
  else if document.arrays.contains path then
    return { document with entries := ← put, implicit := removed }
  else if document.implicit.contains path then return { document with implicit := removed }
  else none

/-- Makes the table at a path the current one, or a new one of the tables that share it. -/
def openTable? (document : Document) (path : Path) (shared : Bool) : Option Document := do
  let name ← path.getLast?
  let (entries, created) ← document.entries.openPath [] path.dropLast
  let inParent :=
    { document with
      entries, current := path.dropLast, implicit := created ++ document.implicit }
  let opened ←
    if shared then
      (inParent.entries.update (Entries.addElement name) inParent.current).map fun entries =>
        { inParent with entries }
    else inParent.assign? name (.table [])
  return { opened with current := path }

/-- Goes down from the current table along the names of a key, whose tables are implicit. -/
def descend? (document : Document) : Path → Option Document
  | [] => some document
  | name :: rest => do
    let path := document.current ++ [name]
    let inner ← (document.addImplicit path).openTable? path false
    inner.descend? rest

end Document

end Stencil.Toml
