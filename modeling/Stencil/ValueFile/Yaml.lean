import Stencil.Bytes.Base64
import Stencil.ValueFile.Yaml.Node.Reader
import Stencil.ValueFile.Yaml.Number
import Stencil.ValueFile.Yaml.Timestamp
import Stencil.ValueFile.Yaml.Token.Lexer
import Stencil.ValueFile.Yaml.Visit

/-!
# Values in YAML

A values file in YAML is a mapping whose key `values` holds the list of values;
other keys are ignored. An empty file, or one that holds no value at all, gives
the empty list, and so does a list that is missing or empty. Missing items of the
list are left out, and no key may occur twice. A binary key is spelled in base 64.

A mapping can take over the entries of others under the key `<<`, where its own
entries, and those of the mappings named first, come first.
-/

namespace Stencil.Yaml

namespace Node

/--
What a scalar stands for. A tag asks for one kind of meaning, and is refused if the text
does not have it. A scalar with any other tag, or with quotes and no tag, is a text.
-/
def meaning? (text : String) (plain : Bool) (tag : String) : Option Meaning :=
  let meaning := Meaning.ofText text
  if tag = "" then some (if plain then meaning else .text)
  else if tag = "!!null" then if meaning = .null then some meaning else none
  else if tag = "!!bool" then if meaning = .boolean then some meaning else none
  else if tag = "!!int" then
    match meaning with
    | .integer _ => some meaning
    | .largeInteger => some meaning
    | _ => none
  else if tag = "!!float" then
    match meaning with
    | .integer value => some (.real value)
    | .real _ => some meaning
    | _ => none
  else if tag = "!!timestamp" then if Timestamp.isTimestamp text then some .text else none
  else some .text

/-- The integer that an item stands for; nothing for a missing item. -/
def integer? : Node → Option (Option Int)
  | scalar text plain tag =>
    match meaning? text plain tag with
    | some .null => some none
    | some (.integer value) => some (some value)
    | some (.real (some value)) => some (some value)
    | _ => none
  | _ => none

/-- The integers that a list stands for. -/
def integers (referred : Bool) (node : Node) : Visiting (List Int) := do
  match ← Visiting.reach referred node with
  | (scalar text plain tag, _) =>
    if meaning? text plain tag = some .null then return [] else failure
  | (sequence items, referred) =>
    let integers ← items.mapM fun item => do
      let (item, _) ← Visiting.reach referred item
      item.integer?
    return integers.filterMap id
  | _ => failure

/-- The name that the bytes of a binary key spell, one character for each byte. -/
def binaryName? (text : String) : Option String :=
  (Base64.read? text.toList).map fun bytes =>
    String.ofList (bytes.map fun byte => Char.ofNat byte.toNat)

/-- The name that a key stands for; nothing for a missing key. -/
def name? : Node → Option (Option String)
  | scalar text plain tag =>
    if tag = "!!binary" then (binaryName? text).map some
    else (meaning? text plain tag).map fun meaning => if meaning = .null then none else some text
  | _ => none

/-- The key under which other mappings are taken over. -/
def isMergeKey : Node → Bool
  | scalar text plain tag => text = "<<" && ((plain && tag = "") || tag = "!!merge")
  | _ => false

/-- The nodes of the mappings that are taken over. -/
def mergedNodes : Node → List Node
  | sequence items => items
  | node => [node]

end Node

namespace Values

/-- The key of the values. -/
def keyName : String := "values"

/--
Looks at the entries of a mapping one by one: gives the integers under the key of the
values, if it occurs. A second such key is an error, unless the mapping is taken over.
-/
def ofEntries (merged referred : Bool) :
    Option (List Int) → List (Node × Node) → Visiting (Option (List Int))
  | found, [] => return found
  | found, (key, value) :: rest => do
    if key.isMergeKey then ofEntries merged referred found rest
    else
      let (key, _) ← Visiting.reach referred key
      let name ← key.name?
      if name = some keyName then
        match found with
        | some _ => if merged then ofEntries merged referred found rest else failure
        | none =>
          let integers ← value.integers referred
          ofEntries merged referred (some integers) rest
      else ofEntries merged referred found rest

/-- Visits the keys of a mapping again, which happens once before others are taken over. -/
def revisitKeys (referred : Bool) (entries : List (Node × Node)) : Visiting Unit :=
  entries.forM fun (key, _) => discard (Visiting.reach referred key)

/-- The integers of a mapping and those that it takes over; `found` are those that come first. -/
def ofMapping (merged : Bool) :
    Nat → Bool → Option (List Int) → List (Node × Node) → Visiting (Option (List Int))
  | 0, _, _, _ => failure
  | fuel + 1, referred, found, entries => do
    if Node.haveDistinctKeys entries then
      let found ← ofEntries merged referred found entries
      match (entries.find? fun (key, _) => key.isMergeKey).map Prod.snd with
      | none => return found
      | some node =>
        if !merged then revisitKeys referred entries
        node.mergedNodes.foldlM
          (fun found node => do
            match ← Visiting.reach referred node with
            | (.mapping entries, referred) => ofMapping true fuel referred found entries
            | _ => failure)
          found
    else failure

/-- The integers of a document. -/
def ofDocument (fuel : Nat) (node : Node) : Visiting (List Int) := do
  Visiting.note false
  match ← Visiting.reach false node with
  | (.scalar text plain tag, _) =>
    if Node.meaning? text plain tag = some .null then return [] else failure
  | (.mapping entries, referred) =>
    return (← ofMapping false fuel referred none entries).getD []
  | _ => failure

end Values

/-- The node of the first document of a text. -/
def document? (text : List Char) : Option Node :=
  Reader.nodeOf? (Lexer.tokensOf text)

/-- The integers of a values file. -/
def values? (text : String) : Option (List Int) := do
  let node ← document? text.toList
  (Values.ofDocument (text.length + 1) node).run' {}

end Stencil.Yaml
