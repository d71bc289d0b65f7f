/-!
# Nodes of a YAML document

A document is a tree of scalars, sequences and mappings. Scalars keep their text,
whether they were written plain, and their tag, since the meaning of the text depends
on them. A reference stands for the node with an anchor.
-/

namespace Stencil.Yaml

/-- A node of a document. -/
inductive Node where
  /-- The tag is empty if none was given. -/
  | scalar (text : String) (plain : Bool) (tag : String)
  | sequence (items : List Node)
  | mapping (entries : List (Node × Node))
  /-- There is no target if the reference stands inside of the node that it means. -/
  | reference (name : String) (target : Option Node)

namespace Node

/-- The scalar that stands for a missing node. -/
def missing : Node := .scalar "" true ""

/-- The node itself, or what a reference stands for. -/
def target? : Node → Option Node
  | reference _ target => target
  | node => some node

/-- Two keys of a mapping are the same: they are of one kind, with the same text or name. -/
def isSameKey : Node → Node → Bool
  | scalar first _ _, scalar second _ _ => first = second
  | sequence _, sequence _ => true
  | mapping _, mapping _ => true
  | reference first _, reference second _ => first = second
  | _, _ => false

/-- No two entries of a mapping have the same key. -/
def haveDistinctKeys : List (Node × Node) → Bool
  | [] => true
  | (key, _) :: rest => !rest.any (fun (other, _) => key.isSameKey other) && haveDistinctKeys rest

end Node

end Stencil.Yaml
