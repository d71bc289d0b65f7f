import Stencil.ValueFile.Yaml.Node

/-!
# Visits of nodes

The meaning of a document is found by visiting its nodes. A reference leads to its
target, and all nodes of the target are visited again. So that a short document cannot
ask for more work than its length suggests, a document is refused once nearly all visits
go through references. The more visits there are, the smaller their share may be.
-/

namespace Stencil.Yaml

/-- The numbers of visits so far. -/
structure Visits where
  all : Nat := 0
  /-- Those that went through a reference. -/
  referred : Nat := 0

namespace Visits

/-- The numbers of visits up to which no share is too large. -/
def freeVisits : Nat := 1000
def freeReferred : Nat := 100

/-- The number of visits from which on the share shrinks, and over how many it does. -/
def shrinkingFrom : Nat := 400000
def shrinkingOver : Nat := 3600000

/-- Too many visits went through references: the share falls from 99 to 10 percent. -/
def areExcessive (visits : Visits) : Bool :=
  let excess := min (visits.all - shrinkingFrom) shrinkingOver
  freeReferred < visits.referred && freeVisits < visits.all &&
    visits.all * (99 * shrinkingOver - 89 * excess) < visits.referred * (100 * shrinkingOver)

end Visits

/-- Finding a meaning counts visits, and may fail. -/
abbrev Visiting := StateT Visits Option

namespace Visiting

/-- Notes a visit, which may go through a reference. -/
def note (referred : Bool) : Visiting Unit := do
  let before ← get
  let visits : Visits :=
    { all := before.all + 1, referred := if referred then before.referred + 1 else before.referred }
  set visits
  if visits.areExcessive then failure

/--
Visits a node, and the target of a reference: gives the node that counts, and whether it
was reached through a reference. A reference inside of its own target is refused.
-/
def reach (referred : Bool) (node : Node) : Visiting (Node × Bool) := do
  note referred
  match node with
  | .reference _ none => failure
  | .reference _ (some target) =>
    note true
    return (target, true)
  | _ => return (node, referred)

end Visiting

end Stencil.Yaml
