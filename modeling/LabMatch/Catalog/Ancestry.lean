import LabMatch.Catalog.Basic

/-!
# Ancestry

Entities specialise earlier entities of their family.  The ancestry of an entity
is the chain of its first parents; an entity is a subtype of everything that it
reaches through any parent.  A parent is always declared before its child, so
both walks only ever descend to smaller identifiers.
-/

namespace LabMatch

variable {family : Family}

/-- An entity followed by the chain of first parents. -/
def ancestryBy (parents : Id family → List (Id family)) (id : Id family) : List (Id family) :=
  id :: match (parents id).head? with
    | some parent => if parent.index < id.index then ancestryBy parents parent else []
    | none => []
termination_by id.index

/-- Whether an entity is the given one or has it above it. -/
def descendsBy (parents : Id family → List (Id family)) (sub sup : Id family) : Bool :=
  sub == sup || (parents sub).any fun parent =>
    if parent.index < sub.index then descendsBy parents parent sup else false
termination_by sub.index

namespace Catalog

def parents (catalog : Catalog) : (family : Family) → Id family → List (Id family)
  | .container, id => (catalog.container id).parents
  | .device, id => (catalog.device id).parents
  | .capability, id => (catalog.capability id).parents
  | .logicalDevice, id => (catalog.logicalDevice id).parents
  | .attachment, _ => []

/-- An entity followed by its first parent, the first parent of that one, and so
on up to the root. -/
def ancestry (catalog : Catalog) (id : Id family) : List (Id family) :=
  ancestryBy (catalog.parents family) id

/-- Whether `sub` is `sup` or specialises it through any of its parents. -/
def isSubtype (catalog : Catalog) (sub sup : Id family) : Bool :=
  descendsBy (catalog.parents family) sub sup

end Catalog

end LabMatch
