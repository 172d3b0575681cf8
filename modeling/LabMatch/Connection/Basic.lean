import LabMatch.Endpoint
import LabMatch.TagSet

/-!
# Connections

A connection says how two endpoints may communicate.  Its shape is a tree: a
leaf is a link with its property tags, `every` asks for all of its branches at
the same time and `either` for at least one.  Both kinds of branching have at
least two branches, so every shape offers something.

A connection may be anchored at two endpoints.  The anchor belongs to the whole
tree; composing connections merges their anchors and is refused when they
describe different links.
-/

namespace LabMatch

/-- The tree of a connection. -/
inductive Shape
  | link (tags : TagSet)
  | every (first second : Shape) (others : List Shape)
  | either (first second : Shape) (others : List Shape)
deriving Inhabited

/-- A connection, anchored or not. -/
structure Connection where
  shape : Shape
  anchor : Option Anchor
deriving Inhabited

inductive SyntaxFault
  | trailingInput
  | tooManyAlternatives (limit : Nat)
  | nestedTooDeeply
  | expectedClosing
  | bareWordInChain
  | expectedName
deriving DecidableEq

inductive ConnectionError
  | nothingToCompose
  | differentLinks (left right : Anchor)
  | duplicateLink (source target : Endpoint)
  | malformed (expression : String) (offset : Nat) (fault : SyntaxFault)
deriving DecidableEq

def SyntaxFault.message : SyntaxFault → String
  | .trailingInput => "unexpected trailing input"
  | .tooManyAlternatives limit =>
    "expression expands to more than " ++ toString limit ++ " alternatives"
  | .nestedTooDeeply => "parentheses nested too deeply"
  | .expectedClosing => "expected `)`"
  | .bareWordInChain => "`any` cannot be combined with properties"
  | .expectedName => "expected a property name, `any` or `(`"

def ConnectionError.message : ConnectionError → String
  | .nothingToCompose => "cannot build a connection from an empty set of alternatives"
  | .differentLinks left right =>
    "connections are anchored at incompatible endpoints: " ++ left.text ++ " vs " ++ right.text
  | .duplicateLink source target =>
    "duplicate connection declared between " ++ source.text ++ " and " ++ target.text
  | .malformed expression offset fault =>
    "invalid connection expression `" ++ expression ++ "` at offset " ++ toString offset ++ ": "
      ++ fault.message

namespace Shape

/-- All of the shapes at the same time; one shape alone stays as it is. -/
def allOf (first : Shape) : List Shape → Shape
  | [] => first
  | second :: others => every first second others

/-- Any one of the shapes; one shape alone stays as it is. -/
def anyOf (first : Shape) : List Shape → Shape
  | [] => first
  | second :: others => either first second others

end Shape

/-- The anchor of two connections taken together: the first one present, unless
both are present and describe different links. -/
def mergeAnchors : Option Anchor → Option Anchor → Except ConnectionError (Option Anchor)
  | some left, some right =>
    if left.sameLink right then .ok (some left) else .error (.differentLinks left right)
  | some left, none => .ok (some left)
  | none, right => .ok right

namespace Connection

/-- A link with the given tags, anchored nowhere. -/
def ofTags (tags : TagSet) : Connection := ⟨.link tags, none⟩

/-- Connected somehow. -/
def bare : Connection := ofTags .bare

def isLink (connection : Connection) : Bool :=
  match connection.shape with
  | .link _ => true
  | _ => false

def unanchored (connection : Connection) : Connection := { connection with anchor := none }

/-- The connection at another anchor. -/
def withAnchor (connection : Connection) (anchor : Anchor) : Connection :=
  { connection with anchor := some anchor }

/-- The connection attached at the given endpoints.  It stays one-way if it was. -/
def attachedAt (connection : Connection) (source target : Endpoint) : Connection :=
  connection.withAnchor ⟨⟨source, target⟩, connection.anchor.any (·.oneWay)⟩

/-- The connection seen from its other end. -/
def flip (connection : Connection) : Connection :=
  { connection with anchor := connection.anchor.map Anchor.flip }

/-- Composes connections by their shapes and merges their anchors from left to
right. -/
def compose (combine : Shape → List Shape → Shape) :
    List Connection → Except ConnectionError Connection
  | [] => .error .nothingToCompose
  | first :: others => do
    let anchor ← others.foldlM (fun merged item => mergeAnchors merged item.anchor) first.anchor
    return ⟨combine first.shape (others.map (·.shape)), anchor⟩

def allOf (items : List Connection) : Except ConnectionError Connection :=
  compose Shape.allOf items

def anyOf (items : List Connection) : Except ConnectionError Connection :=
  compose Shape.anyOf items

/-- At least one of the links, at the given anchor. -/
def ofAlternatives (alternatives : List TagSet) (anchor : Option Anchor) :
    Except ConnectionError Connection := do
  let connection ← anyOf (alternatives.map ofTags)
  return { connection with anchor }

end Connection

end LabMatch
