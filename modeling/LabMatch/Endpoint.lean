import LabMatch.Id

/-!
# Endpoints and anchors

An endpoint is a node of a device.  An anchor says at which two endpoints a
connection is attached, and whether it works in both directions.  A link that
works both ways is the same link seen from its other end; a one-way link is not.
-/

namespace LabMatch

/-- A node of a device. -/
structure Endpoint where
  device : DeviceId
  node : String
deriving DecidableEq, Inhabited

namespace Endpoint

/-- The node that a link is attached to when its declaration names none. -/
def defaultNode : String := "n0"

/-- Endpoints are ordered by device and then by node. -/
instance : LT Endpoint :=
  ⟨fun left right =>
    left.device < right.device ∨ (left.device = right.device ∧ left.node < right.node)⟩

instance : DecidableLT Endpoint := fun left right =>
  inferInstanceAs (Decidable
    (left.device < right.device ∨ (left.device = right.device ∧ left.node < right.node)))

instance : KeyOrder Endpoint :=
  KeyOrder.ofLexicographic Endpoint.device Endpoint.node (fun _ _ => Iff.rfl)
    (fun left right hdevice hnode => by
      cases left
      cases right
      cases hdevice
      cases hnode
      rfl)

/-- Written form, such as `device#3.n0`. -/
def text (endpoint : Endpoint) : String := endpoint.device.text ++ "." ++ endpoint.node

end Endpoint

/-- An ordered pair of endpoints. -/
structure Span where
  source : Endpoint
  target : Endpoint
deriving DecidableEq, Inhabited

namespace Span

/-- The same pair seen from the other end. -/
def flip (span : Span) : Span := ⟨span.target, span.source⟩

/-- Spans are ordered by source and then by target. -/
instance : LT Span :=
  ⟨fun left right =>
    left.source < right.source ∨ (left.source = right.source ∧ left.target < right.target)⟩

instance : DecidableLT Span := fun left right =>
  inferInstanceAs (Decidable
    (left.source < right.source ∨ (left.source = right.source ∧ left.target < right.target)))

instance : KeyOrder Span :=
  KeyOrder.ofLexicographic Span.source Span.target (fun _ _ => Iff.rfl)
    (fun left right hsource htarget => by
      cases left
      cases right
      cases hsource
      cases htarget
      rfl)

@[simp]
theorem flip_flip (span : Span) : span.flip.flip = span := rfl

end Span

structure Anchor extends Span where
  /-- Whether the link only works from its source to its target. -/
  oneWay : Bool
deriving DecidableEq, Inhabited

namespace Anchor

/-- The same link seen from its other end. -/
def flip (anchor : Anchor) : Anchor :=
  { anchor with source := anchor.target, target := anchor.source }

/-- Whether two anchors describe the same link.  A link that works both ways
is also described by its flipped anchor. -/
def sameLink (anchor other : Anchor) : Bool :=
  anchor == other || (!anchor.oneWay && !other.oneWay && anchor.flip == other)

/-- Whether the link joins the two devices, in either direction. -/
def joins (anchor : Anchor) (left right : DeviceId) : Bool :=
  (anchor.source.device == left && anchor.target.device == right) ||
    (anchor.source.device == right && anchor.target.device == left)

/-- Written form, such as `device#0.n0 <-> device#1.n0`. -/
def text (anchor : Anchor) : String :=
  anchor.source.text ++ (if anchor.oneWay then " -> " else " <-> ") ++ anchor.target.text

@[simp]
theorem flip_flip (anchor : Anchor) : anchor.flip.flip = anchor := rfl

end Anchor

end LabMatch
