import LabMatch.Connection.Alternatives

/-!
# Comparing and combining connections

All relations are defined on alternatives.  A connection lies within another
one when each of its alternatives is covered by one of the other's.  `meet` is
the strictest guarantee common to two connections and `join` offers both.
Anchors are only compared by the relations that say so.
-/

namespace LabMatch

/-- Whether two optional anchors agree: both absent, or both of one link. -/
def anchorsAgree : Option Anchor → Option Anchor → Bool
  | none, none => true
  | some left, some right => left.sameLink right
  | _, _ => false

namespace Connection

/-- Every alternative of the connection is covered by one of `other`. -/
def within (connection other : Connection) : Bool :=
  connection.alternatives.all fun tags => other.alternatives.any tags.coveredBy

/-- `within`, for connections that describe the same link. -/
def withinAnchored (connection other : Connection) : Bool :=
  anchorsAgree connection.anchor other.anchor && connection.within other

/-- The two connections have the same maximal alternatives. -/
def equivalent (connection other : Connection) : Bool :=
  connection.maximalAlternatives == other.maximalAlternatives

/-- `equivalent`, for connections that describe the same link. -/
def equivalentAnchored (connection other : Connection) : Bool :=
  anchorsAgree connection.anchor other.anchor && connection.equivalent other

/-- Some alternative of the requirement is covered by one of the connection. -/
def satisfies (connection requirement : Connection) : Bool :=
  requirement.alternatives.any fun tags => connection.alternatives.any tags.coveredBy

/-- One of the two connections lies within the other. -/
def compatible (connection other : Connection) : Bool :=
  connection.within other || other.within connection

/-- The strictest guarantee common to both connections. -/
def meet (connection other : Connection) : Except ConnectionError Connection := do
  let anchor ← mergeAnchors connection.anchor other.anchor
  let common := connection.alternatives.flatMap fun tags => other.alternatives.map tags.inter
  ofAlternatives (maximalAmong (Ascending.ofList common)) anchor

/-- What either of the connections offers. -/
def join (connection other : Connection) : Except ConnectionError Connection :=
  anyOf [connection, other]

end Connection

end LabMatch
