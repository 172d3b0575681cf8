import LabMatch.Connection.Relations

/-!
# Choosing the most specific candidate

Each candidate comes with a connection.  A candidate is outdone when its
connection lies within another candidate's one but not the other way round: the
other matched something more specific.  A choice is clear when exactly one
candidate is not outdone.
-/

namespace LabMatch

inductive Choice (Item : Type)
  | nothing
  | one (item : Item) (connection : Connection)
  /-- The candidates that are not outdone, in the order given. -/
  | ambiguous (items : List Item)

namespace Choice

variable {Item : Type}

/-- Whether some candidate outdoes the connection. -/
def isOutdone (candidates : List (Item × Connection)) (connection : Connection) : Bool :=
  candidates.any fun candidate =>
    connection.within candidate.2 && !candidate.2.within connection

/-- The candidates that no other candidate outdoes. -/
def survivors (candidates : List (Item × Connection)) : List (Item × Connection) :=
  candidates.filter fun candidate => !isOutdone candidates candidate.2

/-- Chooses the candidate that is not outdone, if there is exactly one. -/
def mostSpecific (candidates : List (Item × Connection)) : Choice Item :=
  match survivors candidates with
  | [] => .nothing
  | [candidate] => .one candidate.1 candidate.2
  | several => .ambiguous (several.map (·.1))

end Choice

end LabMatch
