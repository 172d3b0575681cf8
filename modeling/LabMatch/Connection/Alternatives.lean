import LabMatch.Connection.Basic

/-!
# Alternatives of a connection

Every shape can be flattened into its alternatives: the tag sets obtained by
taking one branch at every `either` and all branches at every `every`.  The
list is ascending, without repetitions and never empty, which makes relations
between connections independent of how their trees are nested.
-/

namespace LabMatch

/-- Every tag set of one list together with every tag set of the other. -/
def crossUnion (mine theirs : List TagSet) : List TagSet :=
  Ascending.ofList (mine.flatMap fun tags => theirs.map tags.union)

mutual

/-- The alternatives of a shape: `every` distributes over `either`. -/
def Shape.alternatives : Shape → List TagSet
  | .link tags => [tags]
  | .every first second others =>
    crossAlternatives
      (crossUnion (crossUnion [TagSet.bare] first.alternatives) second.alternatives) others
  | .either first second others =>
    Ascending.ofList (first.alternatives ++ (second.alternatives ++ pooledAlternatives others))

def pooledAlternatives : List Shape → List TagSet
  | [] => []
  | first :: others => first.alternatives ++ pooledAlternatives others

/-- What the given tag sets become together with all of the shapes. -/
def crossAlternatives (gathered : List TagSet) : List Shape → List TagSet
  | [] => gathered
  | first :: others => crossAlternatives (crossUnion gathered first.alternatives) others

end

/-- The tag sets of a list that no other one of the list covers. -/
def maximalAmong (alternatives : List TagSet) : List TagSet :=
  alternatives.filter fun tags =>
    !alternatives.any fun other => other != tags && tags.coveredBy other

namespace Connection

/-- The alternatives that the connection offers. -/
def alternatives (connection : Connection) : List TagSet := connection.shape.alternatives

/-- The alternatives that no other alternative covers.  Dropping the others
changes no containment answer. -/
def maximalAlternatives (connection : Connection) : List TagSet :=
  maximalAmong connection.alternatives

/-- The alternatives as links of their own, at the same anchor. -/
def links (connection : Connection) : List Connection :=
  connection.alternatives.map fun tags => ⟨.link tags, connection.anchor⟩

/-- A text that stands for the alternatives of the connection. -/
def signature (connection : Connection) : String :=
  " | ".intercalate (connection.alternatives.map TagSet.text)

end Connection

end LabMatch
