import LabMatch.Connection.Basic

/-!
# Written form of a connection

Branches of an `either` are joined by `|` and those of an `every` by `&`.  An
`either` inside an `every` is put in parentheses; nothing else needs them,
because `&` binds tighter than `|`.
-/

namespace LabMatch

mutual

def Shape.text : Shape → String
  | .link tags => tags.text
  | .every first second others =>
    first.factorText ++ " & " ++ second.factorText ++ Shape.moreFactors others
  | .either first second others =>
    first.text ++ " | " ++ second.text ++ Shape.moreBranches others

/-- Written form of a shape inside an `every`. -/
def Shape.factorText : Shape → String
  | .link tags => tags.text
  | .every first second others =>
    first.factorText ++ " & " ++ second.factorText ++ Shape.moreFactors others
  | .either first second others =>
    "(" ++ (first.text ++ " | " ++ second.text ++ Shape.moreBranches others) ++ ")"

/-- The further branches of an `every`. -/
def Shape.moreFactors : List Shape → String
  | [] => ""
  | first :: others => " & " ++ first.factorText ++ Shape.moreFactors others

def Shape.moreBranches : List Shape → String
  | [] => ""
  | first :: others => " | " ++ first.text ++ Shape.moreBranches others

end

/-- Written form of a connection.  The anchor is not part of it. -/
def Connection.text (connection : Connection) : String := connection.shape.text

end LabMatch
