/-!
# TOML values

The values that a TOML document is made of.  Numbers with a fraction and dates
keep their written form.

Tables also keep how they came about, because this decides what may still be
added to them: a table that was only implied by the header of a table inside it
may get a header of its own, one made by dotted keys may get more dotted keys,
and an inline table is complete as it stands.  An array may be extended only if
it was begun by array headers.
-/

namespace LabMatch.Toml

inductive Origin
  | header
  | implied
  | dotted
  | inlined
deriving DecidableEq, Inhabited

/-- A TOML value.  The entries of a table stand in the order written. -/
inductive Value
  | string (text : String)
  | integer (number : Int)
  | float (written : String)
  | boolean (truth : Bool)
  | dateTime (written : String)
  | array (items : List Value) (extensible : Bool)
  | table (origin : Origin) (entries : List (String × Value))
deriving Inhabited

/-- The entries of a table. -/
abbrev Entries := List (String × Value)

end LabMatch.Toml
