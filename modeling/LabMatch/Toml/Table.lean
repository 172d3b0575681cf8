import LabMatch.Toml.Value

/-!
# Building TOML tables

A document is a sequence of headers and pairs that add to a tree of tables.
`update` follows a path down this tree, makes the tables that are missing, and
changes the entries of the last one.  What the path may pass through depends on
how it was written: the dotted key of a pair must not enter a table that has a
header of its own, and no path enters an inline table.  A path through an array
that was begun by array headers leads to its last table.
-/

namespace LabMatch.Toml

def Entries.get? (entries : Entries) (key : String) : Option Value :=
  (entries.find? fun entry => entry.1 == key).map (·.2)

/-- Gives a key another value, in its place or at the end. -/
def Entries.set (key : String) (value : Value) : Entries → Entries
  | [] => [(key, value)]
  | entry :: others =>
    if entry.1 = key then (key, value) :: others else entry :: Entries.set key value others

/-- Changes the entries of the table at the end of a path, given how that table
came about. -/
def update (dotted : Bool) (change : Origin → Entries → Option Entries) :
    (path : List String) → Origin → Entries → Option Entries
  | [], origin, entries => change origin entries
  | key :: path, _, entries =>
    match entries.get? key with
    | none => do
      let origin := if dotted then Origin.dotted else Origin.implied
      return entries.set key (.table origin (← update dotted change path origin []))
    | some (.table origin inner) =>
      if origin = .inlined ∨ (dotted = true ∧ origin = .header) then none
      else do
        return entries.set key (.table origin (← update dotted change path origin inner))
    | some (.array items true) =>
      match items.getLast? with
      | some (.table origin inner) => do
        let inner ← update dotted change path origin inner
        return entries.set key (.array (items.dropLast ++ [.table origin inner]) true)
      | _ => none
    | some _ => none

/-- Adds a pair.  A dotted key must end in a table that is made of dotted keys. -/
def addPair (path : List String) (key : String) (value : Value) :
    Origin → Entries → Option Entries :=
  update true
    (fun origin entries =>
      if (origin = .dotted ↔ path = []) ∨ (entries.get? key).isSome then none
      else some (entries.set key value))
    path

/-- Gives a table a header. -/
def openTable (key : String) (_ : Origin) (entries : Entries) : Option Entries :=
  match entries.get? key with
  | none => some (entries.set key (.table .header []))
  | some (.table .implied inner) => some (entries.set key (.table .header inner))
  | some _ => none

/-- Adds a table to an array of tables. -/
def openItem (key : String) (_ : Origin) (entries : Entries) : Option Entries :=
  match entries.get? key with
  | none => some (entries.set key (.array [.table .header []] true))
  | some (.array items true) =>
    some (entries.set key (.array (items ++ [.table .header []]) true))
  | some _ => none

end LabMatch.Toml
