import LabMatch.Toml.Table

/-!
# Records in TOML

A record with named fields is written as a table of its fields or as an array of
their values in a fixed order.  In a table a field may be missing if it is
optional or has a default; in an array only a field with a default may be missing,
and what stands behind the last field is not looked at.

A closed record refuses keys that name no field.  A moment has no fields and one
key that no record knows, so only open records accept it.
-/

namespace LabMatch.Toml

/-- The fields of a record as far as they are given. -/
structure Record where
  entries : Entries
  /-- Whether the fields were told by their order. -/
  inOrder : Bool

namespace Record

/-- Takes a value as a record with the given fields. -/
def ofValue? (fields : List String) (closed : Bool) : Value → Option Record
  | .table _ entries =>
    if closed ∧ ∃ entry ∈ entries, entry.1 ∉ fields then none else some ⟨entries, false⟩
  | .array items _ => some ⟨fields.zip items, true⟩
  | .dateTime _ => if closed then none else some ⟨[], false⟩
  | _ => none

variable {Field : Type} (record : Record) (read : Value → Option Field)

def required (name : String) : Option Field := do read (← record.entries.get? name)

/-- A field that may be missing in a table. -/
def optional (name : String) : Option (Option Field) :=
  match record.entries.get? name with
  | some value => (read value).map some
  | none => if record.inOrder then none else some none

def orElse (name : String) (otherwise : Field) : Option Field :=
  match record.entries.get? name with
  | some value => read value
  | none => some otherwise

end Record

namespace Value

def string? : Value → Option String
  | .string text => some text
  | _ => none

def boolean? : Value → Option Bool
  | .boolean truth => some truth
  | _ => none

/-- An array whose items are all read the same way. -/
def list? {Item : Type} (read : Value → Option Item) : Value → Option (List Item)
  | .array items _ => items.mapM read
  | _ => none

end Value

end LabMatch.Toml
