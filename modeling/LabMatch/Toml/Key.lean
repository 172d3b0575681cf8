import LabMatch.Toml.Text

/-!
# TOML keys

A key has parts joined by points, with blanks around them.  A part is a bare
word or a string on one line.
-/

namespace LabMatch.Toml

/-- Whether the character may occur in a bare part of a key. -/
def isBare (character : Char) : Bool :=
  ('a' ≤ character && character ≤ 'z') || ('A' ≤ character && character ≤ 'Z')
    || ('0' ≤ character && character ≤ '9') || character == '_' || character == '-'

def keyPart (input : List Char) : Option (String × Shorter input) :=
  ((lineText input).orElse fun _ => word? isBare input).map fun read =>
    (String.ofList read.1, read.2)

/-- Reads all parts of a key, and the blanks around them. -/
def keyParts (input : List Char) : Option (List String × Shorter input) :=
  let start := skipBlanks input
  match keyPart start.val with
  | none => none
  | some (part, afterPart) =>
    let rest := start.andThen (afterPart.andThen (skipBlanks afterPart.val))
    match mark? '.' rest.val with
    | none => some ([part], rest)
    | some point =>
      have := Nat.lt_trans point.property rest.property
      match keyParts point.val with
      | none => none
      | some (others, after) =>
        some (part :: others, rest.andThen (point.andThen after.weaken).weaken)
termination_by input.length

/-- The number of parts that a key must stay below. -/
def keyPartLimit : Nat := 80

def key (input : List Char) : Option (List String × Shorter input) := do
  let (parts, rest) ← keyParts input
  if parts.length < keyPartLimit then return (parts, rest) else none

end LabMatch.Toml
