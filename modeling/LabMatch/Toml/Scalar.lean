import LabMatch.Toml.Key
import LabMatch.Toml.Moment
import LabMatch.Toml.Number
import LabMatch.Toml.Value

/-!
# TOML scalars

A scalar is a string or a word that stands for a truth value, a number, or a
moment.  A date and a time may also be two words with one blank between them.
-/

namespace LabMatch.Toml

abbrev ValueReader := (input : List Char) → Option (Value × Shorter input)

/-- Whether the character may occur in an unquoted scalar. -/
def isWordCharacter (character : Char) : Bool :=
  isBare character || character == '+' || character == '.' || character == ':'

def ofWord? (word : List Char) : Option Value :=
  if word = ['t', 'r', 'u', 'e'] then some (.boolean true)
  else if word = ['f', 'a', 'l', 's', 'e'] then some (.boolean false)
  else
    match Number.integer? word with
    | some number => some (.integer number)
    | none =>
      if Number.isFloat word then some (.float (String.ofList word))
      else if Moment.isDate word || Moment.isTime word || Moment.isDateTime word then
        some (.dateTime (String.ofList word))
      else none

/-- Reads the word that follows one blank. -/
def nextWord (input : List Char) : Option (List Char × Shorter input) := do
  let blank ← mark? ' ' input
  let (read, rest) ← word? isWordCharacter blank.val
  return (read, blank.andThen rest.weaken)

def unquoted : ValueReader := fun input => do
  let (first, afterFirst) ← word? isWordCharacter input
  match nextWord afterFirst.val with
  | some (second, rest) =>
    if Moment.isDate first then
      if Moment.isTimeWithOffset second then
        return (.dateTime (String.ofList (first ++ ' ' :: second)), afterFirst.andThen rest.weaken)
      else none
    else return (← ofWord? first, afterFirst)
  | none => return (← ofWord? first, afterFirst)

def isQuoted (input : List Char) : Bool :=
  input.head? == some '\x22' || input.head? == some '\x27'

def scalar : ValueReader := fun input =>
  if isQuoted input then (text input).map fun read => (.string (String.ofList read.1), read.2)
  else unquoted input

end LabMatch.Toml
