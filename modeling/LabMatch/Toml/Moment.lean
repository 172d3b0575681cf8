import LabMatch.Remainder

/-!
# TOML dates and times

A date, a time of day, or both with an optional offset.  Dates must exist in the
calendar.  A leap second is accepted, and seconds may have a fraction.

The functions here take a part of the input and return what is left of it.
-/

namespace LabMatch.Toml

def isDigit (character : Char) : Bool := '0' ≤ character && character ≤ '9'

/-- The number written by decimal digits. -/
def decimal (digits : List Char) : Nat :=
  digits.foldl (fun number digit => 10 * number + (digit.toNat - 48)) 0

namespace Moment

/-- Reads a number of exactly the given count of digits. -/
def number? (count : Nat) (input : List Char) : Option (Nat × List Char) :=
  let digits := input.take count
  if digits.length = count ∧ digits.all isDigit then some (decimal digits, input.drop count)
  else none

/-- Reads the given character and then a number of two digits. -/
def numberAfter? (mark : Char) (input : List Char) : Option (Nat × List Char) := do
  number? 2 (← mark? mark input).val

def daysInMonth (year month : Nat) : Nat :=
  if month = 2 then
    if year % 4 = 0 ∧ (year % 100 ≠ 0 ∨ year % 400 = 0) then 29 else 28
  else if month ∈ [4, 6, 9, 11] then 30
  else 31

/-- Reads `year-month-day`. -/
def date? (input : List Char) : Option (List Char) := do
  let (year, input) ← number? 4 input
  let (month, input) ← numberAfter? '-' input
  let (day, input) ← numberAfter? '-' input
  if 1 ≤ month ∧ month ≤ 12 ∧ 1 ≤ day ∧ day ≤ daysInMonth year month then some input else none

def fraction? (input : List Char) : Option (List Char) :=
  match mark? '.' input with
  | none => some input
  | some point =>
    if (point.val.takeWhile isDigit).isEmpty then none else some (point.val.dropWhile isDigit)

/-- Reads `hour:minute:second`. -/
def time? (input : List Char) : Option (List Char) := do
  let (hour, input) ← number? 2 input
  let (minute, input) ← numberAfter? ':' input
  let (second, input) ← numberAfter? ':' input
  if hour ≤ 23 ∧ minute ≤ 59 ∧ second ≤ 60 then fraction? input else none

def offset? : List Char → Option (List Char)
  | [] => some []
  | sign :: input =>
    if sign = 'Z' ∨ sign = 'z' then some input
    else if sign = '+' ∨ sign = '-' then do
      let (hour, input) ← number? 2 input
      let (minute, input) ← numberAfter? ':' input
      if hour ≤ 23 ∧ minute ≤ 59 then some input else none
    else none

def isDate (text : List Char) : Bool := date? text == some []

def isTime (text : List Char) : Bool := time? text == some []

/-- Whether the text is a time of day with or without an offset. -/
def isTimeWithOffset (text : List Char) : Bool := (time? text).bind offset? == some []

/-- Whether the text is a date and a time joined by a `T`. -/
def isDateTime (text : List Char) : Bool :=
  match date? text with
  | some (join :: time) => (join == 'T' || join == 't') && isTimeWithOffset time
  | _ => false

end Moment

end LabMatch.Toml
