import LabMatch.Connection.Alternatives
import LabMatch.Remainder
import LabMatch.Unicode.Alphanumeric
import LabMatch.Unicode.WhiteSpace

/-!
# Connection expressions

Connections are written in a small language, with white space between tokens:

    expression := term ('|' term)*
    term       := factor ('&' factor)*
    factor     := '(' expression ')' | 'any' | name ('+' name)*

Names are read as far as they go.  Parentheses nest up to a fixed depth and the
number of alternatives of every composition is bounded, so reading is cheap for
every text.

Each reader returns the input left over together with a proof that it is
shorter; this is what makes the loops end.  A failure keeps the input left over
at the point where it was noticed, from which the offset is counted in bytes.
-/

namespace LabMatch.Expression

/-- The deepest nesting of parentheses. -/
def maximalNesting : Nat := 32

/-- The largest number of alternatives of a composition. -/
def maximalAlternatives : Nat := 1024

/-- What is wrong, and the input left at that point. -/
structure Failure where
  fault : SyntaxFault
  rest : List Char

/-- A reader of shapes that always consumes something. -/
abbrev Reader := (input : List Char) → Except Failure (Shape × Shorter input)

def skipBlanks (input : List Char) : NotLonger input := skipWhile Unicode.isWhiteSpace input

def isNameCharacter (character : Char) : Bool :=
  Unicode.isAlphanumeric character || character == '_' || character == '-' || character == '.'

def token? (expected : Char) (input : List Char) : Option (Shorter input) :=
  let start := skipBlanks input
  (mark? expected start.val).map start.andThen

def name (input : List Char) : Except Failure (String × Shorter input) :=
  let start := skipBlanks input
  match word? isNameCharacter start.val with
  | none => .error ⟨.expectedName, start.val⟩
  | some (characters, rest) => .ok (String.ofList characters, start.andThen rest)

/-- Reads the further names of a chain. -/
def chain (input : List Char) : Except Failure (List String × NotLonger input) :=
  match token? '+' input with
  | none => .ok ([], skipBlanks input)
  | some plus =>
    match name plus.val with
    | .error failure => .error failure
    | .ok (next, afterName) =>
      if next = TagSet.bareWord then .error ⟨.bareWordInChain, afterName.val⟩
      else
        have := Nat.lt_trans afterName.property plus.property
        match chain afterName.val with
        | .error failure => .error failure
        | .ok (others, rest) =>
          .ok (next :: others, (plus.andThen (afterName.andThen rest).weaken).weaken)
termination_by input.length

/-- Reads a link or a parenthesised expression.  `inside` reads what stands in
parentheses, unless they may not nest any deeper. -/
def factor (inside : Option Reader) : Reader := fun input =>
  match token? '(' input with
  | some opened =>
    match inside with
    | none => .error ⟨.nestedTooDeeply, opened.val⟩
    | some expression =>
      match expression opened.val with
      | .error failure => .error failure
      | .ok (shape, afterShape) =>
        match token? ')' afterShape.val with
        | none => .error ⟨.expectedClosing, (skipBlanks afterShape.val).val⟩
        | some closed =>
          .ok (shape, opened.andThen (afterShape.andThen closed.weaken).weaken)
  | none =>
    match name input with
    | .error failure => .error failure
    | .ok (first, afterName) =>
      if first = TagSet.bareWord then .ok (.link .bare, afterName)
      else
        match chain afterName.val with
        | .error failure => .error failure
        | .ok (others, rest) =>
          .ok (.link (TagSet.ofList (first :: others)), afterName.andThen rest)

/-- Reads the further members of a composition.  `weigh` updates the bound on
the number of alternatives by those of the next member. -/
def members (mark : Char) (weigh : Nat → Nat → Nat) (member : Reader) (weight : Nat)
    (input : List Char) : Except Failure (List Shape × NotLonger input) :=
  match token? mark input with
  | none => .ok ([], skipBlanks input)
  | some marked =>
    match member marked.val with
    | .error failure => .error failure
    | .ok (next, afterNext) =>
      let weight := weigh weight next.alternatives.length
      if weight > maximalAlternatives then
        .error ⟨.tooManyAlternatives maximalAlternatives, afterNext.val⟩
      else
        have := Nat.lt_trans afterNext.property marked.property
        match members mark weigh member weight afterNext.val with
        | .error failure => .error failure
        | .ok (others, rest) =>
          .ok (next :: others, (marked.andThen (afterNext.andThen rest).weaken).weaken)
termination_by input.length

/-- Reads one member or a composition of several. -/
def composition (mark : Char) (weigh : Nat → Nat → Nat) (combine : Shape → List Shape → Shape)
    (member : Reader) : Reader := fun input =>
  match member input with
  | .error failure => .error failure
  | .ok (first, afterFirst) =>
    match members mark weigh member first.alternatives.length afterFirst.val with
    | .error failure => .error failure
    | .ok (others, rest) =>
      .ok (combine first others, afterFirst.andThen rest)

/-- Reads factors joined by `&`.  The alternatives of the factors multiply. -/
def term (inside : Option Reader) : Reader :=
  composition '&' (· * ·) Shape.allOf (factor inside)

/-- Reads terms joined by `|`.  The alternatives of the terms add up. -/
def expressionWithin (inside : Option Reader) : Reader :=
  composition '|' (· + ·) Shape.anyOf (term inside)

/-- Reads an expression whose parentheses nest at most to the given depth. -/
def expression : Nat → Reader
  | 0 => expressionWithin none
  | depth + 1 => expressionWithin (some (expression depth))

/-- Reads a whole text as one expression. -/
def shape (input : List Char) : Except Failure Shape :=
  match expression maximalNesting input with
  | .error failure => .error failure
  | .ok (shape, rest) =>
    match (skipBlanks rest.val).val with
    | [] => .ok shape
    | left => .error ⟨.trailingInput, left⟩

/-- The number of bytes of the characters in UTF-8. -/
def byteLength (characters : List Char) : Nat :=
  characters.foldl (fun length character => length + character.utf8Size) 0

end LabMatch.Expression

namespace LabMatch

/-- The connection written in `text`. -/
def Connection.parse (text : String) : Except ConnectionError Connection :=
  match Expression.shape text.toList with
  | .ok shape => .ok ⟨shape, none⟩
  | .error failure =>
    .error (.malformed text
      (Expression.byteLength text.toList - Expression.byteLength failure.rest) failure.fault)

end LabMatch
