/-!
# Input left over

Readers consume a list of characters from its front.  What they leave over
carries a proof that it is shorter than their input, or at least not longer, so
that a loop over a reader ends.
-/

namespace LabMatch

/-- Input left over after something was read. -/
abbrev Shorter (input : List Char) := { rest : List Char // rest.length < input.length }

/-- Input left over after something may have been read. -/
abbrev NotLonger (input : List Char) := { rest : List Char // rest.length ≤ input.length }

def afterFirst (first : Char) (rest : List Char) : Shorter (first :: rest) := ⟨rest, by simp⟩

def untouched (input : List Char) : NotLonger input := ⟨input, Nat.le_refl _⟩

/-- Leaves out the leading characters of a class. -/
def skipWhile (skipped : Char → Bool) (input : List Char) : NotLonger input :=
  ⟨input.dropWhile skipped, (List.dropWhile_suffix _).length_le⟩

/-- Leaves out the given character, if it comes first. -/
def mark? (expected : Char) : (input : List Char) → Option (Shorter input)
  | [] => none
  | first :: rest =>
    if first = expected then some (afterFirst first rest) else none

namespace Shorter

variable {input : List Char}

/-- What is left of input left over. -/
def andThen (first : Shorter input) (second : NotLonger first.val) : Shorter input :=
  ⟨second.val, Nat.lt_of_le_of_lt second.property first.property⟩

/-- What is left of input left over is not longer. -/
def weaken (first : Shorter input) : NotLonger input :=
  ⟨first.val, Nat.le_of_lt first.property⟩

end Shorter

namespace NotLonger

variable {input : List Char}

def andThen (first : NotLonger input) (second : Shorter first.val) : Shorter input :=
  ⟨second.val, Nat.lt_of_lt_of_le second.property first.property⟩

/-- What is left after two readers that need not consume anything. -/
def trans (first : NotLonger input) (second : NotLonger first.val) : NotLonger input :=
  ⟨second.val, Nat.le_trans second.property first.property⟩

end NotLonger

/-- Reads the characters of a class at the front, at least one. -/
def word? (accepted : Char → Bool) : (input : List Char) → Option (List Char × Shorter input)
  | [] => none
  | first :: rest =>
    if accepted first then
      some (first :: rest.takeWhile accepted,
        (afterFirst first rest).andThen (skipWhile accepted rest))
    else none

end LabMatch
