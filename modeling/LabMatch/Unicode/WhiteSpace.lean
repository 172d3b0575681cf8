/-!
# White space

The Unicode property `White_Space`: the blank and the line controls of ASCII,
the next-line control, the no-break space, and the spaces and separators of the
higher planes' punctuation.
-/

namespace LabMatch.Unicode

/-- The code points with the property `White_Space`, as ascending inclusive ranges. -/
def whiteSpaceRanges : List (Nat × Nat) :=
  [(0x9, 0xD), (0x20, 0x20), (0x85, 0x85), (0xA0, 0xA0), (0x1680, 0x1680), (0x2000, 0x200A),
   (0x2028, 0x2029), (0x202F, 0x202F), (0x205F, 0x205F), (0x3000, 0x3000)]

def isWhiteSpace (character : Char) : Bool :=
  whiteSpaceRanges.any fun range =>
    range.1 ≤ character.toNat && character.toNat ≤ range.2

end LabMatch.Unicode
