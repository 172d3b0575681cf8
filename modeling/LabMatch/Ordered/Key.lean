/-!
# Total orders for keys

Every ordered collection of the library is kept ascending by a strict order.
`KeyOrder` names the three facts about `<` that such collections rely on, and
`KeyOrder.ofLexicographic` derives them for a pair of components compared one
after the other.
-/

namespace LabMatch

/-- A type whose `<` is a strict total order. -/
class KeyOrder (Key : Type) [LT Key] : Prop where
  irrefl : ∀ key : Key, ¬ key < key
  trans : ∀ {first second third : Key}, first < second → second < third → first < third
  connected : ∀ {first second : Key}, ¬ first < second → ¬ second < first → first = second

namespace KeyOrder

variable {Key : Type} [LT Key] [KeyOrder Key]

theorem ne_of_lt {first second : Key} (hlt : first < second) : first ≠ second :=
  fun heq => irrefl second (heq ▸ hlt)

theorem asymm {first second : Key} (hlt : first < second) : ¬ second < first :=
  fun hgt => irrefl first (trans hlt hgt)

/-- Comparing by a first component and then by a second one is a strict total
order, provided the two components determine the key. -/
theorem ofLexicographic {Whole First Second : Type} [LT Whole] [LT First] [LT Second]
    [KeyOrder First] [KeyOrder Second] (first : Whole → First) (second : Whole → Second)
    (lt_iff : ∀ left right : Whole, left < right ↔
      first left < first right ∨ (first left = first right ∧ second left < second right))
    (ext : ∀ left right : Whole,
      first left = first right → second left = second right → left = right) :
    KeyOrder Whole where
  irrefl key hlt := by
    rcases (lt_iff key key).mp hlt with hfirst | ⟨_, hsecond⟩
    · exact irrefl _ hfirst
    · exact irrefl _ hsecond
  trans {left middle right} hleft hright := by
    rw [lt_iff] at hleft hright ⊢
    rcases hleft with hleft | ⟨heqLeft, hleft⟩
    · rcases hright with hright | ⟨heqRight, _⟩
      · exact Or.inl (trans hleft hright)
      · exact Or.inl (heqRight ▸ hleft)
    · rcases hright with hright | ⟨heqRight, hright⟩
      · exact Or.inl (heqLeft ▸ hright)
      · exact Or.inr ⟨heqLeft.trans heqRight, trans hleft hright⟩
  connected {left right} hleft hright := by
    rw [lt_iff] at hleft hright
    have hfirst : first left = first right :=
      connected (fun h => hleft (Or.inl h)) (fun h => hright (Or.inl h))
    have hsecond : second left = second right :=
      connected (fun h => hleft (Or.inr ⟨hfirst, h⟩)) (fun h => hright (Or.inr ⟨hfirst.symm, h⟩))
    exact ext left right hfirst hsecond

end KeyOrder

instance : KeyOrder Nat where
  irrefl := Nat.lt_irrefl
  trans := Nat.lt_trans
  connected hleft hright := Nat.le_antisymm (Nat.le_of_not_lt hright) (Nat.le_of_not_lt hleft)

/-- Strings are ordered by their code points. -/
instance : KeyOrder String where
  irrefl := String.lt_irrefl
  trans := String.lt_trans
  connected hleft hright := String.le_antisymm (String.not_lt.mp hright) (String.not_lt.mp hleft)

end LabMatch
