import LabMatch.Capability.Choice
import LabMatch.Proofs.Connection.Offered
import Mathlib.Order.Preorder.Finite

/-!
# The outermost candidate

A candidate is outdone when another one offers strictly more.  Offering strictly more
is transitive, so in a finite list every candidate lies within one that is not outdone.
Hence a non-empty list never loses all of its candidates, and if a single one is left,
all others lie strictly within it.

Which candidates are left does not depend on the order in which they are given.
-/

namespace LabMatch

namespace Connection

variable {connection other : Connection}

/-- The connection lies within the other one, but not the other way round. -/
def StrictlyWithin (connection other : Connection) : Prop :=
  connection.within other = true ∧ other.within connection = false

instance (connection other : Connection) : Decidable (connection.StrictlyWithin other) :=
  inferInstanceAs (Decidable (_ ∧ _))

/-- Lying strictly within is offering strictly less. -/
theorem strictlyWithin_iff :
    connection.StrictlyWithin other ↔
      connection.offered ⊆ other.offered ∧ ¬ other.offered ⊆ connection.offered := by
  rw [StrictlyWithin, ← Bool.not_eq_true, within_iff, within_iff]

theorem StrictlyWithin.trans_subset {larger : Connection}
    (hwithin : connection.StrictlyWithin other) (hsubset : other.offered ⊆ larger.offered) :
    connection.StrictlyWithin larger := by
  rw [strictlyWithin_iff] at hwithin ⊢
  exact ⟨hwithin.1.trans hsubset, fun hback => hwithin.2 (hsubset.trans hback)⟩

theorem StrictlyWithin.asymm (hwithin : connection.StrictlyWithin other) :
    ¬ other.StrictlyWithin connection := by
  intro hback
  cases hwithin.2.symm.trans hback.1

end Connection

namespace Choice

variable {Item : Type} {candidates others : List (Item × Connection)}
  {candidate : Item × Connection}

/-- Every other candidate lies strictly within this one. -/
def IsOutermost (candidates : List (Item × Connection)) (candidate : Item × Connection) : Prop :=
  ∃ others, (candidate :: others).Perm candidates ∧
    ∀ other ∈ others, other.2.StrictlyWithin candidate.2

/-- The candidates that do not lie strictly within another one, in the order given. -/
def undominated (candidates : List (Item × Connection)) : List Item :=
  (candidates.filter fun candidate =>
    decide (∀ other ∈ candidates, ¬ candidate.2.StrictlyWithin other.2)).map Prod.fst

/-- The outcomes are the same, except that several candidates may be listed in another
order. -/
inductive SameUpToOrder : Choice Item → Choice Item → Prop
  | nothing : SameUpToOrder .nothing .nothing
  | one (item : Item) (connection : Connection) :
    SameUpToOrder (.one item connection) (.one item connection)
  | ambiguous {items others : List Item} (hperm : items.Perm others) :
    SameUpToOrder (.ambiguous items) (.ambiguous others)

/-! ## Survivors -/

theorem isOutdone_iff {connection : Connection} :
    isOutdone candidates connection = true ↔
      ∃ other ∈ candidates, connection.StrictlyWithin other.2 := by
  simp [isOutdone, Connection.StrictlyWithin]

/-- The survivors are the candidates that do not lie strictly within another one. -/
theorem mem_survivors :
    candidate ∈ survivors candidates ↔
      candidate ∈ candidates ∧ ∀ other ∈ candidates, ¬ candidate.2.StrictlyWithin other.2 := by
  rw [survivors, List.mem_filter, Bool.not_eq_true', ← Bool.not_eq_true, isOutdone_iff]
  simp only [not_exists, not_and]

theorem undominated_eq (candidates : List (Item × Connection)) :
    undominated candidates = (survivors candidates).map Prod.fst := by
  rw [undominated, survivors]
  congr 1
  apply List.filter_congr
  intro candidate _
  rw [Bool.eq_iff_iff, decide_eq_true_iff, Bool.not_eq_true', ← Bool.not_eq_true, isOutdone_iff]
  simp only [not_exists, not_and]

/-- Every candidate lies within one that survives. -/
theorem exists_survivor (hcandidate : candidate ∈ candidates) :
    ∃ survivor ∈ survivors candidates, candidate.2.offered ⊆ survivor.2.offered := by
  have hfinite : {offered | ∃ other ∈ candidates, other.2.offered = offered}.Finite :=
    (List.finite_toSet candidates).image fun other : Item × Connection => other.2.offered
  obtain ⟨largest, hsubset, hlargest⟩ := hfinite.exists_le_maximal ⟨candidate, hcandidate, rfl⟩
  obtain ⟨survivor, hsurvivor, rfl⟩ := hlargest.prop
  refine ⟨survivor, mem_survivors.mpr ⟨hsurvivor, ?_⟩, hsubset⟩
  intro other hother hwithin
  exact hlargest.not_gt ⟨other, hother, rfl⟩ (Connection.strictlyWithin_iff.mp hwithin)

theorem survivors_eq_nil_iff : survivors candidates = [] ↔ candidates = [] := by
  constructor
  · intro hnone
    rw [List.eq_nil_iff_forall_not_mem]
    intro candidate hcandidate
    obtain ⟨survivor, hsurvivor, -⟩ := exists_survivor hcandidate
    rw [hnone] at hsurvivor
    cases hsurvivor
  · rintro rfl
    rfl

/-- The order of the candidates does not matter for who survives. -/
theorem survivors_perm (hperm : others.Perm candidates) :
    (survivors others).Perm (survivors candidates) := by
  have htest : ∀ candidate ∈ candidates,
      isOutdone others candidate.2 = isOutdone candidates candidate.2 := fun candidate _ =>
    hperm.any_eq
  have hsame : survivors candidates =
      candidates.filter fun candidate => !isOutdone others candidate.2 :=
    List.filter_congr fun candidate hcandidate => by rw [htest candidate hcandidate]
  rw [hsame]
  exact hperm.filter _

/-- A lone survivor is one that contains all other candidates strictly. -/
theorem survivors_eq_singleton_iff :
    survivors candidates = [candidate] ↔ IsOutermost candidates candidate := by
  constructor
  · intro hlone
    obtain ⟨before, after, hsplit, hbefore, -, hafter⟩ := List.filter_eq_cons_iff.mp hlone
    refine ⟨before ++ after, hsplit ▸ List.perm_middle.symm, ?_⟩
    intro other hother
    have houtdone : isOutdone candidates other.2 = true := by
      rcases List.mem_append.mp hother with hmem | hmem
      · simpa using hbefore other hmem
      · simpa using List.filter_eq_nil_iff.mp hafter other hmem
    obtain ⟨larger, hlarger, hwithin⟩ := isOutdone_iff.mp houtdone
    -- Whatever outdoes the other one lies within the only survivor.
    obtain ⟨survivor, hsurvivor, hsubset⟩ := exists_survivor hlarger
    rw [hlone, List.mem_singleton] at hsurvivor
    exact hsurvivor ▸ hwithin.trans_subset hsubset
  · rintro ⟨others, hperm, hothers⟩
    have hsurvives : candidate ∈ survivors (candidate :: others) := by
      refine mem_survivors.mpr ⟨List.mem_cons_self, List.forall_mem_cons.mpr ⟨?_, ?_⟩⟩
      · exact fun hwithin => hwithin.asymm hwithin
      · exact fun other hother hwithin => hwithin.asymm (hothers other hother)
    have hlone : survivors (candidate :: others) = [candidate] := by
      refine List.filter_eq_cons_iff.mpr
        ⟨[], others, rfl, by simp, (List.mem_filter.mp hsurvives).2, ?_⟩
      rw [List.filter_eq_nil_iff]
      intro other hother
      have houtdone : isOutdone (candidate :: others) other.2 = true :=
        isOutdone_iff.mpr ⟨candidate, List.mem_cons_self, hothers other hother⟩
      simp [houtdone]
    exact List.perm_singleton.mp (hlone ▸ (survivors_perm hperm).symm)

/-! ## Outcomes -/

theorem mostSpecific_eq_nothing_iff : mostSpecific candidates = .nothing ↔ candidates = [] := by
  rw [← survivors_eq_nil_iff, mostSpecific]
  rcases survivors candidates with _ | ⟨first, _ | ⟨second, rest⟩⟩ <;> simp

/-- A single candidate is chosen exactly if it is the outermost one. -/
theorem mostSpecific_eq_one_iff {item : Item} {connection : Connection} :
    mostSpecific candidates = .one item connection ↔
      IsOutermost candidates (item, connection) := by
  rw [← survivors_eq_singleton_iff, mostSpecific]
  rcases survivors candidates with _ | ⟨first, _ | ⟨second, rest⟩⟩ <;> simp [Prod.ext_iff]

/-- A choice is ambiguous exactly if several candidates survive, which are then listed. -/
theorem mostSpecific_eq_ambiguous_iff {items : List Item} :
    mostSpecific candidates = .ambiguous items ↔
      2 ≤ (survivors candidates).length ∧ undominated candidates = items := by
  rw [undominated_eq, mostSpecific]
  rcases survivors candidates with _ | ⟨first, _ | ⟨second, rest⟩⟩ <;> simp

/-- Several survivors are left exactly if there are candidates but no outermost one. -/
theorem two_le_length_survivors_iff :
    2 ≤ (survivors candidates).length ↔
      candidates ≠ [] ∧ ∀ candidate, ¬ IsOutermost candidates candidate := by
  rw [ne_eq, ← survivors_eq_nil_iff]
  simp only [← survivors_eq_singleton_iff]
  rcases survivors candidates with _ | ⟨first, _ | ⟨second, rest⟩⟩ <;> simp

/-- There is at most one outermost candidate. -/
theorem IsOutermost.unique {other : Item × Connection}
    (houtermost : IsOutermost candidates candidate) (hother : IsOutermost candidates other) :
    other = candidate := by
  rw [← survivors_eq_singleton_iff] at houtermost hother
  rw [houtermost] at hother
  exact (List.singleton_inj.mp hother).symm

/-- The order of the candidates does not matter. -/
theorem mostSpecific_perm (hperm : others.Perm candidates) :
    SameUpToOrder (mostSpecific others) (mostSpecific candidates) := by
  have hsurvivors := survivors_perm hperm
  cases hchoice : mostSpecific candidates with
  | nothing =>
    rw [mostSpecific_eq_nothing_iff] at hchoice
    rw [hchoice, List.perm_nil] at hperm
    rw [hperm]
    exact .nothing
  | one item connection =>
    rw [mostSpecific_eq_one_iff, ← survivors_eq_singleton_iff] at hchoice
    rw [hchoice, List.perm_singleton, survivors_eq_singleton_iff, ← mostSpecific_eq_one_iff]
      at hsurvivors
    rw [hsurvivors]
    exact .one item connection
  | ambiguous items =>
    obtain ⟨hseveral, rfl⟩ := mostSpecific_eq_ambiguous_iff.mp hchoice
    rw [← hsurvivors.length_eq] at hseveral
    rw [mostSpecific_eq_ambiguous_iff.mpr ⟨hseveral, rfl⟩, undominated_eq, undominated_eq]
    exact .ambiguous (hsurvivors.map Prod.fst)

/-- Choosing the most specific candidate tests for an outermost one.  Without candidates
nothing is chosen; the outermost candidate is chosen if there is one, and there is never
another; otherwise the choice is ambiguous between the undominated candidates, which are
at least two.  The order of the candidates makes no difference. -/
theorem mostSpecific_decides_outermost (candidates : List (Item × Connection)) :
    (mostSpecific candidates = .nothing ↔ candidates = []) ∧
      (∀ item connection, mostSpecific candidates = .one item connection ↔
        IsOutermost candidates (item, connection) ∧
          ∀ other, IsOutermost candidates other → other = (item, connection)) ∧
      (∀ items, mostSpecific candidates = .ambiguous items ↔
        candidates ≠ [] ∧ (∀ candidate, ¬ IsOutermost candidates candidate) ∧
          undominated candidates = items) ∧
      (∀ items, mostSpecific candidates = .ambiguous items → 2 ≤ items.length) ∧
      ∀ others : List (Item × Connection), others.Perm candidates →
        SameUpToOrder (mostSpecific others) (mostSpecific candidates) := by
  refine ⟨mostSpecific_eq_nothing_iff, fun item connection => ?_, fun items => ?_,
    fun items hambiguous => ?_, fun others hperm => mostSpecific_perm hperm⟩
  · rw [mostSpecific_eq_one_iff]
    exact ⟨fun houtermost => ⟨houtermost, fun _ hother => houtermost.unique hother⟩, And.left⟩
  · rw [mostSpecific_eq_ambiguous_iff, two_le_length_survivors_iff, and_assoc]
  · obtain ⟨hseveral, rfl⟩ := mostSpecific_eq_ambiguous_iff.mp hambiguous
    rwa [undominated_eq, List.length_map]

/-- Two variants matched the same connection and one matched a bare link. -/
theorem mostSpecific_decides_outermost_tcp :
    let tcp := Connection.ofTags (TagSet.ofList ["tcp"])
    let candidates := [("any", Connection.bare), ("first", tcp), ("second", tcp)]
    (candidates.Perm candidates.reverse ∧
      SameUpToOrder (mostSpecific candidates) (mostSpecific candidates.reverse)) ∧
      (∀ candidate, ¬ IsOutermost candidates candidate) ∧
      undominated candidates = ["first", "second"] ∧
      2 ≤ ["first", "second"].length := by
  intro tcp candidates
  have hambiguous : mostSpecific candidates = .ambiguous ["first", "second"] := rfl
  obtain ⟨-, -, hiff, hlength, -⟩ := mostSpecific_decides_outermost candidates
  obtain ⟨-, -, -, -, hperm⟩ := mostSpecific_decides_outermost candidates.reverse
  obtain ⟨-, hnone, hundominated⟩ := (hiff _).mp hambiguous
  have hreversed := candidates.reverse_perm.symm
  exact ⟨⟨hreversed, hperm candidates hreversed⟩, hnone, hundominated, hlength _ hambiguous⟩

end Choice

end LabMatch
