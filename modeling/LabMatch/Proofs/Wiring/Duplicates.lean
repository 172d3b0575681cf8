import LabMatch.Proofs.Wiring.Inherited

/-!
# Links that are declared twice

A wiring is split into links only if no two endpoints hold several connections.  The
absolute wiring of a container has such endpoints exactly if the links that it takes over
were declared with two of them between the same endpoints, be it in opposite directions.
Moving the links to other devices, level by level, neither joins lists nor splits any.
-/

namespace LabMatch

def ConnectionError.IsDuplicate (error : ConnectionError) : Prop :=
  ∃ source target, error = .duplicateLink source target

namespace Wiring

variable {wiring moved : Wiring} {place : DeviceId → DeviceId} {span : Span}

def HasParallels (wiring : Wiring) : Prop := ∃ entry ∈ wiring.entries, 1 < entry.2.length

theorem hasParallels_iff_get : wiring.HasParallels ↔ ∃ span, 1 < (wiring.get span).length := by
  constructor
  · rintro ⟨entry, hentry, hseveral⟩
    rw [← get_of_mem_entries hentry] at hseveral
    exact ⟨entry.1, hseveral⟩
  · rintro ⟨span, hseveral⟩
    have hne : wiring.get span ≠ [] := List.ne_nil_of_length_pos (Nat.zero_lt_of_lt hseveral)
    exact ⟨_, mem_entries_of_get_ne_nil hne, hseveral⟩

/-- Splitting into links is refused exactly for want of single connections. -/
theorem exists_expand_eq_error_iff :
    (∃ error, wiring.expand = .error error) ↔ wiring.HasParallels := by
  rw [expand]
  cases hfound : wiring.entries.find? fun entry => 1 < entry.2.length with
  | none =>
    simp only [reduceCtorEq, exists_false, false_iff]
    rintro ⟨entry, hentry, hseveral⟩
    exact List.find?_eq_none.mp hfound entry hentry (decide_eq_true hseveral)
  | some entry =>
    have hseveral : 1 < entry.2.length := of_decide_eq_true (List.find?_some hfound :)
    exact iff_of_true ⟨_, rfl⟩ ⟨entry, List.mem_of_find?_eq_some hfound, hseveral⟩

/-- Splitting connections fails for duplicates only. -/
theorem failsWith_expand (wiring : Wiring) :
    FailsWith ConnectionError.IsDuplicate wiring.expand := by
  rw [expand]
  split
  · exact failsWith_error ⟨_, _, rfl⟩
  · exact failsWith_ok _

theorem not_hasParallels_empty : ¬ empty.HasParallels := by
  rintro ⟨entry, hentry, -⟩
  cases hentry

/-- Lists are moved as they are. -/
theorem IsRelocated.hasParallels_iff (hmoved : moved.IsRelocated wiring place) :
    moved.HasParallels ↔ wiring.HasParallels := by
  simp only [HasParallels, hmoved.mem_iff, List.mem_map]
  constructor
  · rintro ⟨_, ⟨entry, hentry, rfl⟩, hseveral⟩
    exact ⟨entry, hentry, by simpa [relocateEntry] using hseveral⟩
  · rintro ⟨entry, hentry, hseveral⟩
    exact ⟨_, ⟨entry, hentry, rfl⟩, by simpa [relocateEntry] using hseveral⟩

/-- A link is listed once for each order of its endpoints. -/
theorem length_listedAt (link : Span × Connection) :
    (listedAt span link).length = if span = link.1 ∨ span = link.1.flip then 1 else 0 := by
  rw [listedAt]
  by_cases hforward : span = link.1
  · rw [if_pos hforward, if_pos (Or.inl hforward)]
    rfl
  · by_cases hbackward : span = link.1.flip
    · rw [if_neg hforward, if_pos hbackward, if_pos (Or.inr hbackward)]
      rfl
    · rw [if_neg hforward, if_neg hbackward, if_neg (not_or_intro hforward hbackward)]
      rfl

/-- A pair of endpoints lists one connection for each link that joins it. -/
theorem length_flatMap_listedAt (links : List (Span × Connection)) :
    (links.flatMap (listedAt span)).length =
      (links.filter fun link => span = link.1 ∨ span = link.1.flip).length := by
  induction links with
  | nil => rfl
  | cons link others ih =>
    rw [List.flatMap_cons, List.length_append, length_listedAt, ih, List.filter_cons]
    by_cases hjoins : span = link.1 ∨ span = link.1.flip
    · rw [if_pos hjoins, if_pos (decide_eq_true hjoins), List.length_cons, Nat.add_comm]
    · rw [if_neg hjoins, if_neg (by simpa using hjoins), Nat.zero_add]

end Wiring

namespace Catalog

variable {catalog : Catalog} {container : ContainerId}

/-- The links declared on the devices of a container that join the endpoints of the span, in
either direction. -/
def linksJoining (catalog : Catalog) (container : ContainerId) (span : Span) :
    List (Span × Connection) :=
  ((catalog.container container).devices.flatMap catalog.declaredLinks).filter fun link =>
    span = link.1 ∨ span = link.1.flip

/-- At least two of the links declared on the devices of the container join the same two
endpoints. -/
def DeclaresTwice (catalog : Catalog) (container : ContainerId) : Prop :=
  ∃ span, 2 ≤ (catalog.linksJoining container span).length

/-- Parallel connections stem from links that are declared twice. -/
theorem hasParallels_ownWiring_iff (hlaidOut : WellLaidOut catalog) :
    (catalog.ownWiring container).HasParallels ↔ catalog.DeclaresTwice container := by
  rw [Wiring.hasParallels_iff_get]
  apply exists_congr
  intro span
  rw [get_ownWiring hlaidOut, Wiring.length_flatMap_listedAt]
  exact Iff.rfl

/-- A wiring has parallel connections exactly if the links it was taken over from do. -/
theorem hasParallels_absolute_iff (hlaidOut : WellLaidOut catalog) :
    (catalog.absolute container).1.HasParallels ↔
      ∃ source, (catalog.ancestry container).find? catalog.declaresLinks = some source ∧
        catalog.DeclaresTwice source := by
  obtain ⟨hempty, hrelocated⟩ := isRelocated_absolute hlaidOut container
  cases hsource : (catalog.ancestry container).find? catalog.declaresLinks with
  | none =>
    rw [hempty hsource]
    simp [Wiring.not_hasParallels_empty]
  | some source =>
    rw [(hrelocated source hsource).hasParallels_iff, hasParallels_ownWiring_iff hlaidOut]
    simp

end Catalog

end LabMatch
