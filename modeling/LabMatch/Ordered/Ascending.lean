import LabMatch.Ordered.Key

/-!
# Strictly ascending lists

A strictly ascending list is a finite set with one normal form.  `merge` is the
union of two of them, `ofList` sorts any list and drops its repetitions, and
`eq_of_mem_iff` states that the members determine the list.

`ofList` merges runs whose lengths are powers of two, so it needs `n log n`
comparisons, and it is structurally recursive, so it evaluates in the kernel.
-/

namespace LabMatch.Ascending

variable {Key : Type} [LT Key] [DecidableLT Key]

/-- Merges `key :: tail` into a list, given the way `tail` itself is merged. -/
def mergeCons (key : Key) (mergeTail : List Key → List Key) : List Key → List Key
  | [] => key :: mergeTail []
  | other :: rest =>
    if key < other then key :: mergeTail (other :: rest)
    else if other < key then other :: mergeCons key mergeTail rest
    else key :: mergeTail rest

/-- Union of two ascending lists. -/
def merge : List Key → List Key → List Key
  | [], others => others
  | key :: tail, others => mergeCons key (merge tail) others

/-- Adds a run to a counter of runs.  Position `i` of the counter holds a merged
run of `2 ^ i` of the added ones, or nothing. -/
def carry (run : List Key) : List (Option (List Key)) → List (Option (List Key))
  | [] => [some run]
  | none :: higher => some run :: higher
  | some other :: higher => none :: carry (merge other run) higher

/-- The ascending list of the members of `keys`. -/
def ofList (keys : List Key) : List Key :=
  (keys.foldl (fun counter key => carry [key] counter) []).foldl
    (fun merged run => merge (run.getD []) merged) []

abbrev IsAscending (keys : List Key) : Prop := keys.Pairwise (· < ·)

section Membership

variable [KeyOrder Key]

theorem mem_mergeCons {key : Key} {mergeTail : List Key → List Key} {tail : List Key}
    (htail : ∀ others member, member ∈ mergeTail others ↔ member ∈ tail ∨ member ∈ others)
    (others : List Key) (member : Key) :
    member ∈ mergeCons key mergeTail others ↔ member ∈ key :: tail ∨ member ∈ others := by
  induction others with
  | nil => simp [mergeCons, htail]
  | cons other rest ih =>
    rw [mergeCons]
    split
    · simp [htail, or_assoc]
    · rename_i hnot
      split
      · simp only [List.mem_cons, ih]
        constructor
        · rintro (h | (h | h) | h) <;> simp [h]
        · rintro ((h | h) | h | h) <;> simp [h]
      · rename_i hnot'
        have heq : key = other := KeyOrder.connected hnot hnot'
        subst heq
        simp only [List.mem_cons, htail]
        constructor
        · rintro (h | h | h) <;> simp [h]
        · rintro ((h | h) | h | h) <;> simp [h]

@[simp]
theorem mem_merge {keys others : List Key} {member : Key} :
    member ∈ merge keys others ↔ member ∈ keys ∨ member ∈ others := by
  induction keys generalizing others member with
  | nil => simp [merge]
  | cons key tail ih => exact mem_mergeCons (fun _ _ => ih) others member

/-- The members held by a counter of runs. -/
private def Held (counter : List (Option (List Key))) (member : Key) : Prop :=
  ∃ run, some run ∈ counter ∧ member ∈ run

private theorem held_carry {run : List Key} {counter : List (Option (List Key))} {member : Key} :
    Held (carry run counter) member ↔ member ∈ run ∨ Held counter member := by
  induction counter generalizing run with
  | nil => simp [carry, Held]
  | cons slot higher ih =>
    cases slot with
    | none => simp [carry, Held]
    | some other =>
      have := @ih (merge other run)
      simp only [Held, carry, List.mem_cons, mem_merge] at this ⊢
      constructor
      · rintro ⟨held, hheld | hheld, hmem⟩
        · cases hheld
        · rcases this.mp ⟨held, hheld, hmem⟩ with (h | h) | ⟨inner, hinner, hin⟩
          · exact Or.inr ⟨other, Or.inl rfl, h⟩
          · exact Or.inl h
          · exact Or.inr ⟨inner, Or.inr hinner, hin⟩
      · rintro (h | ⟨held, hheld | hheld, hmem⟩)
        · obtain ⟨inner, hinner, hin⟩ := this.mpr (Or.inl (Or.inr h))
          exact ⟨inner, Or.inr hinner, hin⟩
        · cases hheld
          obtain ⟨inner, hinner, hin⟩ := this.mpr (Or.inl (Or.inl hmem))
          exact ⟨inner, Or.inr hinner, hin⟩
        · obtain ⟨inner, hinner, hin⟩ := this.mpr (Or.inr ⟨held, hheld, hmem⟩)
          exact ⟨inner, Or.inr hinner, hin⟩

private theorem held_foldl_carry {keys : List Key} {counter : List (Option (List Key))}
    {member : Key} :
    Held (keys.foldl (fun counter key => carry [key] counter) counter) member ↔
      member ∈ keys ∨ Held counter member := by
  induction keys generalizing counter with
  | nil => simp
  | cons key tail ih =>
    rw [List.foldl_cons, ih, held_carry]
    simp only [List.mem_cons, List.not_mem_nil, or_false]
    constructor
    · rintro (h | h | h) <;> simp [h]
    · rintro ((h | h) | h) <;> simp [h]

private theorem mem_foldl_merge {counter : List (Option (List Key))} {merged : List Key}
    {member : Key} :
    member ∈ counter.foldl (fun merged run => merge (run.getD []) merged) merged ↔
      Held counter member ∨ member ∈ merged := by
  induction counter generalizing merged with
  | nil => simp [Held]
  | cons slot higher ih =>
    rw [List.foldl_cons, ih]
    cases slot with
    | none => simp [Held, merge]
    | some run =>
      simp only [Held, Option.getD_some, mem_merge, List.mem_cons]
      constructor
      · rintro (⟨held, hheld, hmem⟩ | h | h)
        · exact Or.inl ⟨held, Or.inr hheld, hmem⟩
        · exact Or.inl ⟨run, Or.inl rfl, h⟩
        · exact Or.inr h
      · rintro (⟨held, hheld | hheld, hmem⟩ | h)
        · cases hheld
          exact Or.inr (Or.inl hmem)
        · exact Or.inl ⟨held, hheld, hmem⟩
        · exact Or.inr (Or.inr h)

/-- Sorting keeps the members. -/
@[simp]
theorem mem_ofList {keys : List Key} {member : Key} : member ∈ ofList keys ↔ member ∈ keys := by
  rw [ofList, mem_foldl_merge, held_foldl_carry]
  simp [Held]

end Membership

section Ascent

variable [KeyOrder Key]

private theorem isAscending_mergeCons {key : Key} {mergeTail : List Key → List Key}
    {tail : List Key} (hkey : ∀ member ∈ tail, key < member)
    (hmem : ∀ others member, member ∈ mergeTail others ↔ member ∈ tail ∨ member ∈ others)
    (htail : ∀ others, IsAscending others → IsAscending (mergeTail others))
    {others : List Key} (hothers : IsAscending others) :
    IsAscending (mergeCons key mergeTail others) := by
  induction others with
  | nil =>
    refine List.pairwise_cons.mpr ⟨fun member h => hkey member ?_, htail [] hothers⟩
    simpa [hmem] using h
  | cons other rest ih =>
    obtain ⟨hother, hrest⟩ := List.pairwise_cons.mp hothers
    rw [mergeCons]
    split
    · rename_i hlt
      refine List.pairwise_cons.mpr ⟨fun member h => ?_, htail _ hothers⟩
      rcases (hmem _ _).mp h with h | h
      · exact hkey member h
      · rcases List.mem_cons.mp h with rfl | h
        · exact hlt
        · exact KeyOrder.trans hlt (hother member h)
    · rename_i hnot
      split
      · rename_i hgt
        refine List.pairwise_cons.mpr ⟨fun member h => ?_, ih hrest⟩
        rcases (mem_mergeCons hmem rest member).mp h with h | h
        · rcases List.mem_cons.mp h with rfl | h
          · exact hgt
          · exact KeyOrder.trans hgt (hkey member h)
        · exact hother member h
      · rename_i hnot'
        have heq : key = other := KeyOrder.connected hnot hnot'
        subst heq
        refine List.pairwise_cons.mpr ⟨fun member h => ?_, htail rest hrest⟩
        rcases (hmem _ _).mp h with h | h
        · exact hkey member h
        · exact hother member h

theorem isAscending_merge {keys others : List Key} (hkeys : IsAscending keys)
    (hothers : IsAscending others) : IsAscending (merge keys others) := by
  induction keys generalizing others with
  | nil => exact hothers
  | cons key tail ih =>
    obtain ⟨hkey, htail⟩ := List.pairwise_cons.mp hkeys
    exact isAscending_mergeCons hkey (fun _ _ => mem_merge) (fun _ h => ih htail h) hothers

private theorem isAscending_carry {run : List Key} {counter : List (Option (List Key))}
    (hrun : IsAscending run) (hcounter : ∀ held, some held ∈ counter → IsAscending held) :
    ∀ held, some held ∈ carry run counter → IsAscending held := by
  induction counter generalizing run with
  | nil => simpa [carry] using hrun
  | cons slot higher ih =>
    have hhigher : ∀ held, some held ∈ higher → IsAscending held :=
      fun held h => hcounter held (List.mem_cons_of_mem _ h)
    cases slot with
    | none =>
      intro held h
      rcases List.mem_cons.mp h with h | h
      · cases h
        exact hrun
      · exact hhigher held h
    | some other =>
      intro held h
      rcases List.mem_cons.mp h with h | h
      · cases h
      · exact ih (isAscending_merge (hcounter other List.mem_cons_self) hrun) hhigher held h

/-- Whatever was added, in whatever order, the list ascends and lists no member twice. -/
theorem isAscending_ofList (keys : List Key) : IsAscending (ofList keys) := by
  have hcounter : ∀ counter : List (Option (List Key)),
      (∀ held, some held ∈ counter → IsAscending held) →
      ∀ held, some held ∈ keys.foldl (fun counter key => carry [key] counter) counter →
        IsAscending held := by
    induction keys with
    | nil => exact fun _ h => h
    | cons key tail ih =>
      exact fun counter h => ih _ (isAscending_carry (List.pairwise_singleton _ _) h)
  have hmerged : ∀ (counter : List (Option (List Key))) (merged : List Key),
      (∀ held, some held ∈ counter → IsAscending held) → IsAscending merged →
      IsAscending (counter.foldl (fun merged run => merge (run.getD []) merged) merged) := by
    intro counter
    induction counter with
    | nil => exact fun _ _ h => h
    | cons slot higher ih =>
      intro merged hheld hmerged
      refine ih _ (fun held h => hheld held (List.mem_cons_of_mem _ h))
        (isAscending_merge ?_ hmerged)
      cases slot with
      | none => exact List.Pairwise.nil
      | some run => exact hheld run List.mem_cons_self
  exact hmerged _ [] (hcounter [] (by simp)) List.Pairwise.nil

omit [DecidableLT Key] in
/-- An ascending list is determined by its members. -/
theorem eq_of_mem_iff {left right : List Key} (hleft : IsAscending left)
    (hright : IsAscending right) (hmem : ∀ member, member ∈ left ↔ member ∈ right) :
    left = right := by
  induction left generalizing right with
  | nil =>
    cases right with
    | nil => rfl
    | cons key tail => simpa using hmem key
  | cons key tail ih =>
    cases right with
    | nil => simpa using hmem key
    | cons other rest =>
      obtain ⟨hkey, htail⟩ := List.pairwise_cons.mp hleft
      obtain ⟨hother, hrest⟩ := List.pairwise_cons.mp hright
      have hhead : key = other := by
        rcases List.mem_cons.mp ((hmem key).mp List.mem_cons_self) with h | h
        · exact h
        rcases List.mem_cons.mp ((hmem other).mpr List.mem_cons_self) with h' | h'
        · exact h'.symm
        · exact absurd (hkey other h') (KeyOrder.asymm (hother key h))
      subst hhead
      refine congrArg (key :: ·) (ih htail hrest fun member => ?_)
      constructor
      · intro h
        rcases List.mem_cons.mp ((hmem member).mp (List.mem_cons_of_mem _ h)) with rfl | h'
        · exact absurd (hkey member h) (KeyOrder.irrefl member)
        · exact h'
      · intro h
        rcases List.mem_cons.mp ((hmem member).mpr (List.mem_cons_of_mem _ h)) with rfl | h'
        · exact absurd (hother member h) (KeyOrder.irrefl member)
        · exact h'

end Ascent

end LabMatch.Ascending
