import LabMatch.Ordered.Key

/-!
# Maps with ascending keys

A `SortedMap` holds at most one value per key and lists its entries in
ascending key order.  `get?` is the view of a map: `get?_insert` and
`get?_erase` describe the operations through it, and `ext_get?` states that it
determines the map.
-/

namespace LabMatch

/-- A finite map, listed by ascending keys. -/
structure SortedMap (Key Value : Type) [LT Key] where
  entries : List (Key × Value)
  ascending : entries.Pairwise (fun left right => left.1 < right.1)

namespace SortedMap

variable {Key Value : Type} [LT Key] [DecidableLT Key] [KeyOrder Key]

def lookup (key : Key) : List (Key × Value) → Option Value
  | [] => none
  | entry :: rest =>
    if key < entry.1 ∨ entry.1 < key then lookup key rest else some entry.2

/-- Puts an entry in its place, replacing one with the same key. -/
def place (key : Key) (value : Value) : List (Key × Value) → List (Key × Value)
  | [] => [(key, value)]
  | entry :: rest =>
    if key < entry.1 then (key, value) :: entry :: rest
    else if entry.1 < key then entry :: place key value rest
    else (key, value) :: rest

omit [KeyOrder Key] in
theorem mem_place {key : Key} {value : Value} {entries : List (Key × Value)}
    {entry : Key × Value} (hmem : entry ∈ place key value entries) :
    entry = (key, value) ∨ entry ∈ entries := by
  induction entries with
  | nil => exact Or.inl (List.mem_singleton.mp hmem)
  | cons head rest ih =>
    rw [place] at hmem
    split at hmem
    · exact List.mem_cons.mp hmem
    · split at hmem
      · rcases List.mem_cons.mp hmem with h | h
        · exact Or.inr (h ▸ List.mem_cons_self)
        · exact (ih h).imp id (List.mem_cons_of_mem _)
      · exact (List.mem_cons.mp hmem).imp id (List.mem_cons_of_mem _)

theorem ascending_place (key : Key) (value : Value) {entries : List (Key × Value)}
    (hentries : entries.Pairwise (fun left right => left.1 < right.1)) :
    (place key value entries).Pairwise (fun left right => left.1 < right.1) := by
  induction entries with
  | nil => exact List.pairwise_singleton _ _
  | cons head rest ih =>
    obtain ⟨hhead, hrest⟩ := List.pairwise_cons.mp hentries
    rw [place]
    split
    · rename_i hlt
      refine List.pairwise_cons.mpr ⟨fun entry h => ?_, hentries⟩
      rcases List.mem_cons.mp h with rfl | h
      · exact hlt
      · exact KeyOrder.trans hlt (hhead entry h)
    · rename_i hnot
      split
      · rename_i hgt
        refine List.pairwise_cons.mpr ⟨fun entry h => ?_, ih hrest⟩
        rcases mem_place h with rfl | h
        · exact hgt
        · exact hhead entry h
      · rename_i hnot'
        have heq : key = head.1 := KeyOrder.connected hnot hnot'
        exact List.pairwise_cons.mpr ⟨fun entry h => heq ▸ hhead entry h, hrest⟩

def empty : SortedMap Key Value := ⟨[], List.Pairwise.nil⟩

instance : Inhabited (SortedMap Key Value) := ⟨empty⟩

/-- Maps are compared by their entries. -/
instance [DecidableEq Key] [DecidableEq Value] : DecidableEq (SortedMap Key Value) :=
  fun left right => decidable_of_iff (left.entries = right.entries) <| by
    rw [mk.injEq]

/-- The value stored under `key`. -/
def get? (map : SortedMap Key Value) (key : Key) : Option Value := lookup key map.entries

/-- Stores `value` under `key`, replacing what was there. -/
def insert (map : SortedMap Key Value) (key : Key) (value : Value) : SortedMap Key Value :=
  ⟨place key value map.entries, ascending_place key value map.ascending⟩

def erase (map : SortedMap Key Value) (key : Key) : SortedMap Key Value :=
  ⟨map.entries.filter fun entry => entry.1 < key ∨ key < entry.1, map.ascending.filter _⟩

/-- Replaces every value, keeping the keys. -/
def map {Other : Type} (convert : Value → Other) (map : SortedMap Key Value) :
    SortedMap Key Other :=
  ⟨map.entries.map fun entry => (entry.1, convert entry.2), List.pairwise_map.mpr map.ascending⟩

/-- Inserts the entries one after the other, so the last of a key stays. -/
def ofList (entries : List (Key × Value)) : SortedMap Key Value :=
  entries.foldl (fun map entry => map.insert entry.1 entry.2) empty

def keys (map : SortedMap Key Value) : List Key := map.entries.map (·.1)

def values (map : SortedMap Key Value) : List Value := map.entries.map (·.2)

def size (map : SortedMap Key Value) : Nat := map.entries.length

omit [KeyOrder Key] in
@[simp]
theorem get?_empty (key : Key) : (empty : SortedMap Key Value).get? key = none := rfl

private theorem lookup_place_self (key : Key) (value : Value) (entries : List (Key × Value)) :
    lookup key (place key value entries) = some value := by
  induction entries with
  | nil => simp [place, lookup, KeyOrder.irrefl]
  | cons head rest ih =>
    rw [place]
    split
    · simp [lookup, KeyOrder.irrefl]
    · split
      · rename_i hgt
        rw [lookup, if_pos (Or.inr hgt), ih]
      · simp [lookup, KeyOrder.irrefl]

private theorem lookup_place_of_ne {key other : Key} (hne : other ≠ key) (value : Value)
    (entries : List (Key × Value)) :
    lookup other (place key value entries) = lookup other entries := by
  have hdiffer : other < key ∨ key < other := Decidable.byContradiction fun h =>
    hne (KeyOrder.connected (fun hlt => h (Or.inl hlt)) (fun hgt => h (Or.inr hgt)))
  induction entries with
  | nil => simp [place, lookup, hdiffer]
  | cons head rest ih =>
    rw [place]
    split
    · rw [lookup, if_pos hdiffer]
    · rename_i hnot
      split
      · rw [lookup, lookup, ih]
      · rename_i hnot'
        have heq : key = head.1 := KeyOrder.connected hnot hnot'
        rw [lookup, if_pos hdiffer, lookup, if_pos (heq ▸ hdiffer)]

/-- An inserted value is found under its key, and no other key is affected. -/
theorem get?_insert [DecidableEq Key] (map : SortedMap Key Value) (key other : Key)
    (value : Value) :
    (map.insert key value).get? other = if other = key then some value else map.get? other := by
  split
  · rename_i heq
    subst heq
    exact lookup_place_self other value map.entries
  · rename_i hne
    exact lookup_place_of_ne hne value map.entries

private theorem lookup_filter (key other : Key) (entries : List (Key × Value)) :
    lookup other (entries.filter fun entry => decide (entry.1 < key ∨ key < entry.1)) =
      if other < key ∨ key < other then lookup other entries else none := by
  induction entries with
  | nil => simp [lookup]
  | cons head rest ih =>
    rw [List.filter_cons]
    split
    · rename_i hkept
      have hkept := of_decide_eq_true hkept
      rw [lookup, ih, lookup]
      by_cases hfound : other < head.1 ∨ head.1 < other
      · simp [if_pos hfound]
      · have heq : other = head.1 :=
          KeyOrder.connected (fun h => hfound (Or.inl h)) (fun h => hfound (Or.inr h))
        rw [if_neg hfound, if_neg hfound, if_pos (heq ▸ hkept)]
    · rename_i hdropped
      have hdropped : ¬ (head.1 < key ∨ key < head.1) := fun h => hdropped (decide_eq_true h)
      have heq : head.1 = key :=
        KeyOrder.connected (fun h => hdropped (Or.inl h)) (fun h => hdropped (Or.inr h))
      rw [ih, lookup, heq]
      by_cases hdiffer : other < key ∨ key < other
      · rw [if_pos hdiffer, if_pos hdiffer, if_pos hdiffer]
      · rw [if_neg hdiffer, if_neg hdiffer]

/-- An erased key is gone, and no other key is affected. -/
theorem get?_erase [DecidableEq Key] (map : SortedMap Key Value) (key other : Key) :
    (map.erase key).get? other = if other = key then none else map.get? other := by
  rw [get?, erase, lookup_filter]
  split
  · rename_i hdiffer
    have hne : other ≠ key := by
      rintro rfl
      exact hdiffer.elim (KeyOrder.irrefl _) (KeyOrder.irrefl _)
    rw [if_neg hne, get?]
  · rename_i hsame
    rw [if_pos (KeyOrder.connected (fun h => hsame (Or.inl h)) (fun h => hsame (Or.inr h)))]

/-- What a map finds is what it lists. -/
theorem get?_eq_some_iff (map : SortedMap Key Value) (key : Key) (value : Value) :
    map.get? key = some value ↔ (key, value) ∈ map.entries := by
  obtain ⟨entries, hascending⟩ := map
  show lookup key entries = some value ↔ (key, value) ∈ entries
  induction entries with
  | nil => simp [lookup]
  | cons head rest ih =>
    obtain ⟨hhead, hrest⟩ := List.pairwise_cons.mp hascending
    rw [lookup]
    split
    · rename_i hdiffer
      rw [ih hrest, List.mem_cons]
      constructor
      · exact Or.inr
      · rintro (rfl | h)
        · exact absurd hdiffer (by simp [KeyOrder.irrefl])
        · exact h
    · rename_i hsame
      have heq : key = head.1 :=
        KeyOrder.connected (fun h => hsame (Or.inl h)) (fun h => hsame (Or.inr h))
      constructor
      · intro h
        cases h
        exact List.mem_cons.mpr (Or.inl (by rw [heq]))
      · intro h
        rcases List.mem_cons.mp h with h | h
        · rw [← h]
        · exact absurd (hhead _ h) (by simpa [heq] using KeyOrder.irrefl head.1)

omit [DecidableLT Key] in
theorem nodup_entries (map : SortedMap Key Value) : map.entries.Nodup :=
  map.ascending.imp fun hlt heq => KeyOrder.ne_of_lt hlt (congrArg Prod.fst heq)

omit [DecidableLT Key] in
/-- A map is determined by its entries in any order. -/
theorem eq_of_perm {left right : SortedMap Key Value} (hperm : left.entries.Perm right.entries) :
    left = right := by
  have hentries : left.entries = right.entries := by
    apply hperm.eq_of_pairwise _ left.ascending right.ascending
    intro entry other _ _ hlt hgt
    exact absurd hgt (KeyOrder.asymm hlt)
  cases left
  cases right
  cases hentries
  rfl

/-- A map is determined by what is found in it. -/
theorem ext_get? {left right : SortedMap Key Value}
    (hsame : ∀ key, left.get? key = right.get? key) : left = right := by
  apply eq_of_perm
  rw [List.perm_ext_iff_of_nodup left.nodup_entries right.nodup_entries]
  intro entry
  rw [← get?_eq_some_iff left entry.1 entry.2, hsame, get?_eq_some_iff]

omit [DecidableLT Key] in
theorem nodup_keys (map : SortedMap Key Value) : (map.entries.map Prod.fst).Nodup :=
  List.pairwise_map.mpr (map.ascending.imp KeyOrder.ne_of_lt)

end SortedMap

end LabMatch
