import LabMatch.Proofs.Catalog.Visible
import LabMatch.Wiring.Rows

/-!
# Nested maps

A map of maps finds what the map under the first part of a place finds under the rest of it,
and lists what its maps list, one after the other.  Whatever holds of looking up, listing,
telling apart, changing and pruning the inner maps is carried over by one more level, so nests
of any depth are covered level by level.
-/

namespace LabMatch

/-- Pairs are compared part by part. -/
theorem ite_pair_eq {First Second Found : Type} [DecidableEq First] [DecidableEq Second]
    (first other : First) (second other' : Second) (found found' : Found) :
    (if (other, other') = (first, second) then found else found') =
      if other = first then if other' = second then found else found' else found' := by
  by_cases hfirst : other = first
  · by_cases hsecond : other' = second <;> simp [hfirst, hsecond]
  · simp [hfirst]

namespace SortedMap

/-! ## What a map holds -/

section Holds

variable {Key Value : Type} [LT Key] {holds : Value → Prop} {map : SortedMap Key Value}

/-- Everything that is stored has the property. -/
def Each (holds : Value → Prop) (map : SortedMap Key Value) : Prop :=
  ∀ entry ∈ map.entries, holds entry.2

/-- Something is stored, and everything that is has the property. -/
def Filled (holds : Value → Prop) (map : SortedMap Key Value) : Prop :=
  map.entries ≠ [] ∧ map.Each holds

theorem isAscending_keys (map : SortedMap Key Value) : Ascending.IsAscending map.keys :=
  List.pairwise_map.mpr map.ascending

theorem each_empty (holds : Value → Prop) : (empty : SortedMap Key Value).Each holds := by
  intro entry hentry
  cases hentry

theorem each_of_eq_default_or_filled (hmap : map = default ∨ map.Filled holds) :
    map.Each holds := by
  rcases hmap with rfl | hfilled
  · exact each_empty holds
  · exact hfilled.2

variable [DecidableLT Key] [KeyOrder Key] {key : Key} {value : Value}

theorem Each.of_get? (hmap : map.Each holds) (hfound : map.get? key = some value) : holds value :=
  hmap (key, value) ((get?_eq_some_iff _ _ _).mp hfound)

theorem each_of_get? (hfound : ∀ key value, map.get? key = some value → holds value) :
    map.Each holds :=
  fun entry hentry => hfound entry.1 entry.2 ((get?_eq_some_iff _ _ _).mpr hentry)

theorem entries_ne_nil_of_get? (hfound : map.get? key = some value) : map.entries ≠ [] :=
  List.ne_nil_of_mem ((get?_eq_some_iff _ _ _).mp hfound)

theorem get?_of_isEmpty (hempty : map.isEmpty) (key : Key) : map.get? key = none := by
  rw [Option.eq_none_iff_forall_not_mem]
  exact fun value hfound => entries_ne_nil_of_get? hfound (List.isEmpty_iff.mp hempty)

variable [DecidableEq Key]

theorem Each.insert (hmap : map.Each holds) (key : Key) (hvalue : holds value) :
    (map.insert key value).Each holds := by
  apply each_of_get?
  intro other found hfound
  rw [get?_insert] at hfound
  split at hfound
  · exact Option.some.inj hfound ▸ hvalue
  · exact hmap.of_get? hfound

theorem Each.erase (hmap : map.Each holds) (key : Key) : (map.erase key).Each holds := by
  apply each_of_get?
  intro other found hfound
  rw [get?_erase] at hfound
  split at hfound
  · cases hfound
  · exact hmap.of_get? hfound

theorem get?_upsert [Inhabited Value] (map : SortedMap Key Value) (key other : Key)
    (change : Value → Value) :
    (map.upsert key change).get? other =
      if other = key then some (change ((map.get? key).getD default)) else map.get? other :=
  get?_insert map key other _

/-- Changing a value, made first if there is none, leaves something stored. -/
theorem Each.upsert [Inhabited Value] (hmap : map.Each holds) (key : Key) {change : Value → Value}
    (hchange : ∀ value, value = default ∨ holds value → holds (change value)) :
    (map.upsert key change).Filled holds := by
  constructor
  · exact entries_ne_nil_of_get? ((get?_upsert map key key change).trans (if_pos rfl))
  · apply hmap.insert
    apply hchange
    cases hfound : map.get? key with
    | none => exact Or.inl rfl
    | some value => exact Or.inr (hmap.of_get? hfound)

/-- A map that is left empty is not kept. -/
theorem Each.prune {InnerKey : Type} [LT InnerKey] {map : SortedMap Key (SortedMap InnerKey Value)}
    (hmap : map.Each (Filled holds)) (key : Key)
    {change : SortedMap InnerKey Value → SortedMap InnerKey Value}
    (hchange : ∀ inner, inner.Each holds → (change inner).Each holds) :
    (map.prune key change).Each (Filled holds) := by
  rw [SortedMap.prune]
  cases hfound : map.get? key with
  | none => exact hmap
  | some inner =>
    dsimp only
    split
    · exact hmap.erase key
    · rename_i hleft
      exact hmap.insert key ⟨mt List.isEmpty_iff.mpr hleft, hchange inner (hmap.of_get? hfound).2⟩

end Holds

/-! ## Listing -/

section Listing

variable {Key Inner Place Value : Type} [LT Key] {list : Inner → List (Place × Value)}

/-- What the maps list, each under the key of its map. -/
def listIn (list : Inner → List (Place × Value)) (nest : SortedMap Key Inner) :
    List ((Key × Place) × Value) :=
  nest.entries.flatMap fun entry =>
    (list entry.2).map fun found => ((entry.1, found.1), found.2)

/-- If the maps list their places in order then all places are listed in lexicographic
order. -/
theorem pairwise_listIn {before : Place → Place → Prop}
    (hlist : ∀ inner, (list inner).Pairwise fun earlier later => before earlier.1 later.1)
    (nest : SortedMap Key Inner) :
    (listIn list nest).Pairwise fun earlier later =>
      Prod.Lex (· < ·) before earlier.1 later.1 := by
  rw [listIn, List.pairwise_flatMap]
  constructor
  · intro entry _
    rw [List.pairwise_map]
    apply (hlist entry.2).imp
    exact fun hbefore => Prod.Lex.right entry.1 hbefore
  · apply nest.ascending.imp
    intro entry other hlt first hfirst second hsecond
    obtain ⟨found, -, rfl⟩ := List.mem_map.mp hfirst
    obtain ⟨found', -, rfl⟩ := List.mem_map.mp hsecond
    exact Prod.Lex.left _ _ hlt

variable {nest : SortedMap Key Inner}

theorem Filled.listIn_ne_nil (hnest : nest.Filled fun inner => list inner ≠ []) :
    listIn list nest ≠ [] := by
  obtain ⟨entry, hentry⟩ := List.exists_mem_of_ne_nil _ hnest.1
  obtain ⟨found, hfound⟩ := List.exists_mem_of_ne_nil _ (hnest.2 entry hentry)
  exact List.ne_nil_of_mem
    (List.mem_flatMap.mpr ⟨entry, hentry, List.mem_map_of_mem hfound⟩)

variable [DecidableLT Key] [KeyOrder Key] {look : Inner → Place → Option Value}

/-- What is found at the rest of the place, in the map under its first part. -/
def lookIn (look : Inner → Place → Option Value) (nest : SortedMap Key Inner)
    (place : Key × Place) : Option Value :=
  (nest.get? place.1).bind fun inner => look inner place.2

theorem lookIn_of_isEmpty (hempty : nest.isEmpty) (place : Key × Place) :
    lookIn look nest place = none := by
  rw [lookIn, get?_of_isEmpty hempty]
  rfl

/-- A nest lists what is found in it, if its inner maps do. -/
theorem mem_listIn_iff
    (hlist : ∀ inner place value, (place, value) ∈ list inner ↔ look inner place = some value)
    (nest : SortedMap Key Inner) (place : Key × Place) (value : Value) :
    (place, value) ∈ listIn list nest ↔ lookIn look nest place = some value := by
  simp only [listIn, List.mem_flatMap, List.mem_map, lookIn, Option.bind_eq_some_iff,
    get?_eq_some_iff, ← hlist]
  constructor
  · rintro ⟨entry, hentry, found, hfound, ⟨⟩⟩
    exact ⟨entry.2, hentry, hfound⟩
  · rintro ⟨inner, hentry, hfound⟩
    exact ⟨_, hentry, _, hfound, rfl⟩

/-- Where every map lists something, the keys are those that something is listed under. -/
theorem isSome_get?_iff_listIn (hnest : nest.Each fun inner => list inner ≠ []) (key : Key) :
    (nest.get? key).isSome ↔ ∃ found ∈ listIn list nest, found.1.1 = key := by
  rw [isSome_get?_iff]
  constructor
  · rintro ⟨entry, hentry, rfl⟩
    obtain ⟨found, hfound⟩ := List.exists_mem_of_ne_nil _ (hnest entry hentry)
    exact ⟨_, List.mem_flatMap.mpr ⟨entry, hentry, List.mem_map_of_mem hfound⟩, rfl⟩
  · rintro ⟨_, hfound, rfl⟩
    obtain ⟨entry, hentry, hfound⟩ := List.mem_flatMap.mp hfound
    obtain ⟨found, -, rfl⟩ := List.mem_map.mp hfound
    exact ⟨entry, hentry, rfl⟩

end Listing

/-! ## Telling maps apart -/

section Telling

variable {Key Inner Place Value : Type} [LT Key] [DecidableLT Key] [KeyOrder Key]
  {look : Inner → Place → Option Value} {holds : Inner → Prop} {nest other : SortedMap Key Inner}

/-- Maps with the property are told apart by what is found in them, which is something. -/
structure Determines (look : Inner → Place → Option Value) (holds : Inner → Prop) : Prop where
  finds : ∀ inner, holds inner → ∃ place, look inner place ≠ none
  eq_of_look : ∀ inner inner', holds inner → holds inner' →
    (∀ place, look inner place = look inner' place) → inner = inner'

theorem determines_get? (holds : Value → Prop) :
    Determines (get? : SortedMap Key Value → Key → Option Value) (Filled holds) where
  finds map hmap := by
    obtain ⟨entry, hentry⟩ := List.exists_mem_of_ne_nil _ hmap.1
    refine ⟨entry.1, ?_⟩
    rw [(get?_eq_some_iff map entry.1 entry.2).mpr hentry]
    exact Option.some_ne_none _
  eq_of_look _ _ _ _ hsame := ext_get? hsame

/-- A map that is in one nest is in any other one in which the same is found. -/
theorem Determines.get?_eq_some (hlook : Determines look holds) (hnest : nest.Each holds)
    (hother : other.Each holds) (hsame : ∀ place, lookIn look nest place = lookIn look other place)
    {key : Key} {inner : Inner} (hinner : nest.get? key = some inner) :
    other.get? key = some inner := by
  have hfound : ∀ place,
      look inner place = (other.get? key).bind fun inner' => look inner' place := by
    intro place
    have hplace := hsame (key, place)
    rwa [lookIn, hinner, Option.bind_some] at hplace
  cases hinner' : other.get? key with
  | none =>
    obtain ⟨place, hplace⟩ := hlook.finds inner (hnest.of_get? hinner)
    rw [hfound, hinner'] at hplace
    exact absurd rfl hplace
  | some inner' =>
    rw [hinner'] at hfound
    rw [hlook.eq_of_look inner inner' (hnest.of_get? hinner) (hother.of_get? hinner') hfound]

/-- Nests without empty maps are the same if the same is found in them. -/
theorem Determines.eq_of_lookIn (hlook : Determines look holds) (hnest : nest.Each holds)
    (hother : other.Each holds)
    (hsame : ∀ place, lookIn look nest place = lookIn look other place) : nest = other := by
  apply ext_get?
  intro key
  apply Option.ext
  intro inner
  constructor
  · exact hlook.get?_eq_some hnest hother hsame
  · exact hlook.get?_eq_some hother hnest fun place => (hsame place).symm

theorem Determines.lookIn (hlook : Determines look holds) :
    Determines (SortedMap.lookIn look : SortedMap Key Inner → Key × Place → Option Value)
      (Filled holds) where
  finds nest hnest := by
    obtain ⟨entry, hentry⟩ := List.exists_mem_of_ne_nil _ hnest.1
    obtain ⟨place, hplace⟩ := hlook.finds entry.2 (hnest.2 entry hentry)
    refine ⟨(entry.1, place), ?_⟩
    rw [SortedMap.lookIn, (get?_eq_some_iff nest entry.1 entry.2).mpr hentry]
    exact hplace
  eq_of_look _ _ hnest hother := hlook.eq_of_lookIn hnest.2 hother.2

end Telling

/-! ## Changing -/

/-- The change replaces what is found at the place, and nothing else. -/
def ChangesAt {Map Place Value : Type} [DecidableEq Place] (look : Map → Place → Option Value)
    (change : Map → Map) (place : Place) (becomes : Option Value → Option Value) : Prop :=
  ∀ map other, look (change map) other =
    if other = place then becomes (look map other) else look map other

section Changing

variable {Key Value : Type} [LT Key] [DecidableLT Key] [KeyOrder Key] [DecidableEq Key]

theorem changesAt_upsert [Inhabited Value] (key : Key) (change : Value → Value) :
    ChangesAt (get? : SortedMap Key Value → Key → Option Value)
      (fun map => map.upsert key change) key fun found => some (change (found.getD default)) := by
  intro map other
  dsimp only
  rw [get?_upsert]
  split
  · rename_i hsame
    rw [hsame]
  · rfl

theorem changesAt_erase (key : Key) :
    ChangesAt (get? : SortedMap Key Value → Key → Option Value)
      (fun map => map.erase key) key fun _ => none :=
  fun map other => get?_erase map key other

variable {Inner Place : Type} [DecidableEq Place] {place : Place}
  {becomes : Option Value → Option Value}

/-- Changing an inner map at one place changes the nest at one place. -/
theorem ChangesAt.upsert [Inhabited Inner] {look : Inner → Place → Option Value}
    {change : Inner → Inner} (hchange : ChangesAt look change place becomes)
    (hdefault : ∀ place, look default place = none) (key : Key) :
    ChangesAt (lookIn look) (fun nest : SortedMap Key Inner => nest.upsert key change)
      (key, place) becomes := by
  rintro nest ⟨other, place'⟩
  have hlook : look ((nest.get? key).getD default) place' = lookIn look nest (key, place') := by
    rw [lookIn]
    cases nest.get? key with
    | none => exact hdefault place'
    | some inner => rfl
  rw [ite_pair_eq, lookIn]
  dsimp only
  rw [get?_upsert]
  by_cases hkey : other = key
  · rw [if_pos hkey, if_pos hkey, Option.bind_some, hchange, hlook, hkey]
  · rw [if_neg hkey, if_neg hkey]
    rfl

/-- This also holds if an inner map that is left empty is removed. -/
theorem ChangesAt.prune {InnerKey Stored : Type} [LT InnerKey]
    {look : SortedMap InnerKey Stored → Place → Option Value}
    {change : SortedMap InnerKey Stored → SortedMap InnerKey Stored}
    (hchange : ChangesAt look change place becomes)
    (hempty : ∀ inner : SortedMap InnerKey Stored, inner.isEmpty → ∀ place, look inner place = none)
    (hnone : becomes none = none) (key : Key) :
    ChangesAt (lookIn look) (fun nest : SortedMap Key _ => nest.prune key change) (key, place)
      becomes := by
  rintro nest ⟨other, place'⟩
  rw [ite_pair_eq]
  by_cases hkey : other = key
  · rw [if_pos hkey, hkey, lookIn, lookIn]
    dsimp only
    rw [SortedMap.prune]
    cases hfound : nest.get? key with
    | none => simp [hfound, hnone]
    | some inner =>
      -- a map that is removed would have found nothing
      have hchanged : ((if (change inner).isEmpty then nest.erase key
          else nest.insert key (change inner)).get? key).bind (fun inner => look inner place') =
            look (change inner) place' := by
        split
        · rename_i hgone
          rw [get?_erase, if_pos rfl, hempty _ hgone]
          rfl
        · rw [get?_insert, if_pos rfl]
          rfl
      exact hchanged.trans (hchange inner place')
  · have hkept : (nest.prune key change).get? other = nest.get? other := by
      rw [SortedMap.prune]
      split
      · rfl
      · dsimp only
        split
        · rw [get?_erase, if_neg hkey]
        · rw [get?_insert, if_neg hkey]
    rw [if_neg hkey, lookIn, hkept]
    rfl

end Changing

end SortedMap

end LabMatch
