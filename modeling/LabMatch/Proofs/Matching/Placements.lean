import LabMatch.Matching.Placement
import LabMatch.Proofs.Catalog.Visible
import Mathlib.Data.List.Perm.Subperm

/-!
# All placements

The placements that are tried are exactly those that give every scenario device a
setup device of its own, and none is tried twice.
-/

namespace LabMatch

/-! ## Assigning places -/

/-- Each member is taken out once and leaves the others. -/
theorem picks_eq {Item : Type} [DecidableEq Item] {items : List Item} (hitems : items.Nodup) :
    picks items = items.map fun item => (item, items.erase item) := by
  induction items with
  | nil => rfl
  | cons first others ih =>
    obtain ⟨hfirst, hothers⟩ := List.nodup_cons.mp hitems
    rw [picks, ih hothers, List.map_map, List.map_cons, List.erase_cons_head]
    congr 1
    apply List.map_congr_left
    intro item hitem
    have hne : first ≠ item := fun hsame => hfirst (hsame ▸ hitem)
    rw [List.erase_cons_tail (by simpa using hne)]
    rfl

variable {devices places : List DeviceId}

theorem assignments_cons (hplaces : places.Nodup) (device : DeviceId) (others : List DeviceId) :
    assignments (device :: others) places = places.flatMap fun place =>
      (assignments others (places.erase place)).map fun assigned =>
        (device, place) :: assigned := by
  rw [assignments, picks_eq hplaces, List.flatMap_map]

/-- An assignment gives the devices, in their order, different ones of the places. -/
theorem mem_assignments_iff (hplaces : places.Nodup) {assigned : List (DeviceId × DeviceId)} :
    assigned ∈ assignments devices places ↔
      assigned.map Prod.fst = devices ∧ (assigned.map Prod.snd).Nodup ∧
        ∀ entry ∈ assigned, entry.2 ∈ places := by
  induction devices generalizing places assigned with
  | nil =>
    rw [assignments, List.mem_singleton, List.map_eq_nil_iff]
    constructor
    · intro hnil
      simp [hnil]
    · exact And.left
  | cons device others ih =>
    have hleft : ∀ place, (places.erase place).Nodup := fun place => hplaces.erase place
    simp only [assignments_cons hplaces, List.mem_flatMap, List.mem_map, ih (hleft _),
      hplaces.mem_erase_iff]
    constructor
    · intro hassigned
      obtain ⟨place, hplace, rest, ⟨hdevices, hnodup, hwithin⟩, rfl⟩ := hassigned
      refine ⟨by rw [List.map_cons, hdevices], ?_, ?_⟩
      · rw [List.map_cons, List.nodup_cons, List.mem_map]
        refine ⟨fun htaken => ?_, hnodup⟩
        obtain ⟨entry, hentry, hsame⟩ := htaken
        exact (hwithin entry hentry).1 hsame
      · exact List.forall_mem_cons.mpr ⟨hplace, fun entry hentry => (hwithin entry hentry).2⟩
    · intro hassigned
      obtain ⟨hdevices, hnodup, hwithin⟩ := hassigned
      cases assigned with
      | nil => cases hdevices
      | cons first rest =>
        obtain ⟨rfl, hrests⟩ := List.cons_eq_cons.mp hdevices
        obtain ⟨hfirst, hrest⟩ := List.forall_mem_cons.mp hwithin
        obtain ⟨hfresh, hnodup⟩ := List.nodup_cons.mp hnodup
        refine ⟨first.2, hfirst, rest, ⟨hrests, hnodup, fun entry hentry => ?_⟩, rfl⟩
        exact ⟨fun hsame => hfresh (List.mem_map.mpr ⟨entry, hentry, hsame⟩), hrest entry hentry⟩

theorem nodup_assignments (hplaces : places.Nodup) : (assignments devices places).Nodup := by
  induction devices generalizing places with
  | nil => exact List.nodup_singleton []
  | cons device others ih =>
    rw [assignments_cons hplaces, List.nodup_flatMap]
    constructor
    · intro place _
      exact (ih (hplaces.erase place)).map List.cons_injective
    · apply hplaces.imp
      intro place other hne assigned hassigned hother
      obtain ⟨rest, -, rfl⟩ := List.mem_map.mp hassigned
      obtain ⟨rest', -, hsame⟩ := List.mem_map.mp hother
      exact hne (congrArg Prod.snd (List.cons_eq_cons.mp hsame).1).symm

/-! ## Placements -/

def Placement.IsInjective (placement : Placement) : Prop :=
  ∀ device other place, placement.get? device = some place →
    placement.get? other = some place → device = other

/-- The placement gives each of the devices a place of its own. -/
structure Placement.Places (placement : Placement) (devices places : List DeviceId) : Prop where
  total : ∀ device, (placement.get? device).isSome ↔ device ∈ devices
  within : ∀ device place, placement.get? device = some place → place ∈ places
  injective : placement.IsInjective

namespace Placement

def along (placement : Placement) (devices : List DeviceId) : List (DeviceId × DeviceId) :=
  devices.filterMap fun device => (placement.get? device).map fun place => (device, place)

variable {placement : Placement}

theorem mem_along_iff {device place : DeviceId} :
    (device, place) ∈ placement.along devices ↔
      device ∈ devices ∧ placement.get? device = some place := by
  simp [along]

theorem map_fst_along (hdevices : ∀ device ∈ devices, (placement.get? device).isSome) :
    (placement.along devices).map Prod.fst = devices := by
  rw [along, List.map_filterMap]
  calc
    _ = devices.filterMap some := by
      apply List.filterMap_congr
      intro device hdevice
      obtain ⟨place, hplace⟩ := Option.isSome_iff_exists.mp (hdevices device hdevice)
      rw [hplace]
      rfl
    _ = devices := List.filterMap_some

/-- A placement that was made from an assignment says again what the assignment says. -/
theorem along_ofList {assigned : List (DeviceId × DeviceId)}
    (hdevices : (assigned.map Prod.fst).Nodup) :
    Placement.along (SortedMap.ofList assigned) (assigned.map Prod.fst) = assigned := by
  rw [along, List.filterMap_map]
  calc
    _ = assigned.filterMap some := by
      apply List.filterMap_congr
      intro entry hentry
      rw [Function.comp_apply, (SortedMap.get?_ofList_eq_some_iff hdevices).mpr hentry]
      rfl
    _ = assigned := List.filterMap_some

/-- A placement of the devices is made from an assignment. -/
theorem Places.along_mem_assignments (hdevices : devices.Nodup) (hplaces : places.Nodup)
    (hplaced : placement.Places devices places) :
    placement.along devices ∈ assignments devices places ∧
      SortedMap.ofList (placement.along devices) = placement := by
  have hkeys : (placement.along devices).map Prod.fst = devices :=
    map_fst_along fun device hdevice => (hplaced.total device).mpr hdevice
  have hkeysNodup : ((placement.along devices).map Prod.fst).Nodup := hkeys.symm ▸ hdevices
  constructor
  · refine (mem_assignments_iff hplaces).mpr ⟨hkeys, ?_, ?_⟩
    · apply hkeysNodup.of_map.map_on
      intro entry hentry other hother hsame
      apply Prod.ext _ hsame
      exact hplaced.injective entry.1 other.1 entry.2 (mem_along_iff.mp hentry).2
        (hsame ▸ (mem_along_iff.mp hother).2)
    · intro entry hentry
      exact hplaced.within entry.1 entry.2 (mem_along_iff.mp hentry).2
  · apply SortedMap.ext_get?
    intro device
    apply Option.ext
    intro place
    rw [SortedMap.get?_ofList_eq_some_iff hkeysNodup, mem_along_iff, and_iff_right_iff_imp]
    intro hfound
    exact (hplaced.total device).mp (Option.isSome_of_eq_some hfound)

end Placement

/-- No placement is enumerated twice. -/
theorem nodup_placements (hdevices : devices.Nodup) (hplaces : places.Nodup) :
    (placements devices places).Nodup := by
  rw [placements]
  split
  · apply (nodup_assignments hplaces).map_on
    intro assigned hassigned other hother hsame
    have hkeys := ((mem_assignments_iff hplaces).mp hassigned).1
    have hothers := ((mem_assignments_iff hplaces).mp hother).1
    calc
      assigned = Placement.along (SortedMap.ofList assigned) devices := by
        rw [← hkeys, Placement.along_ofList (hkeys ▸ hdevices)]
      _ = Placement.along (SortedMap.ofList other) devices := by rw [hsame]
      _ = other := by rw [← hothers, Placement.along_ofList (hothers ▸ hdevices)]
  · exact List.nodup_nil

/-- The placements are enumerated that give each device a place of its own. -/
theorem mem_placements_iff (hdevices : devices.Nodup) (hplaces : places.Nodup)
    {placement : Placement} :
    placement ∈ placements devices places ↔ placement.Places devices places := by
  constructor
  · intro hplacement
    rw [placements] at hplacement
    split at hplacement
    · obtain ⟨assigned, hassigned, rfl⟩ := List.mem_map.mp hplacement
      obtain ⟨hkeys, hnodup, hwithin⟩ := (mem_assignments_iff hplaces).mp hassigned
      have hget : ∀ {device place}, (SortedMap.ofList assigned).get? device = some place →
          (device, place) ∈ assigned := SortedMap.mem_of_get?_ofList
      constructor
      · intro device
        rw [SortedMap.isSome_get?_ofList_iff, ← hkeys, List.mem_map]
      · intro device place hfound
        exact hwithin _ (hget hfound)
      · intro device other place hdevice hother
        exact congrArg Prod.fst
          (List.inj_on_of_nodup_map hnodup (hget hdevice) (hget hother) rfl)
    · cases hplacement
  · intro hplaced
    obtain ⟨hassigned, hmade⟩ := hplaced.along_mem_assignments hdevices hplaces
    obtain ⟨hkeys, hnodup, hwithin⟩ := (mem_assignments_iff hplaces).mp hassigned
    have hlength : devices.length ≤ places.length := by
      have hsubperm : ((placement.along devices).map Prod.snd).Subperm places := by
        apply hnodup.subperm
        intro place hplace
        obtain ⟨entry, hentry, rfl⟩ := List.mem_map.mp hplace
        exact hwithin entry hentry
      calc
        devices.length = ((placement.along devices).map Prod.snd).length := by
          rw [List.length_map, ← List.length_map Prod.fst, hkeys]
        _ ≤ places.length := hsubperm.length_le
    rw [placements, if_pos hlength, List.mem_map]
    exact ⟨placement.along devices, hassigned, hmade⟩

end LabMatch
