import LabMatch.Catalog.Visible
import LabMatch.Proofs.Catalog.Ancestry
import LabMatch.Proofs.Catalog.Members
import Mathlib.Data.List.Induction

/-!
# Visible devices

Collecting members nearest first finds each of them under its own name, and the
nearest level hides the others.  So the devices visible on a container have
different names, its own devices are among them, and a container without own
devices sees what its parent sees.
-/

namespace LabMatch

namespace SortedMap

variable {Key Value : Type} [LT Key] [DecidableLT Key] [KeyOrder Key]

theorem ofList_append (entries : List (Key × Value)) (key : Key) (value : Value) :
    ofList (entries ++ [(key, value)]) = (ofList entries).insert key value := by
  rw [ofList, List.foldl_concat, ofList]

theorem isSome_get?_iff (map : SortedMap Key Value) {key : Key} :
    (map.get? key).isSome ↔ ∃ entry ∈ map.entries, entry.1 = key := by
  rw [Option.isSome_iff_exists]
  constructor
  · intro hfound
    obtain ⟨value, hfound⟩ := hfound
    exact ⟨(key, value), (get?_eq_some_iff _ _ _).mp hfound, rfl⟩
  · intro hentry
    obtain ⟨⟨_, value⟩, hentry, rfl⟩ := hentry
    exact ⟨value, (get?_eq_some_iff _ _ _).mpr hentry⟩

theorem mem_keys_iff {map : SortedMap Key Value} {key : Key} :
    key ∈ map.keys ↔ (map.get? key).isSome := by
  rw [isSome_get?_iff, keys, List.mem_map]

variable [DecidableEq Key]

/-- What is found in a map made of a list is in the list. -/
theorem mem_of_get?_ofList {entries : List (Key × Value)} {key : Key} {value : Value}
    (hfound : (ofList entries).get? key = some value) : (key, value) ∈ entries := by
  induction entries using List.reverseRecOn with
  | nil => cases hfound
  | append_singleton earlier entry ih =>
    rw [ofList_append, get?_insert] at hfound
    by_cases hsame : key = entry.1
    · rw [if_pos hsame] at hfound
      rw [hsame, ← Option.some.inj hfound]
      exact List.mem_append_right _ List.mem_cons_self
    · rw [if_neg hsame] at hfound
      exact List.mem_append_left _ (ih hfound)

/-- Of several entries with one key the last one is found. -/
theorem get?_ofList_append (entries others : List (Key × Value)) (key : Key) :
    (ofList (entries ++ others)).get? key =
      ((ofList others).get? key).or ((ofList entries).get? key) := by
  induction others using List.reverseRecOn with
  | nil => simp [ofList]
  | append_singleton earlier entry ih =>
    rw [← List.append_assoc, ofList_append, ofList_append, get?_insert, get?_insert, ih]
    by_cases hsame : key = entry.1
    · simp [hsame]
    · simp [hsame]

theorem get?_ofList_of_nodup {entries : List (Key × Value)} (hkeys : (entries.map Prod.fst).Nodup)
    {key : Key} {value : Value} (hentry : (key, value) ∈ entries) :
    (ofList entries).get? key = some value := by
  induction entries using List.reverseRecOn with
  | nil => cases hentry
  | append_singleton earlier entry ih =>
    rw [List.map_append, List.nodup_append] at hkeys
    rw [ofList_append, get?_insert]
    cases List.mem_append.mp hentry with
    | inl hearlier =>
      have hne : key ≠ entry.1 :=
        hkeys.2.2 key (List.mem_map.mpr ⟨_, hearlier, rfl⟩) entry.1 (by simp)
      rw [if_neg hne]
      exact ih hkeys.1 hearlier
    | inr hlast =>
      rw [← List.mem_singleton.mp hlast, if_pos rfl]

/-- Of entries with keys of their own each one is found, and no others. -/
theorem get?_ofList_eq_some_iff {entries : List (Key × Value)}
    (hkeys : (entries.map Prod.fst).Nodup) {key : Key} {value : Value} :
    (ofList entries).get? key = some value ↔ (key, value) ∈ entries :=
  ⟨mem_of_get?_ofList, get?_ofList_of_nodup hkeys⟩

/-- Entries with keys of their own are all kept. -/
theorem perm_entries_ofList {entries : List (Key × Value)}
    (hkeys : (entries.map Prod.fst).Nodup) : (ofList entries).entries.Perm entries := by
  rw [List.perm_ext_iff_of_nodup (nodup_entries _) (hkeys.of_map _)]
  intro entry
  rw [← get?_eq_some_iff, get?_ofList_eq_some_iff hkeys]

theorem isSome_get?_ofList_iff {entries : List (Key × Value)} {key : Key} :
    ((ofList entries).get? key).isSome ↔ ∃ entry ∈ entries, entry.1 = key := by
  induction entries using List.reverseRecOn with
  | nil => simp [ofList]
  | append_singleton earlier entry ih =>
    rw [ofList_append, get?_insert]
    simp only [List.mem_append, List.mem_singleton, or_and_right, exists_or, exists_eq_left, ← ih]
    by_cases hsame : key = entry.1
    · simp [hsame]
    · simp [hsame, Ne.symm hsame]

end SortedMap

section Nearest

variable {Member : Type} {name : Member → String} {levels : List (List Member)}

/-- What is found under a name has this name and stems from one of the levels. -/
theorem of_get?_nearest {key : String} {member : Member}
    (hfound : (nearest name levels).get? key = some member) :
    name member = key ∧ ∃ level ∈ levels, member ∈ level := by
  have hentry := SortedMap.mem_of_get?_ofList hfound
  obtain ⟨_, hmem, hsame⟩ := List.mem_map.mp hentry
  obtain ⟨rfl, rfl⟩ := Prod.mk.inj hsame
  obtain ⟨level, hlevel, hmember⟩ := List.mem_flatten.mp hmem
  exact ⟨rfl, level, List.mem_reverse.mp hlevel, hmember⟩

/-- A name is found exactly if some level has a member of this name. -/
theorem isSome_get?_nearest_iff {key : String} :
    ((nearest name levels).get? key).isSome ↔
      ∃ level ∈ levels, ∃ member ∈ level, name member = key := by
  rw [nearest, SortedMap.isSome_get?_ofList_iff]
  simp only [List.mem_map, List.mem_flatten, List.mem_reverse]
  constructor
  · intro hentry
    obtain ⟨_, ⟨member, ⟨level, hlevel, hmember⟩, rfl⟩, hname⟩ := hentry
    exact ⟨level, hlevel, member, hmember, hname⟩
  · intro hmember
    obtain ⟨level, hlevel, member, hmember, hname⟩ := hmember
    exact ⟨_, ⟨member, ⟨level, hlevel, hmember⟩, rfl⟩, hname⟩

/-- Members are told apart by the names under which they are found. -/
theorem nodup_values_nearest : (nearest name levels).values.Nodup := by
  have hnames : (nearest name levels).values.map name =
      (nearest name levels).entries.map Prod.fst := by
    rw [SortedMap.values, List.map_map]
    apply List.map_congr_left
    intro entry hentry
    exact (of_get?_nearest ((SortedMap.get?_eq_some_iff _ _ _).mpr hentry)).1
  apply List.Nodup.of_map name
  rw [hnames]
  exact SortedMap.nodup_keys _

/-- What is found bears the name that it is found under. -/
theorem get?_of_mem_values_nearest {member : Member}
    (hmember : member ∈ (nearest name levels).values) :
    (nearest name levels).get? (name member) = some member := by
  obtain ⟨⟨key, _⟩, hentry, rfl⟩ := List.mem_map.mp hmember
  have hfound := (SortedMap.get?_eq_some_iff _ _ _).mpr hentry
  rw [(of_get?_nearest hfound).1]
  exact hfound

/-- The nearest level comes first. -/
theorem get?_nearest_cons (level : List Member) (key : String) :
    (nearest name (level :: levels)).get? key =
      ((nearest name [level]).get? key).or ((nearest name levels).get? key) := by
  rw [nearest, List.reverse_cons, List.flatten_append, List.map_append,
    SortedMap.get?_ofList_append]
  rfl

/-- A name that no member of the nearest level has is looked for on the other levels. -/
theorem get?_nearest_cons_of_forall_ne {level : List Member} {key : String}
    (hnone : ∀ member ∈ level, name member ≠ key) :
    (nearest name (level :: levels)).get? key = (nearest name levels).get? key := by
  have hlevel : (nearest name [level]).get? key = none := by
    rw [Option.eq_none_iff_forall_not_mem]
    intro member hfound
    obtain ⟨hname, _, hlevel, hmember⟩ := of_get?_nearest hfound
    exact hnone member (List.mem_singleton.mp hlevel ▸ hmember) hname
  rw [get?_nearest_cons, hlevel, Option.none_or]

/-- Members of the nearest level hide those of the others. -/
theorem get?_nearest_of_mem {level : List Member} (hnames : (level.map name).Nodup)
    {member : Member} (hmember : member ∈ level) :
    (nearest name (level :: levels)).get? (name member) = some member := by
  have hown : (nearest name [level]).get? (name member) = some member := by
    apply SortedMap.get?_ofList_of_nodup
    · simpa [Function.comp_def] using hnames
    · exact List.mem_map.mpr ⟨member, by simpa using hmember, rfl⟩
  rw [get?_nearest_cons, hown]
  rfl

end Nearest

namespace Catalog

variable {catalog : Catalog} {container : ContainerId} {device other : DeviceId}

/-- A device is visible exactly if it is what its name stands for. -/
theorem mem_visibleDevices :
    device ∈ catalog.visibleDevices container ↔
      (catalog.visibleDevicesByName container).get? (catalog.device device).name =
        some device := by
  rw [visibleDevices, Ascending.mem_ofList, SortedMap.values, List.mem_map]
  constructor
  · rintro ⟨⟨key, _⟩, hentry, rfl⟩
    rw [← SortedMap.get?_eq_some_iff] at hentry
    rwa [(of_get?_nearest hentry).1]
  · intro hfound
    exact ⟨_, (SortedMap.get?_eq_some_iff _ _ _).mp hfound, rfl⟩

/-- Visible devices are told apart by their names. -/
theorem eq_of_mem_visibleDevices (hdevice : device ∈ catalog.visibleDevices container)
    (hother : other ∈ catalog.visibleDevices container)
    (hname : (catalog.device device).name = (catalog.device other).name) : device = other := by
  rw [mem_visibleDevices] at hdevice hother
  rw [hname, hother] at hdevice
  exact (Option.some.inj hdevice).symm

theorem WellLaidOut.mem_visibleDevices_of_own (hlaidOut : WellLaidOut catalog)
    (hdevice : device ∈ (catalog.container container).devices) :
    device ∈ catalog.visibleDevices container := by
  rw [mem_visibleDevices, visibleDevicesByName, ancestry_eq, List.map_cons]
  exact get?_nearest_of_mem (hlaidOut.names container) hdevice

/-- A container without own devices sees what its parent sees. -/
theorem visibleDevices_of_isEmpty {parent : ContainerId}
    (hempty : (catalog.container container).devices.isEmpty)
    (hparent : catalog.parent? container = some parent) :
    catalog.visibleDevices container = catalog.visibleDevices parent := by
  have hlevels : (catalog.ancestry container).map (fun id => (catalog.container id).devices) =
      [] :: (catalog.ancestry parent).map fun id => (catalog.container id).devices := by
    rw [ancestry_eq, hparent, List.map_cons, List.isEmpty_iff.mp hempty]
    rfl
  rw [visibleDevices, visibleDevices, visibleDevicesByName, hlevels, nearest, List.reverse_cons,
    List.flatten_append]
  simp [visibleDevicesByName, nearest]

end Catalog

end LabMatch
