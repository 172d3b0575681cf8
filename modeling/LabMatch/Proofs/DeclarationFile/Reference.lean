import LabMatch.DeclarationFile.Load
import LabMatch.Proofs.Catalog.Named
import Mathlib.Data.List.TakeDrop
import Mathlib.Data.List.TakeWhile

/-!
# What references of a declaration file stand for

An entry refers to another entity by its name, and to a device or logical device by a
path.  The owner in a path is the text before the first point, whatever follows it.  A
reference is resolved exactly if there is such an entity, which is the only one.
-/

namespace LabMatch

namespace DeclarationFile

/-! ## Paths -/

/-- The path is divided at its first point. -/
structure DividesInto (path owner name : String) : Prop where
  text : path = owner ++ "." ++ name
  first : '.' ∉ owner.toList

theorem span_of_notMem {front back : List Char} (hfront : '.' ∉ front) :
    (front ++ '.' :: back).span (· != '.') = (front, '.' :: back) := by
  have hall : ∀ character ∈ front, (character != '.') = true := by
    intro character hcharacter
    rw [bne_iff_ne]
    rintro rfl
    exact hfront hcharacter
  rw [List.span_eq_takeWhile_dropWhile, List.takeWhile_append_of_pos hall,
    List.dropWhile_append_of_pos hall]
  simp

theorem of_span_eq {text front back : List Char} {point : Char}
    (hspan : text.span (· != '.') = (front, point :: back)) :
    text = front ++ '.' :: back ∧ '.' ∉ front := by
  rw [List.span_eq_takeWhile_dropWhile, Prod.mk.injEq] at hspan
  obtain ⟨rfl, hback⟩ := hspan
  obtain rfl : point = '.' := by
    have hstops := List.head?_dropWhile_not (· != '.') text
    rw [hback] at hstops
    simpa using hstops
  constructor
  · rw [← hback, List.takeWhile_append_dropWhile]
  · intro hfront
    simpa using List.mem_takeWhile_imp hfront

theorem splitPath?_eq_some_iff {path owner name : String} :
    splitPath? path = some (owner, name) ↔ DividesInto path owner name := by
  constructor
  · intro hsplit
    rw [splitPath?] at hsplit
    split at hsplit
    · cases hsplit
    · rename_i hspan
      cases hsplit
      obtain ⟨htext, hfront⟩ := of_span_eq hspan
      exact ⟨String.toList_inj.mp (by simpa using htext), by rwa [String.toList_ofList]⟩
  · intro hdivides
    have hpath : path.toList = owner.toList ++ '.' :: name.toList := by
      rw [hdivides.text]
      simp
    rw [splitPath?, hpath, span_of_notMem hdivides.first]
    simp

end DeclarationFile

namespace Catalog

open DeclarationFile

variable {catalog next : Catalog} {path : String}

/-- The path leads to the device: its owner is a container, and the rest of the path names the
device there. -/
def LeadsToDevice (catalog : Catalog) (path : String) (id : DeviceId) : Prop :=
  ∃ owner name home, DividesInto path owner name ∧ catalog.NamesContainer owner home ∧
    catalog.NamesDevice home name id

/-- The path leads to the logical device: its owner is a capability type, and the rest of the
path names the logical device there. -/
def LeadsToLogicalDevice (catalog : Catalog) (path : String) (id : LogicalDeviceId) : Prop :=
  ∃ owner name home, DividesInto path owner name ∧ catalog.NamesCapability owner home ∧
    catalog.NamesLogicalDevice home name id

theorem LeadsToDevice.later {id : DeviceId} (hleads : catalog.LeadsToDevice path id)
    (hcontinues : catalog.Continues next) : next.LeadsToDevice path id := by
  obtain ⟨owner, name, home, hdivides, howner, hname⟩ := hleads
  exact ⟨owner, name, home, hdivides, howner.later hcontinues, hname.later hcontinues⟩

theorem LeadsToLogicalDevice.later {id : LogicalDeviceId}
    (hleads : catalog.LeadsToLogicalDevice path id) (hcontinues : catalog.Continues next) :
    next.LeadsToLogicalDevice path id := by
  obtain ⟨owner, name, home, hdivides, howner, hname⟩ := hleads
  exact ⟨owner, name, home, hdivides, howner.later hcontinues, hname.later hcontinues⟩

/-! ## Resolving references -/

theorem referenceAt_eq_ok_iff {Result : Type} {site name : String} {kind : ReferenceKind}
    {found : Option Result} {result : Result} :
    referenceAt site kind name found = .ok result ↔ found = some result := by
  cases found with
  | none => simp [referenceAt]
  | some other => simp [referenceAt]

section References

variable (hdeclared : Declared catalog) {site name : String} {container : ContainerId}

include hdeclared

theorem Declared.capabilityAt_eq_ok_iff {id : CapabilityId} :
    catalog.capabilityAt site name = .ok id ↔ catalog.NamesCapability name id := by
  rw [capabilityAt, referenceAt_eq_ok_iff, hdeclared.capabilityNamed?_eq_some_iff]

/-- A reference to a member is accepted exactly for the device of that name in the container. -/
theorem Declared.memberAt_eq_ok_iff {id : DeviceId} :
    catalog.memberAt site container name = .ok id ↔ catalog.NamesDevice container name id := by
  rw [memberAt, referenceAt_eq_ok_iff, hdeclared.deviceNamed?_eq_some_iff]

/-- A reference by path is accepted exactly for the device that the path leads to. -/
theorem Declared.deviceAt_eq_ok_iff {id : DeviceId} :
    catalog.deviceAt site path = .ok id ↔ catalog.LeadsToDevice path id := by
  simp only [deviceAt, referenceAt_eq_ok_iff, Option.bind_eq_bind, Option.bind_eq_some_iff,
    Prod.exists, splitPath?_eq_some_iff, hdeclared.containerNamed?_eq_some_iff,
    hdeclared.deviceNamed?_eq_some_iff, LeadsToDevice, exists_and_left]

theorem Declared.logicalDeviceAt_eq_ok_iff {id : LogicalDeviceId} :
    catalog.logicalDeviceAt site path = .ok id ↔ catalog.LeadsToLogicalDevice path id := by
  simp only [logicalDeviceAt, referenceAt_eq_ok_iff, Option.bind_eq_bind, Option.bind_eq_some_iff,
    Prod.exists, splitPath?_eq_some_iff, hdeclared.capabilityNamed?_eq_some_iff,
    hdeclared.logicalDeviceNamed?_eq_some_iff, LeadsToLogicalDevice, exists_and_left]

end References

end Catalog

end LabMatch
