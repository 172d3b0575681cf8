import LabMatch.Proofs.Catalog.Visible
import LabMatch.Proofs.Session.Plain
import LabMatch.Proofs.Wiring.Renamed

/-!
# Absolute wirings are mirrored

The links declared on the devices of a container join its own devices.  A
container that inherits a wiring sees the devices of its parent, and one that takes
it over moves it to its own devices, which no two names share.  So the absolute
wiring of every container of a built catalogue is mirrored and joins visible
devices only.
-/

namespace LabMatch

namespace Wiring

variable {wiring : Wiring}

theorem mentions_connect {span : Span} (hdevices : span.source.device ≠ span.target.device)
    {connection : Connection} {device : DeviceId}
    (hmentions : (wiring.connect span connection).Mentions device) :
    wiring.Mentions device ∨ device = span.source.device ∨ device = span.target.device := by
  obtain ⟨other, hne, hend⟩ := hmentions
  rw [get_connect wiring (Span.flip_ne_of_devices_ne hdevices)] at hne
  by_cases hsame : other = span
  · subst hsame
    exact Or.inr (hend.imp Eq.symm Eq.symm)
  · by_cases hflip : other = span.flip
    · subst hflip
      exact Or.inr (hend.symm.imp Eq.symm Eq.symm)
    · rw [if_neg hsame, if_neg hflip] at hne
      exact Or.inl ⟨other, hne, hend⟩

/-- The wiring is mirrored and joins the given devices only. -/
structure IsWithin (wiring : Wiring) (devices : List DeviceId) : Prop where
  isMirrored : wiring.IsMirrored
  noEmptyEntry : wiring.NoEmptyEntry
  mentions : ∀ device, wiring.Mentions device → device ∈ devices

theorem isWithin_empty (devices : List DeviceId) : empty.IsWithin devices where
  isMirrored := isMirrored_empty
  noEmptyEntry := noEmptyEntry_empty
  mentions := by
    rintro device ⟨span, hne, -⟩
    exact absurd rfl hne

theorem IsWithin.connect {devices : List DeviceId} (hwithin : wiring.IsWithin devices)
    {span : Span} (hdevices : span.source.device ≠ span.target.device)
    (hsource : span.source.device ∈ devices) (htarget : span.target.device ∈ devices)
    (connection : Connection) : (wiring.connect span connection).IsWithin devices where
  isMirrored := hwithin.isMirrored.connect hdevices connection
  noEmptyEntry := hwithin.noEmptyEntry.connect span connection
  mentions := by
    intro device hmentions
    rcases mentions_connect hdevices hmentions with hearlier | rfl | rfl
    · exact hwithin.mentions device hearlier
    · exact hsource
    · exact htarget

theorem IsWithin.mono {devices others : List DeviceId} (hwithin : wiring.IsWithin devices)
    (hdevices : ∀ device ∈ devices, device ∈ others) : wiring.IsWithin others where
  isMirrored := hwithin.isMirrored
  noEmptyEntry := hwithin.noEmptyEntry
  mentions device hmentions := hdevices device (hwithin.mentions device hmentions)

/-- Links between the devices, connected one after the other. -/
theorem isWithin_foldl_connect {devices : List DeviceId} {links : List (Span × Connection)}
    (hlinks : ∀ link ∈ links, link.1.source.device ≠ link.1.target.device ∧
      link.1.source.device ∈ devices ∧ link.1.target.device ∈ devices) :
    (links.foldl (fun wiring link => wiring.connect link.1 link.2) empty).IsWithin devices := by
  induction links using List.reverseRecOn with
  | nil => exact isWithin_empty devices
  | append_singleton earlier link ih =>
    rw [List.forall_mem_append, List.forall_mem_singleton] at hlinks
    obtain ⟨hdevices, hsource, htarget⟩ := hlinks.2
    rw [List.foldl_concat]
    exact (ih hlinks.1).connect hdevices hsource htarget link.2

end Wiring

namespace Catalog

variable {catalog : Catalog}

/-- The links declared on the devices of a container join two devices of its own. -/
theorem WellLaidOut.ends_of_declared (hlaidOut : WellLaidOut catalog) (container : ContainerId) :
    ∀ link ∈ (catalog.container container).devices.flatMap catalog.declaredLinks,
      link.1.source.device ≠ link.1.target.device ∧
        link.1.source.device ∈ (catalog.container container).devices ∧
        link.1.target.device ∈ (catalog.container container).devices := by
  intro link hlink
  obtain ⟨device, hdevice, hlink⟩ := List.mem_flatMap.mp hlink
  obtain ⟨declared, hdeclared, rfl⟩ := List.mem_map.mp hlink
  obtain ⟨hpeer, hindex, howner⟩ := hlaidOut.links device declared hdeclared
  have hlisted := hlaidOut.listed declared.peer hindex
  rw [howner, (hlaidOut.owner container device hdevice).1] at hlisted
  exact ⟨hpeer.symm, hdevice, hlisted⟩

/-- Declared links join the devices of their container only. -/
theorem isWithin_ownWiring (hlaidOut : WellLaidOut catalog) (container : ContainerId) :
    (catalog.ownWiring container).IsWithin (catalog.container container).devices :=
  Wiring.isWithin_foldl_connect (hlaidOut.ends_of_declared container)

theorem isWithin_visible_ownWiring (hlaidOut : WellLaidOut catalog) (container : ContainerId) :
    (catalog.ownWiring container).IsWithin (catalog.visibleDevices container) :=
  (isWithin_ownWiring hlaidOut container).mono fun _ => hlaidOut.mem_visibleDevices_of_own

/-- Moving a wiring to devices of the same names keeps what it joins apart. -/
theorem isWithin_movedWiring {parent : ContainerId} {wiring : Wiring} {devices : List DeviceId}
    (hwithin : wiring.IsWithin (catalog.visibleDevices parent)) :
    (catalog.movedWiring wiring devices).IsWithin devices := by
  have hname : ∀ {device found}, (devices.find? fun candidate =>
      (catalog.device candidate).name == (catalog.device device).name) = some found →
        (catalog.device found).name = (catalog.device device).name := by
    intro device found hfound
    simpa using List.find?_some hfound
  have hapart : wiring.NamesApart fun device => devices.find? fun candidate =>
      (catalog.device candidate).name == (catalog.device device).name := by
    intro device other found hdevice hother hfound hfound'
    apply eq_of_mem_visibleDevices (hwithin.mentions device hdevice) (hwithin.mentions other hother)
    rw [← hname hfound, ← hname hfound']
  rw [movedWiring]
  constructor
  · exact hwithin.isMirrored.rename hwithin.noEmptyEntry hapart
  · exact Wiring.NoEmptyEntry.rename _ _
  · rintro device ⟨renamed, hne, hend⟩
    obtain ⟨span, -, hrenamed⟩ := Wiring.exists_of_get_rename_ne_nil hwithin.noEmptyEntry hne
    obtain ⟨hsource, htarget, -⟩ := Wiring.renameSpan_eq_some.mp hrenamed
    cases hend with
    | inl hsame => exact hsame ▸ List.mem_of_find?_eq_some hsource
    | inr hsame => exact hsame ▸ List.mem_of_find?_eq_some htarget

/-- The absolute wiring of a container is mirrored and joins visible devices only. -/
theorem isWithin_absolute (hlaidOut : WellLaidOut catalog) (container : ContainerId) :
    (catalog.absolute container).1.IsWithin (catalog.visibleDevices container) := by
  induction container using catalog.parent_induction with
  | step container ih =>
    rw [absolute_eq]
    cases hparent : catalog.parent? container with
    | none => exact isWithin_visible_ownWiring hlaidOut container
    | some parent =>
      rw [Option.map_some, settleWiring]
      by_cases hempty : (catalog.container container).devices.isEmpty
      · rw [if_pos hempty, visibleDevices_of_isEmpty hempty hparent]
        exact ih parent hparent
      · by_cases hdeclares : catalog.declaresLinks container
        · rw [if_neg hempty, if_pos hdeclares]
          exact isWithin_visible_ownWiring hlaidOut container
        · rw [if_neg hempty, if_neg hdeclares]
          exact isWithin_movedWiring (ih parent hparent)

end Catalog

end LabMatch
