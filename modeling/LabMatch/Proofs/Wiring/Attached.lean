import LabMatch.Proofs.Connection.Offered
import LabMatch.Proofs.Wiring.Inherited
import LabMatch.Proofs.Wiring.Reduced

/-!
# Wirings are attached in step

In the absolute wiring of a container and in its reduced wiring, both ends of a link
list it at the same place.  The far end sees a link that works both ways from its own
side and a one-way link as it was declared.  Every link is attached at the two endpoints
that it is stored under, which are visible devices of the container, and different ones.

An entry of the reduced wiring comes from one declared connection: its links are single
ones with ascending tags, all at one anchor.
-/

namespace LabMatch

namespace Connection

/-- The second connection is the first one, seen from its far end.  A one-way link looks
the same from there. -/
def SeenFromFarEnd (near far : Connection) : Prop :=
  far.shape = near.shape ∧ ∃ anchor, near.anchor = some anchor ∧
    far.anchor = some (if anchor.oneWay then anchor else anchor.flip)

variable {connection : Connection} {span : Span}

theorem AnchoredAt.seenFromFarEnd (hanchored : connection.AnchoredAt span) :
    connection.SeenFromFarEnd connection.farCopy := by
  obtain ⟨anchor, hanchor, -⟩ := hanchored
  refine ⟨connection.shape_farCopy, anchor, hanchor, ?_⟩
  by_cases honeWay : anchor.oneWay
  · simp [Connection.farCopy, hanchor, honeWay]
  · simp [Connection.farCopy, hanchor, honeWay, flip]

theorem links_ne_nil (connection : Connection) : connection.links ≠ [] := by
  simpa [links] using connection.alternatives_ne_nil

end Connection

namespace Wiring

variable {wiring : Wiring} {devices : List DeviceId}

/-- Both ends of every link list it in step, attached at the two ends, which are
different ones of the devices. -/
structure IsAttached (wiring : Wiring) (devices : List DeviceId) : Prop where
  inStep : ∀ span, List.Forall₂ Connection.SeenFromFarEnd (wiring.get span) (wiring.get span.flip)
  anchored : ∀ span, ∀ link ∈ wiring.get span, link.AnchoredAt span
  distinct : ∀ entry ∈ wiring.entries, entry.1.source.device ≠ entry.1.target.device
  among : ∀ entry ∈ wiring.entries,
    entry.1.source.device ∈ devices ∧ entry.1.target.device ∈ devices

/-- A mirrored wiring within the devices is attached to them. -/
theorem IsWithin.isAttached (hwithin : wiring.IsWithin devices) : wiring.IsAttached devices where
  inStep span := by
    rw [hwithin.isMirrored.mirrored, List.forall₂_map_right_iff, List.forall₂_same]
    exact fun link hlink => (hwithin.isMirrored.anchored span link hlink).seenFromFarEnd
  anchored := hwithin.isMirrored.anchored
  distinct entry hentry :=
    hwithin.isMirrored.distinct entry.1 (hwithin.noEmptyEntry.get_ne_nil hentry)
  among entry hentry := by
    have hne := hwithin.noEmptyEntry.get_ne_nil hentry
    exact ⟨hwithin.mentions _ (mentions_source hne), hwithin.mentions _ (mentions_target hne)⟩

/-! ## No entry becomes empty -/

theorem NoEmptyEntry.expand {expanded : Wiring} (hwiring : wiring.NoEmptyEntry)
    (hexpand : wiring.expand = .ok expanded) : expanded.NoEmptyEntry := by
  rw [Wiring.expand] at hexpand
  split at hexpand
  · cases hexpand
  · cases hexpand
    intro span hempty
    rw [SortedMap.get?_map, Option.map_eq_some_iff] at hempty
    obtain ⟨connections, hfound, hlinks⟩ := hempty
    rw [List.flatMap_eq_nil_iff] at hlinks
    have hnone : connections = [] := by
      rw [List.eq_nil_iff_forall_not_mem]
      exact fun connection hmem => connection.links_ne_nil (hlinks connection hmem)
    exact hwiring span (hnone ▸ hfound)

theorem NoEmptyEntry.restrictAll (hwiring : wiring.NoEmptyEntry) (requirement : Connection)
    (spans : List Span) : (wiring.restrictAll requirement spans).NoEmptyEntry := by
  induction spans using List.reverseRecOn with
  | nil => exact hwiring
  | append_singleton earlier span ih =>
    rw [Wiring.restrictAll, List.foldl_concat, restrict]
    split
    · exact ih
    · exact (ih.put _ _).put _ _

theorem FilteredFrom.mentions {filtered : Wiring} {keep : Span → Connection → Bool}
    (hfiltered : filtered.FilteredFrom wiring keep) {device : DeviceId}
    (hmentions : filtered.Mentions device) : wiring.Mentions device := by
  obtain ⟨span, hne, hend⟩ := hmentions
  refine ⟨span, fun hempty => hne ?_, hend⟩
  rw [hfiltered, hempty]
  rfl

theorem mentions_of_expand_eq_ok {expanded : Wiring} (hexpand : wiring.expand = .ok expanded)
    {device : DeviceId} (hmentions : expanded.Mentions device) : wiring.Mentions device := by
  obtain ⟨span, hne, hend⟩ := hmentions
  refine ⟨span, fun hempty => hne ?_, hend⟩
  rw [get_of_expand_eq_ok hexpand, hempty]
  rfl

end Wiring

namespace Catalog

variable {catalog : Catalog} {container : ContainerId} {reduced : ReducedWiring}

theorem noEmptyEntry_of_meetDemands {demands : List PairDemand} {wiring links : Wiring}
    (hwiring : wiring.NoEmptyEntry)
    (hmet : demands.foldlM catalog.meetDemand wiring = .ok links) : links.NoEmptyEntry := by
  induction demands generalizing wiring with
  | nil =>
    cases hmet
    exact hwiring
  | cons demand others ih =>
    rw [List.foldlM_cons] at hmet
    obtain ⟨middle, hmiddle, hmet⟩ := exists_of_bind_eq_ok hmet
    obtain ⟨⟨_, warnings⟩, hreduced, rfl⟩ := exists_of_map_eq_ok hmiddle
    refine ih ?_ hmet
    rw [reducePair_eq_ok hreduced]
    exact hwiring.restrictAll _ _

/-- The reduced wiring of a container is mirrored and joins visible devices only. -/
theorem isWithin_reduced (hlaidOut : WellLaidOut catalog)
    (hreduced : catalog.reduced container = .ok reduced) :
    reduced.links.IsWithin (catalog.visibleDevices container) := by
  have hwithin := isWithin_absolute hlaidOut container
  obtain ⟨expanded, hexpand, hmet⟩ := meetDemands_of_reduced hreduced
  obtain ⟨hmirrored, hfiltered⟩ :=
    filteredFrom_meetDemands (hwithin.isMirrored.expand hexpand) hmet
  constructor
  · exact hmirrored
  · exact noEmptyEntry_of_meetDemands (hwithin.noEmptyEntry.expand hexpand) hmet
  · intro device hmentions
    exact hwithin.mentions device
      (Wiring.mentions_of_expand_eq_ok hexpand (hfiltered.mentions hmentions))

/-- An entry of the reduced wiring is an ascending list of single links at one anchor. -/
theorem exists_links_of_reduced (hlaidOut : WellLaidOut catalog)
    (hreduced : catalog.reduced container = .ok reduced) (span : Span) :
    ∃ (anchor : Anchor) (alternatives : List TagSet), Ascending.IsAscending alternatives ∧
      reduced.links.get span = alternatives.map fun tags => ⟨.link tags, some anchor⟩ := by
  obtain ⟨expanded, hexpand, -, -, hfiltered⟩ := filteredFrom_reduced hlaidOut hreduced
  have hlength := Wiring.length_le_one_of_expand_eq_ok hexpand span
  rw [hfiltered, Wiring.get_of_expand_eq_ok hexpand]
  cases hentry : (catalog.absolute container).1.get span with
  | nil => exact ⟨default, [], List.Pairwise.nil, rfl⟩
  | cons connection others =>
    obtain rfl : others = [] := by
      rw [hentry, List.length_cons] at hlength
      exact List.length_eq_zero_iff.mp (by omega)
    obtain ⟨anchor, hanchor, -⟩ := (isWithin_absolute hlaidOut container).isMirrored.anchored span
      connection (hentry ▸ List.mem_cons_self)
    have hlinks : connection.links =
        connection.alternatives.map fun tags => ⟨.link tags, some anchor⟩ := by
      rw [Connection.links, hanchor]
    rw [List.flatMap_singleton, hlinks, List.filter_map]
    exact ⟨anchor, _, connection.shape.isAscending_alternatives.filter _, rfl⟩

/-- After any questions, the wirings of a container are attached in step between its
visible devices.  Every entry of the reduced wiring lists single links, one for each of
some ascending alternatives, at one anchor. -/
theorem wirings_isAttached (hbuilt : Built catalog) (container : ContainerId)
    (questions : List Session.Question) :
    ((Session.absoluteWiring catalog container).run
      (Session.afterAsking catalog questions)).1.IsAttached (catalog.visibleDevices container) ∧
    ∀ reduced, ((Session.reducedWiring catalog container).run.run
      (Session.afterAsking catalog questions)).1 = .ok reduced →
        reduced.links.IsAttached (catalog.visibleDevices container) ∧
        ∀ span, ∃ (anchor : Anchor) (alternatives : List TagSet),
          Ascending.IsAscending alternatives ∧
          reduced.links.get span = alternatives.map fun tags => ⟨.link tags, some anchor⟩ := by
  have hlaidOut := hbuilt.wellLaidOut
  constructor
  · rw [Session.run_afterAsking (fun _ => Session.answers_absoluteWiring container)]
    exact (isWithin_absolute hlaidOut container).isAttached
  · intro reduced hreduced
    have hplain := reduced_of_reducedWiring hreduced
    exact ⟨(isWithin_reduced hlaidOut hplain).isAttached,
      exists_links_of_reduced hlaidOut hplain⟩

/-- Both wirings of the desk are attached, also after the site was reduced. -/
theorem wirings_isAttached_deskLab :
    let questions := [Session.Question.reducedWiring ⟨0⟩]
    ∃ reduced,
      ((Session.reducedWiring deskLab ⟨3⟩).run.run (Session.afterAsking deskLab questions)).1 =
        .ok reduced ∧
      ((Session.absoluteWiring deskLab ⟨3⟩).run
        (Session.afterAsking deskLab questions)).1.IsAttached (deskLab.visibleDevices ⟨3⟩) ∧
      reduced.links.IsAttached (deskLab.visibleDevices ⟨3⟩) := by
  intro questions
  have hok : ((Session.reducedWiring deskLab ⟨3⟩).run.run
      (Session.afterAsking deskLab questions)).1.isOk = true := by decide +kernel
  obtain ⟨reduced, hreduced⟩ := exists_of_isOk hok
  obtain ⟨habsolute, hlinks⟩ := wirings_isAttached built_deskLab ⟨3⟩ questions
  exact ⟨reduced, hreduced, habsolute, (hlinks reduced hreduced).1⟩

end Catalog

end LabMatch
