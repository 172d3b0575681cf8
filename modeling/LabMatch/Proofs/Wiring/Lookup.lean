import LabMatch.Wiring.Reduction

/-!
# Looking up links

What an operation on a wiring does is said through `Wiring.get`, the list of
connections of one ordered pair of endpoints.  The entries of a wiring are what
`get` finds, each under its own pair.
-/

namespace LabMatch

namespace SortedMap

variable {Key Value Other : Type} [LT Key] [DecidableLT Key] [KeyOrder Key]

@[simp]
theorem get?_map (convert : Value → Other) (map : SortedMap Key Value) (key : Key) :
    (map.map convert).get? key = (map.get? key).map convert := by
  apply Option.ext
  intro value
  rw [get?_eq_some_iff, Option.map_eq_some_iff]
  simp only [get?_eq_some_iff, SortedMap.map, List.mem_map, Prod.mk.injEq, Prod.exists]
  constructor
  · rintro ⟨_, found, hmem, rfl, rfl⟩
    exact ⟨found, hmem, rfl⟩
  · rintro ⟨found, hmem, rfl⟩
    exact ⟨key, found, hmem, rfl, rfl⟩

end SortedMap

namespace Connection

variable {connection : Connection}

@[simp]
theorem farCopy_farCopy (connection : Connection) : connection.farCopy.farCopy = connection := by
  obtain ⟨shape, anchor⟩ := connection
  cases anchor with
  | none => rfl
  | some anchor =>
    obtain ⟨span, oneWay⟩ := anchor
    cases oneWay <;> rfl

@[simp]
theorem shape_farCopy (connection : Connection) : connection.farCopy.shape = connection.shape := by
  rw [farCopy]
  split <;> rfl

/-- Both copies of a link offer the same. -/
@[simp]
theorem alternatives_farCopy (connection : Connection) :
    connection.farCopy.alternatives = connection.alternatives := by
  simp [alternatives]

/-- Splitting a connection into links commutes with looking at it from the far end. -/
theorem links_farCopy (connection : Connection) :
    connection.farCopy.links = connection.links.map farCopy := by
  obtain ⟨shape, anchor⟩ := connection
  rw [links, links, List.map_map, alternatives_farCopy]
  congr 1
  funext tags
  cases anchor with
  | none => simp [farCopy, flip]
  | some anchor => by_cases honeWay : anchor.oneWay <;> simp [farCopy, flip, honeWay]

end Connection

namespace Wiring

variable {wiring : Wiring}

def HasEntryAt (wiring : Wiring) (endpoint : Endpoint) : Prop :=
  ∃ entry ∈ wiring.entries, entry.1.source = endpoint

/-- A wiring is determined by its entries in any order. -/
theorem eq_of_perm {other : Wiring} (hperm : wiring.entries.Perm other.entries) :
    wiring = other :=
  congrArg mk (SortedMap.eq_of_perm hperm)

theorem get_of_mem_entries {entry : Span × List Connection} (hentry : entry ∈ wiring.entries) :
    wiring.get entry.1 = entry.2 := by
  have hfound : wiring.table.get? entry.1 = some entry.2 :=
    (wiring.table.get?_eq_some_iff entry.1 entry.2).mpr hentry
  rw [get, hfound]
  rfl

theorem mem_entries_of_get_ne_nil {span : Span} (hne : wiring.get span ≠ []) :
    (span, wiring.get span) ∈ wiring.entries := by
  have hfound : wiring.table.get? span = some (wiring.get span) := by
    cases hlookup : wiring.table.get? span with
    | none => simp [get, hlookup] at hne
    | some connections => simp [get, hlookup]
  exact (wiring.table.get?_eq_some_iff span _).mp hfound

theorem hasEntryAt_of_get_ne_nil {span : Span} (hne : wiring.get span ≠ []) :
    wiring.HasEntryAt span.source :=
  ⟨_, mem_entries_of_get_ne_nil hne, rfl⟩

/-- The nodes of a device are those of its endpoints that have an entry. -/
theorem mem_nodes_iff {device : DeviceId} {node : String} :
    node ∈ wiring.nodes device ↔ wiring.HasEntryAt ⟨device, node⟩ := by
  simp only [nodes, HasEntryAt, Ascending.mem_ofList, List.mem_map, List.mem_filter, beq_iff_eq,
    and_assoc]
  apply exists_congr
  rintro ⟨⟨⟨device', node'⟩, target⟩, connections⟩
  simp

/-- The connections between two devices are those stored for any pair of endpoints on them. -/
theorem mem_between_iff {source target : DeviceId} {link : Connection} :
    link ∈ wiring.between source target ↔
      ∃ span : Span, span.source.device = source ∧ span.target.device = target ∧
        link ∈ wiring.get span := by
  simp only [between, entriesBetween, List.mem_flatMap, List.mem_filter, Bool.and_eq_true,
    beq_iff_eq]
  constructor
  · rintro ⟨entry, ⟨hentry, hsource, htarget⟩, hlink⟩
    exact ⟨entry.1, hsource, htarget, (get_of_mem_entries hentry).symm ▸ hlink⟩
  · rintro ⟨span, hsource, htarget, hlink⟩
    exact ⟨(span, wiring.get span),
      ⟨mem_entries_of_get_ne_nil (List.ne_nil_of_mem hlink), hsource, htarget⟩, hlink⟩

theorem get_put (wiring : Wiring) (span other : Span) (connections : List Connection) :
    (wiring.put span connections).get other =
      if other = span then connections else wiring.get other := by
  rw [put]
  by_cases hempty : connections.isEmpty
  · rw [if_pos hempty, get, SortedMap.get?_erase]
    by_cases hsame : other = span
    · simp [hsame, List.isEmpty_iff.mp hempty]
    · simp [hsame, get]
  · rw [if_neg hempty, get, SortedMap.get?_insert]
    by_cases hsame : other = span <;> simp [hsame, get]

/-- Appending a connection adds it at the end of one list and changes no other one. -/
theorem get_append (wiring : Wiring) (span other : Span) (connection : Connection) :
    (wiring.append span connection).get other =
      if other = span then wiring.get other ++ [connection] else wiring.get other := by
  rw [append, get_put]
  by_cases hsame : other = span <;> simp [hsame]

/-- Replacing a list under both ends stores the far copies under the far end. -/
theorem get_putBoth (wiring : Wiring) {span : Span} (hspan : span.flip ≠ span) (other : Span)
    (connections : List Connection) :
    (wiring.putBoth span connections).get other =
      if other = span then connections
      else if other = span.flip then connections.map Connection.farCopy
      else wiring.get other := by
  rw [putBoth, get_put, get_put]
  by_cases hsame : other = span
  · rw [if_pos hsame, if_pos hsame, if_neg (hsame ▸ hspan.symm)]
  · rw [if_neg hsame, if_neg hsame]

/-- Connecting two endpoints lists the connection at both ends, behind what was there. -/
theorem get_connect (wiring : Wiring) {span : Span} (hspan : span.flip ≠ span) (other : Span)
    (connection : Connection) :
    (wiring.connect span connection).get other =
      if other = span then
        wiring.get other ++ [connection.attachedAt span.source span.target]
      else if other = span.flip then
        wiring.get other ++ [(connection.attachedAt span.source span.target).farCopy]
      else wiring.get other := by
  rw [connect, get_append, get_append]
  by_cases hsame : other = span
  · rw [if_pos hsame, if_pos hsame, if_neg (hsame ▸ hspan.symm)]
  · rw [if_neg hsame, if_neg hsame]

/-- Expanding splits every list of connections into its links, and is refused
otherwise. -/
theorem get_of_expand_eq_ok {expanded : Wiring} (hexpand : wiring.expand = .ok expanded)
    (span : Span) : expanded.get span = (wiring.get span).flatMap Connection.links := by
  rw [expand] at hexpand
  split at hexpand
  · cases hexpand
  · cases hexpand
    rw [get, SortedMap.get?_map, get]
    cases wiring.table.get? span <;> rfl

/-- An expanded wiring held at most one connection between two endpoints. -/
theorem length_le_one_of_expand_eq_ok {expanded : Wiring} (hexpand : wiring.expand = .ok expanded)
    (span : Span) : (wiring.get span).length ≤ 1 := by
  rw [expand] at hexpand
  split at hexpand
  · cases hexpand
  · rename_i hnone
    by_cases hempty : wiring.get span = []
    · simp [hempty]
    · have hentry := List.find?_eq_none.mp hnone _ (mem_entries_of_get_ne_nil hempty)
      simpa using hentry

end Wiring

end LabMatch
