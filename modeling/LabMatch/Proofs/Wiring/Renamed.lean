import LabMatch.Proofs.Wiring.Mirrored
import Mathlib.Data.List.Induction

/-!
# Renamed wirings

Renaming moves every entry to the renamed pair of endpoints.  As long as no two
devices of the wiring get one name, no two entries meet, so each renamed pair
holds exactly what the original pair held, and the wiring stays balanced and mirrored.

Which way an entry looks along a connection is told by a device in the anchor.  Between two
nodes of one device this tells nothing, but there both ends are renamed alike.  So every
anchor is renamed end by end.
-/

namespace LabMatch.Wiring

variable {wiring : Wiring} {newName : DeviceId → Option DeviceId}

def NoEmptyEntry (wiring : Wiring) : Prop := ∀ span, wiring.table.get? span ≠ some []

/-- The device is an end of some link. -/
def Mentions (wiring : Wiring) (device : DeviceId) : Prop :=
  ∃ span, wiring.get span ≠ [] ∧ (span.source.device = device ∨ span.target.device = device)

def NamesApart (wiring : Wiring) (newName : DeviceId → Option DeviceId) : Prop :=
  ∀ device other name, wiring.Mentions device → wiring.Mentions other →
    newName device = some name → newName other = some name → device = other

/-- The pair of endpoints with its devices renamed, if both have a new name. -/
def renameSpan (newName : DeviceId → Option DeviceId) (span : Span) : Option Span :=
  (newName span.source.device).bind fun source =>
    (newName span.target.device).map fun target =>
      ⟨⟨source, span.source.node⟩, ⟨target, span.target.node⟩⟩

def renameAnchor (newName : DeviceId → Option DeviceId) (anchor : Anchor) : Option Anchor :=
  (renameSpan newName anchor.toSpan).map fun span => ⟨span, anchor.oneWay⟩

def renameConnection (newName : DeviceId → Option DeviceId) (connection : Connection) :
    Connection :=
  { connection with anchor := connection.anchor.bind (renameAnchor newName) }

/-- The entry under the renamed pair of endpoints, if both have a new name. -/
def renamed? (newName : DeviceId → Option DeviceId) (entry : Span × List Connection) :
    Option (Span × List Connection) :=
  (renameSpan newName entry.1).map fun span => (span, entry.2.map (renameConnection newName))

/-! ## No empty entries -/

theorem noEmptyEntry_empty : empty.NoEmptyEntry := fun _ hempty => by cases hempty

theorem NoEmptyEntry.put (hwiring : wiring.NoEmptyEntry) (span : Span)
    (connections : List Connection) : (wiring.put span connections).NoEmptyEntry := by
  intro other
  rw [Wiring.put]
  by_cases hempty : connections.isEmpty
  · rw [if_pos hempty, SortedMap.get?_erase]
    by_cases hsame : other = span
    · simp [hsame]
    · rw [if_neg hsame]
      exact hwiring other
  · rw [if_neg hempty, SortedMap.get?_insert]
    by_cases hsame : other = span
    · rw [if_pos hsame]
      intro hstored
      cases hstored
      exact hempty rfl
    · rw [if_neg hsame]
      exact hwiring other

theorem NoEmptyEntry.connect (hwiring : wiring.NoEmptyEntry) (span : Span)
    (connection : Connection) : (wiring.connect span connection).NoEmptyEntry :=
  (hwiring.put _ _).put _ _

theorem NoEmptyEntry.get_ne_nil (hwiring : wiring.NoEmptyEntry)
    {entry : Span × List Connection} (hentry : entry ∈ wiring.entries) :
    wiring.get entry.1 ≠ [] := by
  intro hempty
  apply hwiring entry.1
  rw [(wiring.table.get?_eq_some_iff entry.1 entry.2).mpr hentry, ← hempty,
    get_of_mem_entries hentry]

/-! ## Entries that meet -/

def renameEntry (newName : DeviceId → Option DeviceId) (renamed : Wiring)
    (entry : Span × List Connection) : Wiring :=
  match renameSpan newName entry.1 with
  | some span =>
    renamed.put span (entry.2.map (moveConnection entry.1 span.source.device span.target.device))
  | none => renamed

theorem rename_eq (wiring : Wiring) (newName : DeviceId → Option DeviceId) :
    wiring.rename newName = wiring.entries.foldl (renameEntry newName) empty := by
  rw [rename]
  congr 1
  funext renamed entry
  rw [renameEntry, renameSpan]
  cases newName entry.1.source.device with
  | none => rfl
  | some source =>
    cases newName entry.1.target.device with
    | none => rfl
    | some target => rfl

/-- A renamed wiring has no empty entries, even if the given one has. -/
theorem NoEmptyEntry.rename (wiring : Wiring) (newName : DeviceId → Option DeviceId) :
    (wiring.rename newName).NoEmptyEntry := by
  rw [rename_eq]
  induction wiring.entries using List.reverseRecOn with
  | nil => exact noEmptyEntry_empty
  | append_singleton earlier entry ih =>
    rw [List.foldl_concat, renameEntry]
    cases renameSpan newName entry.1 with
    | none => exact ih
    | some span => exact ih.put _ _

/-- Where no entry is moved to, nothing is stored. -/
theorem get_foldl_renameEntry_eq_nil {entries : List (Span × List Connection)} {span : Span}
    (hnone : ∀ entry ∈ entries, renameSpan newName entry.1 ≠ some span) :
    (entries.foldl (renameEntry newName) empty).get span = [] := by
  induction entries using List.reverseRecOn with
  | nil => rfl
  | append_singleton earlier entry ih =>
    rw [List.forall_mem_append, List.forall_mem_singleton] at hnone
    rw [List.foldl_concat, renameEntry]
    cases hrenamed : renameSpan newName entry.1 with
    | none => exact ih hnone.1
    | some other =>
      dsimp only
      rw [get_put, if_neg fun hsame => hnone.2 (by rw [hrenamed, hsame])]
      exact ih hnone.1

/-- Where one entry is moved to, its connections are stored. -/
theorem get_foldl_renameEntry {entries : List (Span × List Connection)}
    {entry : Span × List Connection} {span : Span} (hentry : entry ∈ entries)
    (hrenamed : renameSpan newName entry.1 = some span)
    (halone : ∀ other ∈ entries, renameSpan newName other.1 = some span → other = entry) :
    (entries.foldl (renameEntry newName) empty).get span =
      entry.2.map (moveConnection entry.1 span.source.device span.target.device) := by
  induction entries using List.reverseRecOn with
  | nil => cases hentry
  | append_singleton earlier last ih =>
    rw [List.forall_mem_append, List.forall_mem_singleton] at halone
    rw [List.foldl_concat, renameEntry]
    by_cases hlast : renameSpan newName last.1 = some span
    · rw [hlast]
      dsimp only
      rw [get_put, if_pos rfl, halone.2 hlast]
    · have hearlier : entry ∈ earlier := by
        cases List.mem_append.mp hentry with
        | inl hmem => exact hmem
        | inr hmem =>
          rw [List.mem_singleton.mp hmem] at hrenamed
          exact absurd hrenamed hlast
      have hbefore := ih hearlier halone.1
      cases hother : renameSpan newName last.1 with
      | none => exact hbefore
      | some other =>
        dsimp only
        rw [get_put, if_neg fun hsame => hlast (by rw [hother, hsame])]
        exact hbefore

/-! ## Renaming apart -/

/-- A pair of endpoints is renamed node by node, if both devices have a new name. -/
theorem renameSpan_eq_some {span renamed : Span} :
    renameSpan newName span = some renamed ↔
      newName span.source.device = some renamed.source.device ∧
        newName span.target.device = some renamed.target.device ∧
        span.source.node = renamed.source.node ∧ span.target.node = renamed.target.node := by
  obtain ⟨⟨source, node⟩, ⟨target, node'⟩⟩ := renamed
  simp only [renameSpan, Option.bind_eq_some_iff, Option.map_eq_some_iff, Span.mk.injEq,
    Endpoint.mk.injEq]
  grind

theorem renameSpan_flip (span : Span) :
    renameSpan newName span.flip = (renameSpan newName span).map Span.flip := by
  rw [renameSpan, renameSpan, Span.flip]
  cases newName span.source.device with
  | none => cases newName span.target.device <;> rfl
  | some source => cases newName span.target.device <;> rfl

theorem mentions_source {span : Span} (hne : wiring.get span ≠ []) :
    wiring.Mentions span.source.device := ⟨span, hne, Or.inl rfl⟩

theorem mentions_target {span : Span} (hne : wiring.get span ≠ []) :
    wiring.Mentions span.target.device := ⟨span, hne, Or.inr rfl⟩

/-- Different linked pairs are not renamed to the same pair. -/
theorem NamesApart.span_eq (hapart : wiring.NamesApart newName) {span other renamed : Span}
    (hspan : wiring.get span ≠ []) (hother : wiring.get other ≠ [])
    (hrenamed : renameSpan newName span = some renamed)
    (hrenamed' : renameSpan newName other = some renamed) : span = other := by
  rw [renameSpan_eq_some] at hrenamed hrenamed'
  have hsource := hapart _ _ _ (mentions_source hspan) (mentions_source hother) hrenamed.1
    hrenamed'.1
  have htarget := hapart _ _ _ (mentions_target hspan) (mentions_target hother) hrenamed.2.1
    hrenamed'.2.1
  obtain ⟨⟨source, node⟩, ⟨target, node'⟩⟩ := span
  obtain ⟨⟨source', mode⟩, ⟨target', mode'⟩⟩ := other
  simp_all

/-- Every renamed pair of endpoints holds what the original pair held. -/
theorem get_rename (hwiring : wiring.NoEmptyEntry) (hapart : wiring.NamesApart newName)
    {span renamed : Span} (hne : wiring.get span ≠ [])
    (hrenamed : renameSpan newName span = some renamed) :
    (wiring.rename newName).get renamed =
      (wiring.get span).map
        (moveConnection span renamed.source.device renamed.target.device) := by
  rw [rename_eq]
  have hentry := mem_entries_of_get_ne_nil hne
  apply get_foldl_renameEntry hentry hrenamed
  intro other hother hrenamed'
  have hspan := hapart.span_eq (hwiring.get_ne_nil hother) hne hrenamed' hrenamed
  apply Prod.ext
  · exact hspan
  · rw [← get_of_mem_entries hother, hspan]

/-- A renamed wiring holds nothing else. -/
theorem exists_of_get_rename_ne_nil (hwiring : wiring.NoEmptyEntry) {renamed : Span}
    (hne : (wiring.rename newName).get renamed ≠ []) :
    ∃ span, wiring.get span ≠ [] ∧ renameSpan newName span = some renamed := by
  by_contra hnone
  apply hne
  rw [rename_eq]
  apply get_foldl_renameEntry_eq_nil
  intro entry hentry hrenamed
  exact hnone ⟨entry.1, hwiring.get_ne_nil hentry, hrenamed⟩

/-! ## Renamed connections -/

variable {span renamed : Span} {connection : Connection}

/-- The way along a connection is found again, whichever way its entry looks. -/
theorem moveConnection_eq (hrenamed : renameSpan newName span = some renamed)
    (hanchored : connection.AnchoredAt span) :
    moveConnection span renamed.source.device renamed.target.device connection =
      renameConnection newName connection := by
  obtain ⟨shape, anchor⟩ := connection
  obtain ⟨⟨ends, oneWay⟩, rfl, hends⟩ := hanchored
  obtain ⟨hsource, htarget, hnode, hnode'⟩ := renameSpan_eq_some.mp hrenamed
  rw [moveConnection, renameConnection, Option.bind_some, renameAnchor]
  dsimp only at hends ⊢
  rcases hends with rfl | ⟨-, rfl⟩
  · rw [hrenamed, hnode, hnode']
    by_cases hdevices : ends.source.device = ends.target.device
    · -- within one device the entry is taken to look backwards, to the same effect
      obtain ⟨⟨device, node⟩, ⟨device', node'⟩⟩ := renamed
      obtain rfl : device = device' := by
        rw [hdevices, htarget] at hsource
        exact (Option.some.inj hsource).symm
      rw [if_pos hdevices]
      rfl
    · rw [if_neg hdevices]
      rfl
  · rw [renameSpan_flip, hrenamed, Span.flip, if_pos rfl, hnode, hnode']
    rfl

/-- Renaming a connection commutes with looking at it from the far end. -/
theorem renameConnection_farCopy (connection : Connection) :
    renameConnection newName connection.farCopy =
      (renameConnection newName connection).farCopy := by
  obtain ⟨shape, anchor⟩ := connection
  cases anchor with
  | none => rfl
  | some anchor =>
    obtain ⟨span, oneWay⟩ := anchor
    cases oneWay with
    | true =>
      change renameConnection newName ⟨shape, some ⟨span, true⟩⟩ = _
      rw [renameConnection, Option.bind_some, renameAnchor]
      cases renameSpan newName span <;> rfl
    | false =>
      change renameConnection newName ⟨shape, some ⟨span.flip, false⟩⟩ = _
      rw [renameConnection, renameConnection, Option.bind_some, Option.bind_some, renameAnchor,
        renameAnchor, renameSpan_flip]
      cases renameSpan newName span <;> rfl

/-- A renamed connection is anchored at the renamed endpoints. -/
theorem anchoredAt_renameConnection (hrenamed : renameSpan newName span = some renamed)
    (hanchored : connection.AnchoredAt span) :
    (renameConnection newName connection).AnchoredAt renamed := by
  obtain ⟨⟨_, oneWay⟩, hanchor, rfl | ⟨honeWay, rfl⟩⟩ := hanchored
  · refine ⟨⟨renamed, oneWay⟩, ?_, Or.inl rfl⟩
    rw [renameConnection, hanchor, Option.bind_some, renameAnchor, hrenamed]
    rfl
  · refine ⟨⟨renamed.flip, oneWay⟩, ?_, Or.inr ⟨honeWay, rfl⟩⟩
    rw [renameConnection, hanchor, Option.bind_some, renameAnchor, renameSpan_flip, hrenamed]
    rfl

/-! ## Renamed wirings -/

/-- Under the renamed endpoints stand the renamed connections. -/
theorem IsBalanced.get_rename (hbalanced : wiring.IsBalanced) (hwiring : wiring.NoEmptyEntry)
    (hapart : wiring.NamesApart newName) (hne : wiring.get span ≠ [])
    (hrenamed : renameSpan newName span = some renamed) :
    (wiring.rename newName).get renamed = (wiring.get span).map (renameConnection newName) := by
  rw [Wiring.get_rename hwiring hapart hne hrenamed]
  apply List.map_congr_left
  intro connection hconnection
  exact moveConnection_eq hrenamed (hbalanced.anchored span connection hconnection)

/-- Renaming the devices apart keeps a wiring balanced. -/
theorem IsBalanced.rename (hbalanced : wiring.IsBalanced) (hwiring : wiring.NoEmptyEntry)
    (hapart : wiring.NamesApart newName) : (wiring.rename newName).IsBalanced := by
  have hflip : ∀ renamed, (wiring.rename newName).get renamed ≠ [] →
      (wiring.rename newName).get renamed.flip =
        ((wiring.rename newName).get renamed).map Connection.farCopy := by
    intro renamed hne
    obtain ⟨span, hspan, hrenamed⟩ := exists_of_get_rename_ne_nil hwiring hne
    rw [hbalanced.get_rename hwiring hapart hspan hrenamed,
      hbalanced.get_rename hwiring hapart (hbalanced.get_flip_ne_nil hspan)
        ((renameSpan_flip span).trans (congrArg _ hrenamed)),
      hbalanced.mirrored, List.map_map, List.map_map]
    exact List.map_congr_left fun connection _ => renameConnection_farCopy connection
  constructor
  · intro renamed
    by_cases hempty : (wiring.rename newName).get renamed = []
    · rw [hempty]
      by_contra hne
      have hback := hflip renamed.flip hne
      rw [Span.flip_flip, hempty] at hback
      exact hne (List.map_eq_nil_iff.mp hback.symm)
    · exact hflip renamed hempty
  · intro renamed link hlink
    obtain ⟨span, hspan, hrenamed⟩ := exists_of_get_rename_ne_nil hwiring
      (List.ne_nil_of_mem hlink)
    rw [hbalanced.get_rename hwiring hapart hspan hrenamed] at hlink
    obtain ⟨connection, hconnection, rfl⟩ := List.mem_map.mp hlink
    exact anchoredAt_renameConnection hrenamed (hbalanced.anchored span connection hconnection)

/-- Renaming the devices apart keeps a wiring mirrored. -/
theorem IsMirrored.rename (hmirrored : wiring.IsMirrored) (hwiring : wiring.NoEmptyEntry)
    (hapart : wiring.NamesApart newName) : (wiring.rename newName).IsMirrored := by
  have hbalanced := hmirrored.isBalanced.rename hwiring hapart
  refine ⟨hbalanced.mirrored, hbalanced.anchored, fun renamed hne hsame => ?_⟩
  obtain ⟨span, hspan, hrenamed⟩ := exists_of_get_rename_ne_nil hwiring hne
  obtain ⟨hsource, htarget, -⟩ := renameSpan_eq_some.mp hrenamed
  apply hmirrored.distinct span hspan
  exact hapart _ _ _ (mentions_source hspan) (mentions_target hspan) hsource (hsame ▸ htarget)

/-- No two entries of a renamed wiring come together. -/
theorem NamesApart.nodup_renamedEntries (hapart : wiring.NamesApart newName)
    (hwiring : wiring.NoEmptyEntry) :
    (wiring.entries.filterMap (renamed? newName)).Nodup := by
  rw [List.Nodup, List.pairwise_filterMap]
  apply List.Pairwise.imp_of_mem _ wiring.table.ascending
  intro entry other hentry hother hbefore moved hmoved moved' hmoved' hsame
  obtain ⟨span, hspan, rfl⟩ := Option.map_eq_some_iff.mp hmoved
  obtain ⟨span', hspan', rfl⟩ := Option.map_eq_some_iff.mp hmoved'
  obtain ⟨rfl, -⟩ := Prod.mk.inj hsame
  exact KeyOrder.ne_of_lt hbefore
    (hapart.span_eq (hwiring.get_ne_nil hentry) (hwiring.get_ne_nil hother) hspan hspan')

/-- Renaming the devices of a wiring apart renames its entries, one by one. -/
theorem IsBalanced.perm_entries_rename (hbalanced : wiring.IsBalanced)
    (hwiring : wiring.NoEmptyEntry) (hapart : wiring.NamesApart newName) :
    (wiring.rename newName).entries.Perm (wiring.entries.filterMap (renamed? newName)) := by
  apply (List.perm_ext_iff_of_nodup (wiring.rename newName).table.nodup_entries
    (hapart.nodup_renamedEntries hwiring)).mpr
  intro entry
  rw [List.mem_filterMap]
  constructor
  · intro hentry
    obtain ⟨span, hne, hspan⟩ := exists_of_get_rename_ne_nil hwiring
      ((NoEmptyEntry.rename wiring newName).get_ne_nil hentry)
    refine ⟨_, mem_entries_of_get_ne_nil hne, ?_⟩
    rw [renamed?, hspan, Option.map_some, ← hbalanced.get_rename hwiring hapart hne hspan,
      get_of_mem_entries hentry]
  · rintro ⟨origin, horigin, hmoved⟩
    obtain ⟨span, hspan, rfl⟩ := Option.map_eq_some_iff.mp hmoved
    have hne := hwiring.get_ne_nil horigin
    have hget := hbalanced.get_rename hwiring hapart hne hspan
    have hkept : (wiring.rename newName).get span ≠ [] := by
      rw [hget]
      simpa using hne
    have hentry := mem_entries_of_get_ne_nil hkept
    rwa [hget, get_of_mem_entries horigin] at hentry

end LabMatch.Wiring
