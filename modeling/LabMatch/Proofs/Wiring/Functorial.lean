import LabMatch.Proofs.Wiring.Rows

/-!
# Renaming composes

Renaming the devices of a balanced wiring renames its entries one by one: the endpoints of an
entry, and both ends of the anchors in it.  So renaming every device to itself changes
nothing, and renaming twice is renaming once by both.

This takes that the renamings keep devices apart, as two entries that meet at one pair of
endpoints are not both kept.  It does not take that links join different devices.
-/

namespace LabMatch.Wiring

variable {wiring : Wiring} {newName nextName : DeviceId → Option DeviceId}

/-- No two devices get one name. -/
def KeepsApart (newName : DeviceId → Option DeviceId) : Prop :=
  ∀ device other name, newName device = some name → newName other = some name → device = other

def renameTwice (newName nextName : DeviceId → Option DeviceId) (device : DeviceId) :
    Option DeviceId :=
  (newName device).bind nextName

theorem keepsApart_some : KeepsApart some := by
  intro device other name hdevice hother
  exact Option.some.inj (hdevice.trans hother.symm)

theorem KeepsApart.renameTwice (hnew : KeepsApart newName) (hnext : KeepsApart nextName) :
    KeepsApart (renameTwice newName nextName) := by
  intro device other name hdevice hother
  obtain ⟨middle, hmiddle, hname⟩ := Option.bind_eq_some_iff.mp hdevice
  obtain ⟨middle', hmiddle', hname'⟩ := Option.bind_eq_some_iff.mp hother
  obtain rfl := hnext middle middle' name hname hname'
  exact hnew device other middle hmiddle hmiddle'

theorem KeepsApart.namesApart (hnew : KeepsApart newName) (wiring : Wiring) :
    wiring.NamesApart newName :=
  fun device other name _ _ => hnew device other name

/-! ## Renaming to the same names -/

theorem renameConnection_some (connection : Connection) :
    renameConnection some connection = connection := by
  obtain ⟨shape, anchor⟩ := connection
  cases anchor with
  | none => rfl
  | some anchor => rfl

theorem renamed?_some (entry : Span × List Connection) :
    renamed? some entry = some entry := by
  have hconnections : entry.2.map (renameConnection some) = entry.2 :=
    (List.map_congr_left fun connection _ => renameConnection_some connection).trans
      entry.2.map_id
  exact congrArg (fun connections => some (entry.1, connections)) hconnections

theorem IsBalanced.rename_some (hbalanced : wiring.IsBalanced) (hwiring : wiring.NoEmptyEntry) :
    wiring.rename some = wiring := by
  apply eq_of_perm
  calc
    List.Perm (wiring.rename some).entries (wiring.entries.filterMap (renamed? some)) :=
        hbalanced.perm_entries_rename hwiring (keepsApart_some.namesApart wiring)
    _ = wiring.entries := by
        rw [funext renamed?_some]
        exact List.filterMap_some

/-! ## Renaming twice -/

theorem renameSpan_renameTwice (span : Span) :
    renameSpan (renameTwice newName nextName) span =
      (renameSpan newName span).bind (renameSpan nextName) := by
  rw [renameSpan, renameSpan, renameTwice, renameTwice]
  cases newName span.source.device with
  | none => rfl
  | some source =>
    cases newName span.target.device with
    | none => exact Option.bind_fun_none (nextName source)
    | some target => rfl

theorem renameAnchor_renameTwice (anchor : Anchor) :
    renameAnchor (renameTwice newName nextName) anchor =
      (renameAnchor newName anchor).bind (renameAnchor nextName) := by
  rw [renameAnchor, renameSpan_renameTwice, renameAnchor]
  cases renameSpan newName anchor.toSpan <;> rfl

theorem renameConnection_renameTwice (connection : Connection) :
    renameConnection (renameTwice newName nextName) connection =
      renameConnection nextName (renameConnection newName connection) := by
  obtain ⟨shape, anchor⟩ := connection
  cases anchor with
  | none => rfl
  | some anchor => exact congrArg (Connection.mk shape) (renameAnchor_renameTwice anchor)

theorem renamed?_renameTwice (entry : Span × List Connection) :
    renamed? (renameTwice newName nextName) entry =
      (renamed? newName entry).bind (renamed? nextName) := by
  have hconnections : entry.2.map (renameConnection (renameTwice newName nextName)) =
      (entry.2.map (renameConnection newName)).map (renameConnection nextName) := by
    rw [List.map_map]
    exact List.map_congr_left fun connection _ => renameConnection_renameTwice connection
  rw [renamed?, renameSpan_renameTwice, hconnections, renamed?]
  cases renameSpan newName entry.1 <;> rfl

/-- Renaming twice is renaming once by both names. -/
theorem IsBalanced.rename_rename (hbalanced : wiring.IsBalanced) (hwiring : wiring.NoEmptyEntry)
    (hnew : KeepsApart newName) (hnext : KeepsApart nextName) :
    (wiring.rename newName).rename nextName = wiring.rename (renameTwice newName nextName) := by
  have hapart := hnew.namesApart wiring
  have hrenamed := hbalanced.rename hwiring hapart
  apply eq_of_perm
  calc
    List.Perm ((wiring.rename newName).rename nextName).entries
        ((wiring.rename newName).entries.filterMap (renamed? nextName)) :=
        hrenamed.perm_entries_rename (.rename wiring newName) (hnext.namesApart _)
    List.Perm _ ((wiring.entries.filterMap (renamed? newName)).filterMap
        (renamed? nextName)) :=
        (hbalanced.perm_entries_rename hwiring hapart).filterMap _
    _ = wiring.entries.filterMap (renamed? (renameTwice newName nextName)) := by
        rw [List.filterMap_filterMap, funext renamed?_renameTwice]
    List.Perm _ (wiring.rename (renameTwice newName nextName)).entries :=
        (hbalanced.perm_entries_rename hwiring ((hnew.renameTwice hnext).namesApart wiring)).symm

/-! ## The laws of renaming -/

/-- A renaming that keeps devices apart leaves a balanced wiring balanced.  It has one entry
for each of those whose devices both have a new name, at the renamed endpoints, with the same
connections at the renamed anchors.  Renaming every device to itself changes nothing, and
renaming twice is renaming once by both.  Rows in which nothing is empty are renamed as the
wiring that they make up. -/
theorem rename_functorial (hwiring : wiring.NoEmptyEntry) (hbalanced : wiring.IsBalanced)
    (hnew : KeepsApart newName) (hnext : KeepsApart nextName) :
    (wiring.rename newName).IsBalanced ∧
    (wiring.rename newName).entries.Perm (wiring.entries.filterMap (renamed? newName)) ∧
    wiring.rename some = wiring ∧
    (wiring.rename newName).rename nextName = wiring.rename (renameTwice newName nextName) ∧
    ∀ rows : Rows, rows.IsPruned → rows.flat = wiring →
      (rows.rename newName).flat = wiring.rename newName ∧
      rows.rename some = rows ∧
      (rows.rename newName).rename nextName = rows.rename (renameTwice newName nextName) := by
  have hapart := hnew.namesApart wiring
  have hsame := hbalanced.rename_some hwiring
  have htwice := hbalanced.rename_rename hwiring hnew hnext
  refine ⟨hbalanced.rename hwiring hapart, hbalanced.perm_entries_rename hwiring hapart, hsame,
    htwice, ?_⟩
  rintro rows hrows rfl
  refine ⟨rows.flat_rename newName, ?_, ?_⟩
  · apply (Rows.isPruned_rename rows some).eq_of_flat_eq hrows
    rw [Rows.flat_rename, hsame]
  · apply (Rows.isPruned_rename _ _).eq_of_flat_eq (Rows.isPruned_rename _ _)
    rw [Rows.flat_rename, Rows.flat_rename, Rows.flat_rename, htwice]

/-- A link between two nodes of a hub, a feed that only works from the hub towards a recorder,
and a link from the hub to a spare device. -/
def hubLinks : List (Span × Connection) :=
  let lan := Connection.ofTags (TagSet.ofList ["lan"])
  let feed : Span := ⟨⟨⟨0⟩, "n0"⟩, ⟨⟨1⟩, "n0"⟩⟩
  [(⟨⟨⟨0⟩, "n0"⟩, ⟨⟨0⟩, "n1"⟩⟩, lan), (feed, lan.withAnchor ⟨feed, true⟩),
    (⟨⟨⟨0⟩, "n1"⟩, ⟨⟨2⟩, "n0"⟩⟩, lan)]

def hubWiring : Wiring := hubLinks.foldl (fun wiring link => wiring.connect link.1 link.2) empty

def hubRows : Rows := hubLinks.foldl (fun rows link => rows.connect link.1 link.2) Rows.empty

theorem rename_functorial_hubWiring :
    let moveUp : DeviceId → Option DeviceId := fun device =>
      if device.index < 2 then some ⟨device.index + 5⟩ else none
    let swap : DeviceId → Option DeviceId := fun device =>
      if 5 ≤ device.index ∧ device.index ≤ 6 then some ⟨6 - device.index⟩ else none
    (hubWiring.rename moveUp).IsBalanced ∧ hubRows.rename some = hubRows ∧
      (hubRows.rename moveUp).rename swap = hubRows.rename (renameTwice moveUp swap) ∧
      (((hubRows.rename moveUp).rename swap).get ⟨⟨⟨0⟩, "n0"⟩, ⟨⟨1⟩, "n0"⟩⟩).map (·.anchor) =
        [some ⟨⟨⟨⟨1⟩, "n0"⟩, ⟨⟨0⟩, "n0"⟩⟩, true⟩] := by
  intro moveUp swap
  have hends : ∀ link ∈ hubLinks, link.1.flip ≠ link.1 := by decide
  have hwiring : hubWiring.NoEmptyEntry :=
    List.foldlRecOn hubLinks _ noEmptyEntry_empty fun _ hwiring _ _ => hwiring.connect _ _
  have hbalanced : hubWiring.IsBalanced :=
    List.foldlRecOn hubLinks _ isBalanced_empty fun _ hbalanced link hlink =>
      hbalanced.connect (hends link hlink) _
  have hmoveUp : KeepsApart moveUp := by
    rintro ⟨device⟩ ⟨other⟩ name hdevice hother
    grind
  have hswap : KeepsApart swap := by
    rintro ⟨device⟩ ⟨other⟩ name hdevice hother
    grind
  have hrows : hubRows.IsPruned :=
    List.foldlRecOn hubLinks _ Rows.isPruned_empty fun _ hrows _ _ => hrows.connect _ _
  have hflat : hubRows.flat = hubWiring :=
    (List.foldl_hom Rows.flat fun rows link => (rows.flat_connect link.1 link.2).symm).symm
  obtain ⟨hrenamed, -, -, -, hrename⟩ := rename_functorial hwiring hbalanced hmoveUp hswap
  obtain ⟨-, hsame, htwice⟩ := hrename hubRows hrows hflat
  exact ⟨hrenamed, hsame, htwice, by decide +kernel⟩

end LabMatch.Wiring
