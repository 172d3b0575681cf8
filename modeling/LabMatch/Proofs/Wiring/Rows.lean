import LabMatch.Proofs.Ordered.Nested
import LabMatch.Proofs.Wiring.Attached

/-!
# Rows keep nothing empty

Whatever is stored in rows, removed from them, split or renamed, no list and no map in them is
left empty.  So a device has a row exactly if some link leaves it, and there are no rows
exactly if there are no links.

Flattened, the rows are a wiring.  Every operation on rows does to the flattened rows what
the operation of the same name does to a wiring, so both answer every question alike.
-/

namespace LabMatch

namespace Rows

open SortedMap

variable {rows : Rows} {span other : Span}

/-! ## Places -/

/-- The parts of an ordered pair of endpoints, from the outermost map to the innermost. -/
def placeOf (span : Span) : DeviceId × String × DeviceId × String :=
  (span.source.device, span.source.node, span.target.device, span.target.node)

def spanAt (place : DeviceId × String × DeviceId × String) : Span :=
  ⟨⟨place.1, place.2.1⟩, ⟨place.2.2.1, place.2.2.2⟩⟩

theorem placeOf_inj : placeOf other = placeOf span ↔ other = span := by
  constructor
  · intro hsame
    have hspan : spanAt (placeOf other) = spanAt (placeOf span) := by rw [hsame]
    exact hspan
  · rintro rfl
    rfl

theorem find?_eq (rows : Rows) (span : Span) :
    rows.find? span = lookIn (lookIn (lookIn SortedMap.get?)) rows.table (placeOf span) := rfl

theorem entries_eq (rows : Rows) :
    rows.entries = (listIn (listIn (listIn SortedMap.entries)) rows.table).map fun found =>
      (spanAt found.1, found.2) := by
  simp only [entries, listIn, List.map_flatMap, List.map_map]
  rfl

/-- The entries are what is found. -/
theorem mem_entries_iff {connections : List Connection} :
    (span, connections) ∈ rows.entries ↔ rows.find? span = some connections := by
  have hlisted := mem_listIn_iff (mem_listIn_iff (mem_listIn_iff
    fun (peerNodes : PeerNodes) node connections =>
      (get?_eq_some_iff peerNodes node connections).symm)) rows.table (placeOf span) connections
  rw [find?_eq, ← hlisted, entries_eq, List.mem_map]
  constructor
  · rintro ⟨found, hfound, ⟨⟩⟩
    exact hfound
  · intro hfound
    exact ⟨_, hfound, rfl⟩

/-- Entries ascend by source and then by target, each of them by device and then by node. -/
theorem ascending_entries (rows : Rows) :
    rows.entries.Pairwise fun earlier later => earlier.1 < later.1 := by
  rw [entries_eq, List.pairwise_map]
  apply (pairwise_listIn (pairwise_listIn (pairwise_listIn
    fun peerNodes : PeerNodes => peerNodes.ascending)) rows.table).imp
  rintro ⟨⟨device, node, peer, peerNode⟩, connections⟩
    ⟨⟨device', node', peer', peerNode'⟩, connections'⟩ hbefore
  simp only [Prod.lex_def] at hbefore
  rcases hbefore with hdevice | ⟨rfl, hnode | ⟨rfl, hpeer | ⟨rfl, hpeerNode⟩⟩⟩
  · exact Or.inl (Or.inl hdevice)
  · exact Or.inl (Or.inr ⟨rfl, hnode⟩)
  · exact Or.inr ⟨rfl, Or.inl hpeer⟩
  · exact Or.inr ⟨rfl, Or.inr ⟨rfl, hpeerNode⟩⟩

/-! ## Finding lists again -/

/-- What a change does at a place of the table it does to the pair of endpoints. -/
theorem changesAt_of_table {change : Rows → Rows}
    {becomes : Option (List Connection) → Option (List Connection)}
    (htable : ChangesAt (lookIn (lookIn (lookIn SortedMap.get?)))
      (fun table => (change ⟨table⟩).table) (placeOf span) becomes) :
    ChangesAt find? change span becomes := by
  intro rows other
  have hfound := htable rows.table (placeOf other)
  by_cases hsame : other = span
  · rw [if_pos (placeOf_inj.mpr hsame)] at hfound
    rw [if_pos hsame]
    exact hfound
  · rw [if_neg (mt placeOf_inj.mp hsame)] at hfound
    rw [if_neg hsame]
    exact hfound

theorem changesAt_update (span : Span) (change : List Connection → List Connection) :
    ChangesAt find? (fun rows => rows.update span change) span
      fun found => some (change (found.getD [])) := by
  have hpeerNodes := changesAt_upsert span.target.node change
  have hpeers := hpeerNodes.upsert (fun _ => rfl) span.target.device
  have hnodes := hpeers.upsert (fun _ => rfl) span.source.node
  exact changesAt_of_table (hnodes.upsert (fun _ => rfl) span.source.device)

theorem changesAt_remove (span : Span) :
    ChangesAt find? (fun rows => rows.remove span) span fun _ => none := by
  have hpeerNodes : ChangesAt SortedMap.get?
      (fun peerNodes : PeerNodes => peerNodes.erase span.target.node) span.target.node
        fun _ => none :=
    changesAt_erase span.target.node
  have hpeers := hpeerNodes.prune (fun _ => get?_of_isEmpty) rfl span.target.device
  have hnodes := hpeers.prune (fun _ => lookIn_of_isEmpty) rfl span.source.node
  exact changesAt_of_table (hnodes.prune (fun _ => lookIn_of_isEmpty) rfl span.source.device)

/-- Replacing a list removes it if nothing is left, and changes no other list. -/
theorem find?_put (rows : Rows) (span other : Span) (connections : List Connection) :
    (rows.put span connections).find? other =
      if other = span then (if connections.isEmpty then none else some connections)
      else rows.find? other := by
  rw [put]
  split
  · exact changesAt_remove span rows other
  · exact changesAt_update span (fun _ => connections) rows other

/-! ## Nothing is empty -/

/-- No row, map of peers, map of peer nodes or list of connections is empty. -/
def IsPruned (rows : Rows) : Prop :=
  ∀ row ∈ rows.table.entries, row.2.entries ≠ [] ∧
    ∀ node ∈ row.2.entries, node.2.entries ≠ [] ∧
      ∀ peer ∈ node.2.entries, peer.2.entries ≠ [] ∧
        ∀ peerNode ∈ peer.2.entries, peerNode.2 ≠ []

/-- Rows are pruned if every map in them is filled, down to the lists. -/
theorem isPruned_iff :
    rows.IsPruned ↔
      rows.table.Each (Filled (Filled (Filled fun connections => connections ≠ []))) :=
  Iff.rfl

theorem isPruned_empty : empty.IsPruned := isPruned_iff.mpr (each_empty _)

theorem IsPruned.update (hrows : rows.IsPruned) (span : Span)
    {change : List Connection → List Connection}
    (hchange : ∀ connections, change connections ≠ []) :
    (rows.update span change).IsPruned := by
  refine ((isPruned_iff.mp hrows).upsert _ fun nodes hnodes => ?_).2
  refine (each_of_eq_default_or_filled hnodes).upsert _ fun peers hpeers => ?_
  refine (each_of_eq_default_or_filled hpeers).upsert _ fun peerNodes hpeerNodes => ?_
  refine (each_of_eq_default_or_filled hpeerNodes).upsert _ fun connections _ => ?_
  exact hchange connections

theorem IsPruned.remove (hrows : rows.IsPruned) (span : Span) : (rows.remove span).IsPruned := by
  refine (isPruned_iff.mp hrows).prune _ fun nodes hnodes => ?_
  refine hnodes.prune _ fun peers hpeers => ?_
  refine hpeers.prune _ fun peerNodes hpeerNodes => ?_
  exact hpeerNodes.erase _

theorem IsPruned.put (hrows : rows.IsPruned) (span : Span) (connections : List Connection) :
    (rows.put span connections).IsPruned := by
  rw [Rows.put]
  split
  · exact hrows.remove span
  · rename_i hsome
    exact hrows.update span fun _ => mt List.isEmpty_iff.mpr hsome

theorem IsPruned.push (hrows : rows.IsPruned) (span : Span) (connection : Connection) :
    (rows.push span connection).IsPruned :=
  hrows.update span fun _ => List.concat_ne_nil _ _

theorem IsPruned.connect (hrows : rows.IsPruned) (span : Span) (connection : Connection) :
    (rows.connect span connection).IsPruned :=
  (hrows.push _ _).push _ _

/-! ## Answers about pruned rows -/

theorem IsPruned.connections_ne_nil (hrows : rows.IsPruned) {entry : Span × List Connection}
    (hentry : entry ∈ rows.entries) : entry.2 ≠ [] := by
  obtain ⟨row, hrow, hentry⟩ := List.mem_flatMap.mp hentry
  obtain ⟨node, hnode, hentry⟩ := List.mem_flatMap.mp hentry
  obtain ⟨peer, hpeer, hentry⟩ := List.mem_flatMap.mp hentry
  obtain ⟨peerNode, hpeerNode, rfl⟩ := List.mem_map.mp hentry
  exact (((hrows row hrow).2 node hnode).2 peer hpeer).2 peerNode hpeerNode

/-- Every node in every row is listed with some link. -/
theorem IsPruned.filled_nodes (hrows : rows.IsPruned) :
    rows.table.Each fun nodes =>
      nodes.Filled fun peers => listIn SortedMap.entries peers ≠ [] := by
  intro row hrow
  refine ⟨(hrows row hrow).1, fun node hnode => Filled.listIn_ne_nil ?_⟩
  exact ⟨((hrows row hrow).2 node hnode).1, fun peer hpeer =>
    (((hrows row hrow).2 node hnode).2 peer hpeer).1⟩

theorem IsPruned.hasDevice_iff (hrows : rows.IsPruned) {device : DeviceId} :
    rows.hasDevice device = true ↔ ∃ entry ∈ rows.entries, entry.1.source.device = device := by
  have hlisted := isSome_get?_iff_listIn
    (fun row hrow => (hrows.filled_nodes row hrow).listIn_ne_nil) device
  rw [hasDevice, hlisted, entries_eq]
  simp only [List.mem_map]
  constructor
  · rintro ⟨found, hfound, hdevice⟩
    exact ⟨_, ⟨found, hfound, rfl⟩, hdevice⟩
  · rintro ⟨_, ⟨found, hfound, rfl⟩, hdevice⟩
    exact ⟨found, hfound, hdevice⟩

theorem IsPruned.mem_nodes_iff (hrows : rows.IsPruned) {endpoint : Endpoint} :
    endpoint.node ∈ rows.nodes endpoint.device ↔
      ∃ entry ∈ rows.entries, entry.1.source = endpoint := by
  rw [nodes]
  cases hrow : rows.table.get? endpoint.device with
  | none =>
    refine iff_of_false List.not_mem_nil ?_
    rintro ⟨entry, hentry, rfl⟩
    have hfound := mem_entries_iff.mp hentry
    rw [find?, hrow] at hfound
    cases hfound
  | some nodes =>
    have hlisted := mem_listIn_iff (mem_listIn_iff fun (peerNodes : PeerNodes) node connections =>
      (get?_eq_some_iff peerNodes node connections).symm) nodes
    have hfilled := (hrows.filled_nodes.of_get? hrow).2
    refine mem_keys_iff.trans ((isSome_get?_iff_listIn hfilled _).trans ?_)
    constructor
    · rintro ⟨⟨place, connections⟩, hfound, hnode⟩
      refine ⟨(⟨endpoint, ⟨place.2.1, place.2.2⟩⟩, connections), mem_entries_iff.mpr ?_, rfl⟩
      rw [find?, hrow]
      rw [hlisted, lookIn, hnode] at hfound
      exact hfound
    · rintro ⟨⟨span, connections⟩, hentry, rfl⟩
      have hfound := mem_entries_iff.mp hentry
      rw [find?, hrow] at hfound
      exact ⟨((span.source.node, span.target.device, span.target.node), connections),
        (hlisted _ _).mpr hfound, rfl⟩

theorem isAscending_nodes (rows : Rows) (device : DeviceId) :
    Ascending.IsAscending (rows.nodes device) := by
  rw [nodes]
  cases rows.table.get? device with
  | none => exact List.Pairwise.nil
  | some nodes => exact isAscending_keys nodes

theorem IsPruned.entries_eq_nil_iff (hrows : rows.IsPruned) :
    rows.entries = [] ↔ rows.isEmpty = true := by
  rw [isEmpty, SortedMap.isEmpty, List.isEmpty_iff, entries_eq, List.map_eq_nil_iff]
  constructor
  · intro hnone
    by_contra hsome
    have hfilled : rows.table.Filled fun nodes => listIn (listIn SortedMap.entries) nodes ≠ [] :=
      ⟨hsome, fun row hrow => (hrows.filled_nodes row hrow).listIn_ne_nil⟩
    exact hfilled.listIn_ne_nil hnone
  · intro hnone
    rw [listIn, hnone, List.flatMap_nil]

theorem foldl_length_eq_zero_iff (entries : List (Span × List Connection)) (count : Nat) :
    entries.foldl (fun count entry => count + entry.2.length) count = 0 ↔
      count = 0 ∧ ∀ entry ∈ entries, entry.2 = [] := by
  induction entries generalizing count with
  | nil => simp
  | cons entry others ih =>
    rw [List.foldl_cons, ih, Nat.add_eq_zero_iff, List.length_eq_zero_iff, List.forall_mem_cons,
      and_assoc]

/-- Every entry counts. -/
theorem IsPruned.size_eq_zero_iff (hrows : rows.IsPruned) :
    rows.size = 0 ↔ rows.isEmpty = true := by
  rw [← hrows.entries_eq_nil_iff, size, foldl_length_eq_zero_iff, List.eq_nil_iff_forall_not_mem]
  constructor
  · rintro ⟨-, hnone⟩ entry hentry
    exact hrows.connections_ne_nil hentry (hnone entry hentry)
  · intro hnone
    exact ⟨rfl, fun entry hentry => absurd hentry (hnone entry)⟩

/-! ## Flattened rows -/

def flat (rows : Rows) : Wiring := ⟨⟨rows.entries, rows.ascending_entries⟩⟩

/-- The flat wiring holds the lists that are found in the rows. -/
theorem get?_flat (rows : Rows) (span : Span) : rows.flat.table.get? span = rows.find? span := by
  apply Option.ext
  intro connections
  rw [SortedMap.get?_eq_some_iff]
  exact mem_entries_iff

theorem get_flat (rows : Rows) (span : Span) : rows.flat.get span = rows.get span := by
  rw [Wiring.get, get?_flat, get]

/-- A wiring in which the same is found is the flattened one. -/
theorem flat_eq_of_find? {wiring : Wiring}
    (hfound : ∀ span, rows.find? span = wiring.table.get? span) : rows.flat = wiring := by
  have htable : rows.flat.table = wiring.table := by
    apply SortedMap.ext_get?
    intro span
    rw [get?_flat, hfound]
  exact congrArg Wiring.mk htable

/-- Rows in which nothing is empty are told apart by their links. -/
theorem IsPruned.eq_of_flat_eq {rows' : Rows} (hrows : rows.IsPruned) (hrows' : rows'.IsPruned)
    (hflat : rows.flat = rows'.flat) : rows = rows' := by
  have hsame : ∀ span, rows.find? span = rows'.find? span := by
    intro span
    rw [← get?_flat, hflat, get?_flat]
  have hpeers : Determines (lookIn SortedMap.get? : PeerMap → _) _ :=
    (determines_get? fun connections => connections ≠ []).lookIn
  have hnodes : Determines (lookIn (lookIn SortedMap.get?) : NodeMap → _) _ := hpeers.lookIn
  have htable : rows.table = rows'.table :=
    hnodes.eq_of_lookIn (isPruned_iff.mp hrows) (isPruned_iff.mp hrows') fun place =>
      hsame (spanAt place)
  exact congrArg Rows.mk htable

theorem flat_empty : empty.flat = Wiring.empty := rfl

theorem flat_put (rows : Rows) (span : Span) (connections : List Connection) :
    (rows.put span connections).flat = rows.flat.put span connections := by
  apply flat_eq_of_find?
  intro other
  rw [find?_put, Wiring.put]
  by_cases hnone : connections.isEmpty
  · rw [if_pos hnone, if_pos hnone, SortedMap.get?_erase, get?_flat]
  · rw [if_neg hnone, if_neg hnone, SortedMap.get?_insert, get?_flat]

theorem flat_push (rows : Rows) (span : Span) (connection : Connection) :
    (rows.push span connection).flat = rows.flat.append span connection := by
  apply flat_eq_of_find?
  intro other
  have hsome : ¬ (rows.get span ++ [connection]).isEmpty := by simp
  have hfound := changesAt_update span (fun connections => connections ++ [connection]) rows other
  rw [Wiring.append, get_flat, Wiring.put, if_neg hsome, SortedMap.get?_insert, get?_flat]
  apply hfound.trans
  by_cases hsame : other = span
  · rw [if_pos hsame, if_pos hsame, hsame]
    rfl
  · rw [if_neg hsame, if_neg hsame]

/-- Connecting commutes with flattening. -/
theorem flat_connect (rows : Rows) (span : Span) (connection : Connection) :
    (rows.connect span connection).flat = rows.flat.connect span connection := by
  rw [connect, Wiring.connect, flat_push, flat_push]

theorem flat_putBoth (rows : Rows) (span : Span) (connections : List Connection) :
    (rows.putBoth span connections).flat = rows.flat.putBoth span connections := by
  rw [putBoth, Wiring.putBoth, flat_put, flat_put]

theorem flat_rename (rows : Rows) (newName : DeviceId → Option DeviceId) :
    (rows.rename newName).flat = rows.flat.rename newName := by
  rw [rename, Wiring.rename, ← flat_empty]
  symm
  apply List.foldl_hom
  intro renamed entry
  cases newName entry.1.source.device with
  | none => rfl
  | some source =>
    cases newName entry.1.target.device with
    | none => rfl
    | some target => exact (flat_put _ _ _).symm

/-- The rows with another entry split into its links. -/
def putLinks (expanded : Rows) (entry : Span × List Connection) : Rows :=
  expanded.put entry.1 (entry.2.flatMap Connection.links)

theorem foldlM_expandEntry (entries : List (Span × List Connection)) (expanded : Rows) :
    entries.foldlM expandEntry expanded =
      match entries.find? fun entry => 1 < entry.2.length with
      | some entry => .error (.duplicateLink entry.1.source entry.1.target)
      | none => .ok (entries.foldl putLinks expanded) := by
  induction entries generalizing expanded with
  | nil => rfl
  | cons entry others ih =>
    rw [List.foldlM_cons, expandEntry]
    by_cases hseveral : 1 < entry.2.length
    · rw [if_pos hseveral, List.find?_cons_of_pos (by simpa using hseveral)]
      rfl
    · rw [if_neg hseveral, List.find?_cons_of_neg (by simpa using hseveral)]
      exact ih _

/-- What is split and stored again, under pairs of endpoints of their own. -/
theorem find?_foldl_putLinks {entries : List (Span × List Connection)}
    (hentries : ∀ entry ∈ entries, entry.2 ≠ []) (span : Span) :
    (entries.foldl putLinks empty).find? span =
      (SortedMap.ofList (entries.map fun entry =>
        (entry.1, entry.2.flatMap Connection.links))).get? span := by
  induction entries using List.reverseRecOn with
  | nil => rfl
  | append_singleton earlier entry ih =>
    rw [List.forall_mem_append, List.forall_mem_singleton] at hentries
    have hlinks : ¬ (entry.2.flatMap Connection.links).isEmpty := by
      obtain ⟨connection, hconnection⟩ := List.exists_mem_of_ne_nil _ hentries.2
      rw [List.isEmpty_iff, List.flatMap_eq_nil_iff]
      exact fun hnone => connection.links_ne_nil (hnone connection hconnection)
    rw [List.foldl_concat, putLinks, find?_put, if_neg hlinks, ih hentries.1, List.map_append,
      List.map_singleton, ofList_append, get?_insert]

/-- Splitting connections commutes with flattening, refusals included. -/
theorem IsPruned.flat_expand (hrows : rows.IsPruned) :
    rows.expand.map flat = rows.flat.expand := by
  have hkeys : ((rows.entries.map fun entry =>
      (entry.1, entry.2.flatMap Connection.links)).map Prod.fst).Nodup := by
    rw [List.map_map]
    exact rows.flat.table.nodup_keys
  have hsplit : SortedMap.ofList (rows.entries.map fun entry =>
      (entry.1, entry.2.flatMap Connection.links)) =
        rows.flat.table.map fun connections => connections.flatMap Connection.links :=
    eq_of_perm (perm_entries_ofList hkeys)
  rw [expand, foldlM_expandEntry, Wiring.expand]
  change _ = match rows.entries.find? _ with | some entry => _ | none => _
  cases rows.entries.find? fun entry => decide (1 < entry.2.length) with
  | some entry => rfl
  | none =>
    have hflat : (rows.entries.foldl putLinks empty).flat =
        ⟨rows.flat.table.map fun connections => connections.flatMap Connection.links⟩ := by
      apply flat_eq_of_find?
      intro span
      rw [find?_foldl_putLinks (fun entry hentry => hrows.connections_ne_nil hentry), hsplit]
    exact congrArg Except.ok hflat

/-! ## Lists of pairs -/

theorem get_put (rows : Rows) (span other : Span) (connections : List Connection) :
    (rows.put span connections).get other =
      if other = span then connections else rows.get other := by
  rw [← get_flat, flat_put, Wiring.get_put, get_flat]

theorem get_connect (rows : Rows) {span : Span} (hspan : span.flip ≠ span) (other : Span)
    (connection : Connection) :
    (rows.connect span connection).get other =
      if other = span then
        rows.get other ++ [connection.attachedAt span.source span.target]
      else if other = span.flip then
        rows.get other ++ [(connection.attachedAt span.source span.target).farCopy]
      else rows.get other := by
  rw [← get_flat, flat_connect, Wiring.get_connect _ hspan, get_flat]

theorem IsPruned.mem_entries_iff (hrows : rows.IsPruned) {connections : List Connection} :
    (span, connections) ∈ rows.entries ↔ rows.get span = connections ∧ connections ≠ [] := by
  constructor
  · intro hentry
    refine ⟨?_, hrows.connections_ne_nil hentry⟩
    rw [get, Rows.mem_entries_iff.mp hentry]
    rfl
  · rintro ⟨rfl, hne⟩
    rw [Rows.mem_entries_iff]
    rw [get] at hne ⊢
    cases hfound : rows.find? span with
    | none =>
      rw [hfound] at hne
      exact absurd rfl hne
    | some connections => rfl

/-! ## Sequences of steps -/

inductive Step
  | connect (span : Span) (connection : Connection)
  | put (span : Span) (connections : List Connection)
  | putBoth (span : Span) (connections : List Connection)
  | expand
  | rename (newName : DeviceId → Option DeviceId)

def apply (rows : Rows) : Step → Rows
  | .connect span connection => rows.connect span connection
  | .put span connections => rows.put span connections
  | .putBoth span connections => rows.putBoth span connections
  | .expand => rows.expand.toOption.getD rows
  | .rename newName => rows.rename newName

def applyToWiring (wiring : Wiring) : Step → Wiring
  | .connect span connection => wiring.connect span connection
  | .put span connections => wiring.put span connections
  | .putBoth span connections => wiring.putBoth span connections
  | .expand => wiring.expand.toOption.getD wiring
  | .rename newName => wiring.rename newName

theorem IsPruned.foldl {Item : Type} {step : Rows → Item → Rows}
    (hstep : ∀ rows item, rows.IsPruned → (step rows item).IsPruned) (items : List Item)
    (hrows : rows.IsPruned) : (items.foldl step rows).IsPruned := by
  induction items generalizing rows with
  | nil => exact hrows
  | cons item others ih => exact ih (hstep rows item hrows)

theorem isPruned_rename (rows : Rows) (newName : DeviceId → Option DeviceId) :
    (rows.rename newName).IsPruned := by
  refine isPruned_empty.foldl (fun renamed entry hrenamed => ?_) rows.entries
  split
  · exact hrenamed.put _ _
  · exact hrenamed

theorem isPruned_of_expand_eq_ok {expanded : Rows} (hexpanded : rows.expand = .ok expanded) :
    expanded.IsPruned := by
  rw [expand, foldlM_expandEntry] at hexpanded
  split at hexpanded
  · cases hexpanded
  · cases hexpanded
    exact isPruned_empty.foldl (fun expanded entry hrows => hrows.put _ _) rows.entries

/-- No step leaves anything empty behind. -/
theorem IsPruned.apply (hrows : rows.IsPruned) (step : Step) : (rows.apply step).IsPruned := by
  cases step with
  | connect span connection => exact hrows.connect span connection
  | put span connections => exact hrows.put span connections
  | putBoth span connections => exact (hrows.put _ _).put _ _
  | expand =>
    rw [Rows.apply]
    cases hexpanded : rows.expand with
    | error reason => exact hrows
    | ok expanded => exact isPruned_of_expand_eq_ok hexpanded
  | rename newName => exact isPruned_rename rows newName

/-- Rows and wirings are in step. -/
theorem IsPruned.flat_apply (hrows : rows.IsPruned) (step : Step) :
    (rows.apply step).flat = applyToWiring rows.flat step := by
  cases step with
  | connect span connection => exact flat_connect rows span connection
  | put span connections => exact flat_put rows span connections
  | putBoth span connections => exact flat_putBoth rows span connections
  | expand =>
    rw [Rows.apply, applyToWiring, ← hrows.flat_expand]
    cases rows.expand with
    | error reason => rfl
    | ok expanded => rfl
  | rename newName => exact flat_rename rows newName

/-- The rows after the steps were taken from nothing. -/
def afterAll (steps : List Step) : Rows := steps.foldl apply empty

/-- Whatever steps were taken, nothing in the rows is empty. -/
theorem isPruned_afterAll (steps : List Step) : (afterAll steps).IsPruned :=
  isPruned_empty.foldl (fun _ step hrows => hrows.apply step) steps

/-- The rows go through the steps as the wiring does. -/
theorem flat_afterAll (steps : List Step) :
    (afterAll steps).flat = steps.foldl applyToWiring Wiring.empty := by
  induction steps using List.reverseRecOn with
  | nil => rfl
  | append_singleton earlier step ih =>
    rw [afterAll, List.foldl_concat, List.foldl_concat, ← ih]
    exact (isPruned_afterAll earlier).flat_apply step

/-- The rows answer what the wiring answers. -/
structure InStep (rows : Rows) (wiring : Wiring) : Prop where
  entries : rows.entries = wiring.entries
  get : ∀ span, rows.get span = wiring.get span
  isEmpty : rows.isEmpty = wiring.isEmpty
  size : rows.size = wiring.size
  hasDevice : ∀ device, rows.hasDevice device = wiring.hasDevice device
  devices : rows.devices = wiring.devices
  nodes : ∀ device, rows.nodes device = wiring.nodes device

/-- Pruned rows answer every question as the flat wiring does. -/
theorem IsPruned.inStep_flat (hrows : rows.IsPruned) : rows.InStep rows.flat where
  entries := rfl
  get span := (get_flat rows span).symm
  isEmpty := by
    rw [Bool.eq_iff_iff, ← hrows.entries_eq_nil_iff, Wiring.isEmpty, List.isEmpty_iff]
    rfl
  size := rfl
  hasDevice device := by
    rw [Bool.eq_iff_iff, hrows.hasDevice_iff, Wiring.hasDevice, List.any_eq_true]
    simp only [beq_iff_eq]
    rfl
  devices := by
    apply Ascending.eq_of_mem_iff (isAscending_keys _) (Ascending.isAscending_ofList _)
    intro device
    rw [mem_keys_iff, Ascending.mem_ofList, List.mem_map]
    exact hrows.hasDevice_iff
  nodes device := by
    apply Ascending.eq_of_mem_iff (isAscending_nodes _ _) (Ascending.isAscending_ofList _)
    intro node
    rw [Ascending.mem_ofList]
    apply (hrows.mem_nodes_iff : (⟨device, node⟩ : Endpoint).node ∈ _ ↔ _).trans
    simp only [List.mem_map, List.mem_filter, beq_iff_eq]
    constructor
    · rintro ⟨entry, hentry, hsource⟩
      exact ⟨entry, ⟨hentry, by rw [hsource]⟩, by rw [hsource]⟩
    · rintro ⟨entry, ⟨hentry, rfl⟩, rfl⟩
      exact ⟨entry, hentry, rfl⟩

/-- Nothing in the rows is empty, and they answer accordingly. -/
structure IsSound (rows : Rows) : Prop where
  pruned : rows.IsPruned
  isEmpty_iff : rows.isEmpty = true ↔ rows.size = 0
  hasDevice_iff : ∀ device, rows.hasDevice device = true ↔
    ∃ entry ∈ rows.entries, entry.1.source.device = device
  ascending : rows.entries.Pairwise fun earlier later => earlier.1 < later.1
  mem_entries_iff : ∀ span connections, (span, connections) ∈ rows.entries ↔
    rows.get span = connections ∧ connections ≠ []

/-- After any steps nothing in the rows is empty: there are none exactly if no connection is
stored, a device has one exactly if some entry leaves it, and the entries are the pairs with
connections, in ascending order.  Putting a list replaces that of its pair of endpoints, and
connecting two endpoints adds one connection at the end of the lists of both orders.  All the
while the rows answer what the wiring answers after the same steps. -/
theorem afterAll_leaves_nothing_empty (steps : List Step) :
    let rows := afterAll steps
    rows.IsSound ∧
    (∀ span connections other, (rows.put span connections).get other =
      if other = span then connections else rows.get other) ∧
    (∀ span connection, span.source ≠ span.target → ∀ other,
      (rows.connect span connection).get other =
        if other = span then
          rows.get other ++ [connection.attachedAt span.source span.target]
        else if other = span.flip then
          rows.get other ++ [(connection.attachedAt span.source span.target).farCopy]
        else rows.get other) ∧
    rows.InStep (steps.foldl applyToWiring Wiring.empty) := by
  intro rows
  have hrows : rows.IsPruned := isPruned_afterAll steps
  refine ⟨?_, fun span connections other => get_put rows span other connections,
    fun span connection hends other => ?_, ?_⟩
  · exact ⟨hrows, hrows.size_eq_zero_iff.symm, fun _ => hrows.hasDevice_iff,
      rows.ascending_entries, fun _ _ => hrows.mem_entries_iff⟩
  · apply get_connect
    intro hflip
    exact hends (congrArg Span.target hflip)
  · rw [← flat_afterAll]
    exact hrows.inStep_flat

/-- A link of which nothing is kept in the end, although the devices were renamed. -/
def passingSteps : List Step :=
  let lan := Connection.ofTags (TagSet.ofList ["lan"])
  [.connect ⟨⟨⟨0⟩, "n0"⟩, ⟨⟨1⟩, "n0"⟩⟩ lan, .expand, .rename fun device => some ⟨device.index + 2⟩,
    .putBoth ⟨⟨⟨3⟩, "n0"⟩, ⟨⟨2⟩, "n0"⟩⟩ []]

theorem afterAll_passingSteps :
    let span : Span := ⟨⟨⟨2⟩, "n0"⟩, ⟨⟨3⟩, "n0"⟩⟩
    let lan := Connection.ofTags (TagSet.ofList ["lan"])
    (afterAll passingSteps).isEmpty = true ∧ (afterAll passingSteps).size = 0 ∧
      ((afterAll passingSteps).connect span lan).get span =
        [lan.attachedAt span.source span.target] := by
  intro span lan
  obtain ⟨hsound, -, hconnect, -⟩ := afterAll_leaves_nothing_empty passingSteps
  have hsize : (afterAll passingSteps).size = 0 := by decide +kernel
  have hnone : (afterAll passingSteps).get span = [] := by decide +kernel
  refine ⟨hsound.isEmpty_iff.mpr hsize, hsize, ?_⟩
  rw [hconnect span lan (by decide) span, if_pos rfl, hnone]
  rfl

end Rows

end LabMatch
