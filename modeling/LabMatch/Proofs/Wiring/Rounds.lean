import LabMatch.Proofs.Wiring.Search
import Mathlib.Data.Set.Card

/-!
# The route search ends

The search goes on as long as some route is open.  It marks nothing as visited, and its
frontier may grow from round to round.  What ends it is that the stops of an open route
differ from one another: a route of round `n` has `n + 1` of them, all among the endpoints
that the start and the stored anchors name.

`Wiring.Exhausts` is the search without a limit on its rounds.  Main statement: it comes to
an end within as many rounds as there are such endpoints, with the routes that
`Wiring.routes` gives.
-/

namespace LabMatch

namespace Wiring

variable (wiring : Wiring) (requirement : Connection) (start target : DeviceId)

/-- Round after round from the frontier on, until no route is open: how many rounds this
takes, and the routes that arrive. -/
inductive Exhausts : List Route → Nat → List Route → Prop
  | done : Exhausts [] 0 []
  | round {frontier : List Route} {rounds : Nat} {found : List Route} (hopen : frontier ≠ [])
      (hnext : Exhausts (wiring.advance requirement target frontier).2 rounds found) :
      Exhausts frontier (rounds + 1)
        ((wiring.advance requirement target frontier).1 ++ found)

/-- The endpoints of the start that have an entry, and the ends of all stored connections. -/
def namedEndpoints : Set Endpoint :=
  {endpoint | (endpoint.device = start ∧ wiring.HasEntryAt endpoint) ∨
    ∃ span, ∃ connection ∈ wiring.get span, ∃ anchor, connection.anchor = some anchor ∧
      (endpoint = anchor.source ∨ endpoint = anchor.target)}

variable {wiring requirement start target} {frontier : List Route} {rounds : Nat}
  {found : List Route}

theorem mem_reachable_iff {endpoint : Endpoint} :
    endpoint ∈ wiring.reachable start ↔ endpoint ∈ wiring.namedEndpoints start := by
  rw [reachable, Ascending.mem_ofList, List.mem_append]
  apply or_congr
  · obtain ⟨device, node⟩ := endpoint
    simp only [departures, Route.atStart, List.map_map, List.mem_map, Function.comp_apply,
      Endpoint.mk.injEq]
    constructor
    · rintro ⟨_, hnode, rfl, rfl⟩
      exact ⟨rfl, mem_nodes_iff.mp hnode⟩
    · rintro ⟨rfl, hentry⟩
      exact ⟨node, mem_nodes_iff.mpr hentry, rfl, rfl⟩
  · simp only [List.mem_flatMap, Prod.exists]
    constructor
    · rintro ⟨span, connections, hentry, connection, hconnection, hend⟩
      refine ⟨span, connection, (get_of_mem_entries hentry).symm ▸ hconnection, ?_⟩
      cases hanchor : connection.anchor with
      | none => simp [hanchor] at hend
      | some anchor => exact ⟨anchor, rfl, by simpa [hanchor] using hend⟩
    · rintro ⟨span, connection, hconnection, anchor, hanchor, hend⟩
      have hentry := mem_entries_of_get_ne_nil (List.ne_nil_of_mem hconnection)
      exact ⟨span, _, hentry, connection, hconnection, by simpa [hanchor] using hend⟩

variable (wiring start) in
theorem ncard_namedEndpoints :
    (wiring.namedEndpoints start).ncard = (wiring.reachable start).length := by
  have hnodup : (wiring.reachable start).Nodup :=
    (Ascending.isAscending_ofList _).imp KeyOrder.ne_of_lt
  have hsame : wiring.namedEndpoints start =
      ((wiring.reachable start).toFinset : Set Endpoint) := by
    ext endpoint
    simp [mem_reachable_iff]
  rw [hsame, Set.ncard_coe_finset, List.toFinset_card_of_nodup hnodup]

/-! ## The search without a limit -/

/-- A limit that is not reached makes no difference. -/
theorem Exhausts.search_eq (hends : wiring.Exhausts requirement target frontier rounds found)
    {limit : Nat} (hlimit : rounds ≤ limit) :
    wiring.search requirement target limit frontier = found := by
  induction hends generalizing limit with
  | done => cases limit <;> rfl
  | round hopen hnext ih =>
    obtain ⟨limit, rfl⟩ := Nat.exists_eq_succ_of_ne_zero (Nat.ne_zero_of_lt hlimit)
    rw [search_succ, ih (Nat.le_of_succ_le_succ hlimit)]

/-- The loop ends in one way. -/
theorem Exhausts.unique (hends : wiring.Exhausts requirement target frontier rounds found)
    {rounds' : Nat} {found' : List Route}
    (hends' : wiring.Exhausts requirement target frontier rounds' found') :
    rounds' = rounds ∧ found' = found := by
  induction hends generalizing rounds' found' with
  | done =>
    cases hends' with
    | done => exact ⟨rfl, rfl⟩
    | round hopen hnext => exact absurd rfl hopen
  | round hopen hnext ih =>
    cases hends' with
    | done => exact absurd rfl hopen
    | round hopen' hnext' =>
      obtain ⟨rfl, rfl⟩ := ih hnext'
      exact ⟨rfl, rfl⟩

variable (wiring requirement start target) in
/-- The open trails of a length have one stop more than that, so with every round one
endpoint less is left for them. -/
theorem exists_exhausts_openTrails (left length : Nat)
    (hleft : (wiring.reachable start).length ≤ length + left) :
    ∃ rounds ≤ left, ∃ found, wiring.Exhausts requirement target
      ((wiring.openTrails requirement start target length).map Trail.route) rounds found := by
  by_cases hclosed : wiring.openTrails requirement start target length = []
  · rw [hclosed]
    exact ⟨0, Nat.zero_le left, [], .done⟩
  obtain ⟨trail, htrail⟩ := List.exists_mem_of_ne_nil _ hclosed
  obtain ⟨hpath, hlength, -⟩ := mem_openTrails_iff.mp htrail
  have hshort := length_hops_lt_reachable hpath
  have hopen : (wiring.openTrails requirement start target length).map Trail.route ≠ [] := by
    simpa using hclosed
  cases left with
  | zero => omega
  | succ left =>
    obtain ⟨rounds, hrounds, found, hends⟩ :=
      exists_exhausts_openTrails left (length + 1) (by omega)
    have hnext : (wiring.advance requirement target
        ((wiring.openTrails requirement start target length).map Trail.route)).2 =
          (wiring.openTrails requirement start target (length + 1)).map Trail.route := by
      rw [advance_map_route isPath_of_mem_openTrails, openTrails]
    rw [← hnext] at hends
    exact ⟨rounds + 1, Nat.succ_le_succ hrounds, _, .round hopen hends⟩

variable (wiring requirement start target) in
/-- The search reaches an empty frontier, after no more rounds than there are endpoints
among the nodes of the start and the ends of the stored connections.  It ends in this way
only, and what it finds are the routes. -/
theorem exhausts_routes :
    ∃ rounds ≤ (wiring.namedEndpoints start).ncard, ∀ rounds' found,
      wiring.Exhausts requirement target (wiring.departures start) rounds' found ↔
        rounds' = rounds ∧ found = wiring.routes requirement start target := by
  obtain ⟨rounds, hrounds, found, hends⟩ := exists_exhausts_openTrails wiring requirement start
    target (wiring.reachable start).length 0 (by omega)
  rw [← departures_eq_map_route] at hends
  have hfound : found = wiring.routes requirement start target := (hends.search_eq hrounds).symm
  subst hfound
  refine ⟨rounds, (ncard_namedEndpoints wiring start).symm ▸ hrounds, fun rounds' found => ?_⟩
  constructor
  · exact hends.unique
  · rintro ⟨rfl, rfl⟩
    exact hends

end Wiring

end LabMatch
