import LabMatch.Proofs.Wiring.Trail

/-!
# The route search is exact

The search follows whole generations of routes.  Each generation consists of
the routes of the trails with one hop more, so nothing is lost by dropping loops
and unsatisfied routes early, and turning back only skips links that would close
a loop.  Main statement: the routes found are those of the trails from the start
to the target, one for every choice of stored links, shorter ones first.
-/

namespace LabMatch

namespace Connection

/-- Where the link leads to when it is followed from the endpoint. -/
def arrival? (link : Connection) (departure : Endpoint) : Option Endpoint :=
  link.anchor.bind fun anchor =>
    if anchor.source = departure then some anchor.target
    else if !anchor.oneWay && anchor.target = departure then some anchor.source
    else none

variable {link : Connection} {departure arrival : Endpoint}

theorem arrival?_eq_some_iff :
    link.arrival? departure = some arrival ↔ link.Leads departure arrival := by
  cases hanchor : link.anchor with
  | none => simp [arrival?, Leads, hanchor]
  | some anchor =>
    obtain ⟨⟨source, target⟩, oneWay⟩ := anchor
    simp only [arrival?, Leads, hanchor, Option.bind_some, Option.some.injEq, exists_eq_left',
      Span.mk.injEq, Bool.and_eq_true, Bool.not_eq_true', decide_eq_true_eq]
    grind

/-- A link that leads somewhere is followed there, and no other link is. -/
theorem follow_eq_of_leads (hleads : link.Leads departure arrival) :
    Route.follow departure link = .ok (link.attachedAt departure arrival) := by
  obtain ⟨⟨⟨source, target⟩, oneWay⟩, hanchor, hends⟩ := hleads
  obtain ⟨shape, anchor⟩ := link
  subst hanchor
  rcases hends with hends | ⟨hbothWays, hends⟩
  · obtain ⟨rfl, rfl⟩ := Span.mk.inj hends
    simp [Route.follow, attachedAt, withAnchor]
  · obtain ⟨rfl, rfl⟩ := Span.mk.inj hends
    simp only at hbothWays
    by_cases hsame : source = target
    · simp [Route.follow, attachedAt, withAnchor, hsame]
    · simp [Route.follow, attachedAt, withAnchor, hsame, hbothWays, flip, Anchor.flip]

theorem follow_toOption_of_arrival?_eq_none (hnone : link.arrival? departure = none) :
    (Route.follow departure link).toOption = none := by
  cases hanchor : link.anchor with
  | none => simp [Route.follow, hanchor, Except.toOption]
  | some anchor =>
    simp only [arrival?, hanchor, Option.bind_some] at hnone
    simp only [Route.follow, hanchor]
    grind [Except.toOption]

end Connection

namespace Trail

variable {trail : Trail} {hop : Hop} {link : Connection}

/-- The route of a longer trail is the route of the shorter one with the link
of the hop appended. -/
theorem append_route (hdeparture : hop.span.source = trail.finish)
    (hleads : hop.link.Leads trail.finish hop.arrival) :
    trail.route.append hop.link = .ok (trail.snoc hop).route := by
  have hnarrow : ∃ common, Connection.runningMeet ((trail.snoc hop).hops.map Hop.link) =
      some common ∧ Route.narrow trail.route.guarantee hop.followed = .ok common := by
    by_cases hne : trail.hops = []
    · have hguarantee : trail.route.guarantee = none := by
        rw [route, hne]
        rfl
      exact ⟨hop.link.unanchored, by simp [hne, Connection.runningMeet], by rw [hguarantee]; rfl⟩
    · have hlinks : trail.hops.map Hop.link ≠ [] := by simpa using hne
      obtain ⟨current, hcurrent, hanchor, -⟩ := Connection.runningMeet_eq_some hlinks
      obtain ⟨common, hcommon, -, -⟩ := Connection.meet_eq_ok hanchor hop.link.anchor_unanchored
      have hlonger : Connection.runningMeet ((trail.snoc hop).hops.map Hop.link) =
          some common := by
        rw [hops_snoc, List.map_append, List.map_singleton,
          Connection.runningMeet_append hlinks, hcurrent, Option.bind_some, hcommon]
        rfl
      have hguarantee : trail.route.guarantee = some current := hcurrent
      exact ⟨common, hlonger, by rw [hguarantee]; exact hcommon⟩
  obtain ⟨common, hmeet, hnarrow⟩ := hnarrow
  rw [Route.append, finish_route, Connection.follow_eq_of_leads hleads]
  have hfollowed : hop.link.attachedAt trail.finish hop.arrival = hop.followed := by
    rw [Hop.followed, hdeparture]
  have hroute : (trail.snoc hop).route =
      ⟨trail.start, trail.hops.map Hop.followed ++ [hop.followed], some common⟩ := by
    rw [route, hmeet]
    simp [snoc]
  simp only [hfollowed, bind, Except.bind, hnarrow, Except.mapError, hroute]
  rfl

theorem append_toOption_eq_none (hnone : link.arrival? trail.finish = none) :
    (trail.route.append link).toOption = none := by
  have hfollow := Connection.follow_toOption_of_arrival?_eq_none hnone
  rw [Route.append, finish_route]
  cases hfollowed : Route.follow trail.finish link with
  | error reason => rfl
  | ok followed => simp [hfollowed, Except.toOption] at hfollow

/-- Turning back only skips links that lead to an endpoint visited before. -/
theorem mem_stops_of_turnsBack {arrival : Endpoint}
    (hconnected : Connected trail.start trail.hops)
    (hturns : trail.route.turnsBack link = true)
    (hleads : link.Leads trail.finish arrival) : arrival ∈ trail.stops := by
  obtain ⟨anchor, hanchor, hends⟩ := hleads
  by_cases hne : trail.hops = []
  · simp [Route.turnsBack, route, hne] at hturns
  obtain ⟨shorter, last, rfl⟩ := eq_snoc_of_hops_ne_nil hne
  have hsource : last.span.source ∈ (shorter.snoc last).stops :=
    departure_mem_stops hconnected (by simp)
  have hfinish : last.arrival ∈ (shorter.snoc last).stops := by
    simpa using (shorter.snoc last).finish_mem_stops
  simp only [Route.turnsBack, route, hops_snoc, List.map_append, List.map_singleton,
    List.getLast?_concat, Hop.followed, Connection.attachedAt, Connection.withAnchor,
    hanchor, Anchor.sameLink, Bool.and_eq_true, Bool.or_eq_true, beq_iff_eq] at hturns
  rw [finish_snoc] at hends
  obtain ⟨hsame | ⟨-, hflipped⟩, -⟩ := hturns
  · subst hsame
    rcases hends with hends | ⟨-, hends⟩
    · exact (Span.mk.inj hends).2 ▸ hfinish
    · exact (Span.mk.inj hends).1 ▸ hsource
  · subst hflipped
    rcases hends with hends | ⟨-, hends⟩
    · exact (Span.mk.inj hends).2 ▸ hsource
    · exact (Span.mk.inj hends).1 ▸ hfinish

end Trail

namespace Wiring

variable (wiring : Wiring) (requirement : Connection) (start target : DeviceId)

def storedUnder (departure : Endpoint) : List (Connection × Span × Nat) :=
  (wiring.entries.filter fun entry => entry.1.source == departure).flatMap fun entry =>
    entry.2.zipIdx.map fun stored => (stored.1, entry.1, stored.2)

def hopOf? (departure : Endpoint) (stored : Connection × Span × Nat) : Option Hop :=
  (stored.1.arrival? departure).map fun arrival =>
    ⟨stored.2.1, stored.2.2, stored.1, arrival⟩

def hopsFrom (departure : Endpoint) : List Hop :=
  (wiring.storedUnder departure).filterMap (hopOf? departure)

theorem map_fst_storedUnder (departure : Endpoint) :
    (wiring.storedUnder departure).map Prod.fst = wiring.outgoing departure := by
  rw [storedUnder, outgoing, List.map_flatMap]
  congr 1
  funext entry
  rw [List.map_map]
  exact List.zipIdx_map_fst 0 entry.2

/-- What is stored under an endpoint is found at its places in the lists there. -/
theorem mem_storedUnder_iff {departure : Endpoint} {stored : Connection × Span × Nat} :
    stored ∈ wiring.storedUnder departure ↔
      stored.2.1.source = departure ∧ (wiring.get stored.2.1)[stored.2.2]? = some stored.1 := by
  obtain ⟨link, span, position⟩ := stored
  simp only [storedUnder, List.mem_flatMap, List.mem_filter, beq_iff_eq, List.mem_map,
    Prod.mk.injEq, Prod.exists, List.mk_mem_zipIdx_iff_getElem?]
  constructor
  · rintro ⟨_, connections, ⟨hentry, hsource⟩, _, _, hposition, rfl, rfl, rfl⟩
    rw [get_of_mem_entries hentry]
    exact ⟨hsource, hposition⟩
  · rintro ⟨hsource, hposition⟩
    have hne : wiring.get span ≠ [] := by
      intro hempty
      simp [hempty] at hposition
    exact ⟨span, wiring.get span, ⟨mem_entries_of_get_ne_nil hne, hsource⟩, link, position,
      hposition, rfl, rfl, rfl⟩

theorem mem_hopsFrom_iff {departure : Endpoint} {hop : Hop} :
    hop ∈ wiring.hopsFrom departure ↔
      hop.span.source = departure ∧ hop.IsStored wiring ∧
        hop.link.Leads departure hop.arrival := by
  simp only [hopsFrom, List.mem_filterMap, mem_storedUnder_iff, hopOf?, Option.map_eq_some_iff,
    Connection.arrival?_eq_some_iff, Hop.IsStored]
  constructor
  · rintro ⟨stored, ⟨hsource, hposition⟩, arrival, hleads, rfl⟩
    exact ⟨hsource, hposition, hleads⟩
  · rintro ⟨hsource, hposition, hleads⟩
    exact ⟨(hop.link, hop.span, hop.position), ⟨hsource, hposition⟩, hop.arrival, hleads, rfl⟩

theorem nodup_map_place_hopsFrom (departure : Endpoint) :
    ((wiring.hopsFrom departure).map Hop.place).Nodup := by
  have hplaces : ((wiring.storedUnder departure).map Prod.snd).Nodup := by
    have hkeys : (wiring.entries.filter fun entry => entry.1.source == departure).Pairwise
        fun left right => left.1 ≠ right.1 :=
      (wiring.table.ascending.filter _).imp KeyOrder.ne_of_lt
    rw [storedUnder, List.map_flatMap, List.nodup_flatMap]
    refine ⟨fun entry _ => ?_, hkeys.imp fun hne => ?_⟩
    · rw [List.map_map]
      have hpositions : (entry.2.zipIdx.map Prod.snd).Nodup := by
        rw [List.zipIdx_map_snd]
        exact List.nodup_range'
      exact List.Nodup.of_map Prod.snd (by simpa [Function.comp_def] using hpositions)
    · simp only [Function.onFun, List.map_map, List.disjoint_left, List.mem_map]
      rintro place ⟨_, -, rfl⟩ ⟨_, -, hsame⟩
      exact hne (Prod.mk.inj hsame).1.symm
  have hsublist : ((wiring.hopsFrom departure).map Hop.place).Sublist
      ((wiring.storedUnder departure).map Prod.snd) := by
    rw [hopsFrom, List.map_filterMap]
    induction wiring.storedUnder departure with
    | nil => exact List.Sublist.slnil
    | cons stored others ih =>
      rw [List.filterMap_cons, List.map_cons]
      cases harrival : stored.1.arrival? departure with
      | none => simpa [hopOf?, harrival] using ih.cons stored.2
      | some arrival => simpa [hopOf?, harrival, Hop.place] using ih.cons_cons stored.2
  exact hsublist.nodup hplaces

/-! ## Generations of trails -/

/-- The trails with one hop more that visit no endpoint twice and satisfy the
requirement. -/
def grow (frontier : List Trail) : List Trail :=
  (frontier.flatMap fun trail => (wiring.hopsFrom trail.finish).map trail.snoc).filter fun trail =>
    !trail.route.hasLoop && trail.route.satisfies requirement

/-- The paths of the given length that have not entered the target. -/
def openTrails : Nat → List Trail
  | 0 => (wiring.nodes start).map fun node => ⟨⟨start, node⟩, []⟩
  | length + 1 =>
    (wiring.grow requirement (openTrails length)).filter fun trail =>
      !(trail.finish.device == target)

/-- The trails to the target that are one hop longer than the given length. -/
def arrivedTrails (length : Nat) : List Trail :=
  (wiring.grow requirement (wiring.openTrails requirement start target length)).filter fun trail =>
    trail.finish.device == target

variable {wiring requirement start target} {trail : Trail} {hop : Hop}

theorem hasLoop_route : trail.route.hasLoop = false ↔ trail.stops.Nodup := by
  simp [Route.hasLoop, Trail.stops_route]

theorem satisfies_route :
    trail.route.satisfies requirement = true ↔
      ∃ common, Connection.runningMeet (trail.hops.map Hop.link) = some common ∧
        common.satisfies requirement = true := by
  simp [Route.satisfies, Trail.route, Option.any_eq_true]

/-- A path with one hop more is a path that may be extended by this hop. -/
theorem isPath_snoc_iff :
    wiring.IsPath requirement start (trail.snoc hop) ↔
      wiring.IsPath requirement start trail ∧ hop ∈ wiring.hopsFrom trail.finish ∧
        (trail.snoc hop).route.hasLoop = false ∧
          (trail.snoc hop).route.satisfies requirement = true := by
  rw [mem_hopsFrom_iff, hasLoop_route, satisfies_route]
  constructor
  · rintro ⟨hdeparts, hstored, hleads, hconnected, hsimple, hsatisfies⟩
    simp only [Trail.hops_snoc, List.forall_mem_append, List.forall_mem_singleton]
      at hstored hleads
    obtain ⟨hearlier, hdeparture⟩ := Trail.connected_snoc.mp hconnected
    have hsatisfied := hsatisfies (by simp)
    refine ⟨⟨hdeparts, hstored.1, hleads.1, hearlier, ?_, fun hne => ?_⟩,
      ⟨hdeparture, hstored.2, hdeparture ▸ hleads.2⟩, hsimple, hsatisfied⟩
    · rw [Trail.stops_snoc] at hsimple
      exact hsimple.of_append_left
    · rw [Trail.hops_snoc, List.map_append, List.map_singleton] at hsatisfied
      exact Connection.satisfies_of_runningMeet_append (by simpa using hne) hsatisfied
  · rintro ⟨hpath, ⟨hdeparture, hstored, hleads⟩, hsimple, hsatisfied⟩
    refine ⟨hpath.departs, ?_, ?_, Trail.connected_snoc.mpr ⟨hpath.connected, hdeparture⟩,
      hsimple, fun _ => hsatisfied⟩
    · simpa [or_imp, forall_and] using ⟨hpath.stored, hstored⟩
    · simpa [or_imp, forall_and] using ⟨hpath.leads, hdeparture ▸ hleads⟩

/-- Growing the paths gives exactly the paths that are one hop longer. -/
theorem mem_grow_iff {frontier : List Trail}
    (hpaths : ∀ shorter ∈ frontier, wiring.IsPath requirement start shorter) :
    trail ∈ wiring.grow requirement frontier ↔
      wiring.IsPath requirement start trail ∧
        ∃ shorter ∈ frontier, ∃ hop, shorter.snoc hop = trail := by
  simp only [grow, List.mem_filter, List.mem_flatMap, List.mem_map, Bool.and_eq_true,
    Bool.not_eq_true']
  constructor
  · rintro ⟨⟨shorter, hshorter, hop, hhop, rfl⟩, hloop, hsatisfies⟩
    exact ⟨isPath_snoc_iff.mpr ⟨hpaths shorter hshorter, hhop, hloop, hsatisfies⟩,
      shorter, hshorter, hop, rfl⟩
  · rintro ⟨hpath, shorter, hshorter, hop, rfl⟩
    obtain ⟨-, hhop, hloop, hsatisfies⟩ := isPath_snoc_iff.mp hpath
    exact ⟨⟨shorter, hshorter, hop, hhop, rfl⟩, hloop, hsatisfies⟩

/-- The open trails of a length are exactly the paths of that length that have
not entered the target. -/
theorem mem_openTrails_iff {length : Nat} :
    trail ∈ wiring.openTrails requirement start target length ↔
      wiring.IsPath requirement start trail ∧ trail.hops.length = length ∧
        ∀ hop ∈ trail.hops, hop.arrival.device ≠ target := by
  induction length generalizing trail with
  | zero =>
    simp only [openTrails, List.mem_map, List.length_eq_zero_iff]
    constructor
    · rintro ⟨node, hnode, rfl⟩
      exact ⟨⟨⟨rfl, mem_nodes_iff.mp hnode⟩, by simp, by simp, trivial, by simp [Trail.stops],
        by simp⟩, rfl, by simp⟩
    · obtain ⟨⟨device, node⟩, hops⟩ := trail
      rintro ⟨hpath, hempty, -⟩
      obtain ⟨hdevice, hentry⟩ := hpath.departs
      simp only at hempty hdevice
      subst hempty hdevice
      exact ⟨node, mem_nodes_iff.mpr hentry, rfl⟩
  | succ length ih =>
    have hpaths : ∀ shorter ∈ wiring.openTrails requirement start target length,
        wiring.IsPath requirement start shorter := fun shorter hmem => (ih.mp hmem).1
    rw [openTrails, List.mem_filter, mem_grow_iff hpaths]
    constructor
    · rintro ⟨⟨hpath, shorter, hshorter, hop, rfl⟩, hopen⟩
      obtain ⟨-, hlength, havoids⟩ := ih.mp hshorter
      have hhere : hop.arrival.device ≠ target := by simpa using hopen
      exact ⟨hpath, by simp [hlength], by simpa [or_imp, forall_and] using ⟨havoids, hhere⟩⟩
    · rintro ⟨hpath, hlength, havoids⟩
      have hne : trail.hops ≠ [] := by
        intro hempty
        simp [hempty] at hlength
      obtain ⟨shorter, last, rfl⟩ := Trail.eq_snoc_of_hops_ne_nil hne
      simp only [Trail.hops_snoc, List.forall_mem_append, List.forall_mem_singleton] at havoids
      have hshorter : shorter ∈ wiring.openTrails requirement start target length :=
        ih.mpr ⟨(isPath_snoc_iff.mp hpath).1, by simpa using hlength, havoids.1⟩
      exact ⟨⟨hpath, shorter, hshorter, last, rfl⟩, by simpa using havoids.2⟩

theorem isPath_of_mem_openTrails {length : Nat} :
    ∀ shorter ∈ wiring.openTrails requirement start target length,
      wiring.IsPath requirement start shorter :=
  fun _ hmem => (mem_openTrails_iff.mp hmem).1

/-- The trails that arrive in a round are exactly those of that many hops. -/
theorem mem_arrivedTrails_iff {length : Nat} :
    trail ∈ wiring.arrivedTrails requirement start target length ↔
      wiring.IsTrail requirement start target trail ∧ trail.hops.length = length + 1 := by
  rw [arrivedTrails, List.mem_filter, mem_grow_iff isPath_of_mem_openTrails, beq_iff_eq]
  constructor
  · rintro ⟨⟨hpath, shorter, hshorter, hop, rfl⟩, harrives⟩
    obtain ⟨-, hlength, havoids⟩ := mem_openTrails_iff.mp hshorter
    exact ⟨⟨hpath, by simp, harrives, by simpa using havoids⟩, by simp [hlength]⟩
  · rintro ⟨htrail, hlength⟩
    obtain ⟨shorter, last, rfl⟩ := Trail.eq_snoc_of_hops_ne_nil htrail.nonempty
    have hfirst := htrail.firstArrival
    rw [Trail.hops_snoc, List.dropLast_concat] at hfirst
    have hshorter : shorter ∈ wiring.openTrails requirement start target length :=
      mem_openTrails_iff.mpr
        ⟨(isPath_snoc_iff.mp htrail.toIsPath).1, by simpa using hlength, hfirst⟩
    exact ⟨⟨htrail.toIsPath, shorter, hshorter, last, rfl⟩, htrail.arrives⟩

/-! ## The search follows the generations -/

/-- A path is extended by the same routes as its trail, up to routes that are
dropped anyway. -/
theorem filter_extensions_route (hpath : wiring.IsPath requirement start trail) :
    (wiring.extensions trail.route).filter
        (fun route => !route.hasLoop && route.satisfies requirement) =
      ((wiring.hopsFrom trail.finish).map fun hop => (trail.snoc hop).route).filter
        (fun route => !route.hasLoop && route.satisfies requirement) := by
  rw [extensions, Trail.finish_route, ← map_fst_storedUnder, List.filterMap_map, hopsFrom,
    List.map_filterMap, List.filter_filterMap, List.filter_filterMap]
  apply List.filterMap_congr
  intro stored hstored
  obtain ⟨hsource, hposition⟩ := (mem_storedUnder_iff wiring).mp hstored
  cases harrival : stored.1.arrival? trail.finish with
  | none => simp [hopOf?, harrival, Trail.append_toOption_eq_none harrival]
  | some arrival =>
    obtain ⟨hop, hhop, harrives⟩ : ∃ hop, hopOf? trail.finish stored = some hop ∧
        hop = ⟨stored.2.1, stored.2.2, stored.1, arrival⟩ := by
      simp [hopOf?, harrival]
    have hleads : stored.1.Leads trail.finish arrival :=
      Connection.arrival?_eq_some_iff.mp harrival
    have happend : trail.route.append stored.1 = .ok (trail.snoc hop).route := by
      have hlink : hop.link = stored.1 := by rw [harrives]
      rw [← hlink]
      apply Trail.append_route
      · rw [harrives]
        exact hsource
      · rw [harrives]
        exact hleads
    cases hturns : trail.route.turnsBack stored.1 with
    | false => simp [hhop, hturns, happend, Except.toOption]
    | true =>
      have hvisited := Trail.mem_stops_of_turnsBack hpath.connected hturns hleads
      have hloop : (trail.snoc hop).route.hasLoop = true := by
        rw [← Bool.not_eq_false, hasLoop_route, Trail.stops_snoc]
        intro hsimple
        exact (List.nodup_append.mp hsimple).2.2 arrival hvisited arrival (by simp [harrives]) rfl
      simp [hhop, hturns, Option.filter, hloop]

/-- One round of the search follows one round of growing trails. -/
theorem advance_map_route {frontier : List Trail}
    (hpaths : ∀ trail ∈ frontier, wiring.IsPath requirement start trail) :
    wiring.advance requirement target (frontier.map Trail.route) =
      (((wiring.grow requirement frontier).filter fun trail =>
          trail.finish.device == target).map Trail.route,
        ((wiring.grow requirement frontier).filter fun trail =>
          !(trail.finish.device == target)).map Trail.route) := by
  have hgrown : ((frontier.map Trail.route).flatMap wiring.extensions).filter
      (fun route => !route.hasLoop && route.satisfies requirement) =
        (wiring.grow requirement frontier).map Trail.route := by
    calc ((frontier.map Trail.route).flatMap wiring.extensions).filter
          (fun route => !route.hasLoop && route.satisfies requirement)
        = frontier.flatMap fun trail => (wiring.extensions trail.route).filter
            fun route => !route.hasLoop && route.satisfies requirement := by
          rw [List.flatMap_map, List.filter_flatMap]
      _ = frontier.flatMap fun trail =>
            ((wiring.hopsFrom trail.finish).map fun hop => (trail.snoc hop).route).filter
              fun route => !route.hasLoop && route.satisfies requirement :=
          List.flatMap_congr fun trail hmem => filter_extensions_route (hpaths trail hmem)
      _ = ((frontier.flatMap fun trail =>
            (wiring.hopsFrom trail.finish).map trail.snoc).map Trail.route).filter
              fun route => !route.hasLoop && route.satisfies requirement := by
          rw [List.map_flatMap, List.filter_flatMap]
          simp only [List.map_map, Function.comp_def]
      _ = (wiring.grow requirement frontier).map Trail.route := by
          rw [List.filter_map]
          rfl
  rw [advance, hgrown, List.partition_eq_filter_filter, List.filter_map, List.filter_map]
  simp [Function.comp_def, Trail.finish_route]

theorem search_succ (rounds : Nat) (frontier : List Route) :
    wiring.search requirement target (rounds + 1) frontier =
      (wiring.advance requirement target frontier).1 ++
        wiring.search requirement target rounds
          (wiring.advance requirement target frontier).2 := by
  cases frontier with
  | nil => cases rounds <;> simp [search, advance]
  | cons first others => rfl

/-- The search returns what arrives in each of its rounds. -/
theorem search_openTrails (rounds length : Nat) :
    wiring.search requirement target rounds
        ((wiring.openTrails requirement start target length).map Trail.route) =
      ((List.range' length rounds).flatMap fun round =>
        wiring.arrivedTrails requirement start target round).map Trail.route := by
  induction rounds generalizing length with
  | zero => rfl
  | succ rounds ih =>
    calc wiring.search requirement target (rounds + 1)
          ((wiring.openTrails requirement start target length).map Trail.route)
        = (wiring.arrivedTrails requirement start target length).map Trail.route ++
            wiring.search requirement target rounds
              ((wiring.openTrails requirement start target (length + 1)).map Trail.route) := by
          rw [search_succ, advance_map_route isPath_of_mem_openTrails]
          rfl
      _ = (wiring.arrivedTrails requirement start target length).map Trail.route ++
            ((List.range' (length + 1) rounds).flatMap fun round =>
              wiring.arrivedTrails requirement start target round).map Trail.route := by
          rw [ih]
      _ = ((List.range' length (rounds + 1)).flatMap fun round =>
            wiring.arrivedTrails requirement start target round).map Trail.route := by
          rw [List.range'_succ, List.flatMap_cons, List.map_append]

/-! ## Enough rounds -/

theorem stop_mem_reachable (hpath : wiring.IsPath requirement start trail)
    {stop : Endpoint} (hstop : stop ∈ trail.stops) : stop ∈ wiring.reachable start := by
  rw [reachable, Ascending.mem_ofList, List.mem_append]
  rcases List.mem_cons.mp hstop with rfl | hstop
  · obtain ⟨rfl, hentry⟩ := hpath.departs
    have hdeparts : Route.atStart trail.start ∈ wiring.departures trail.start.device :=
      List.mem_map.mpr ⟨trail.start.node, mem_nodes_iff.mpr hentry, rfl⟩
    exact Or.inl (List.mem_map.mpr ⟨_, hdeparts, rfl⟩)
  · obtain ⟨hop, hmem, rfl⟩ := List.mem_map.mp hstop
    have hstored := hpath.stored hop hmem
    obtain ⟨anchor, hanchor, hends⟩ := hpath.leads hop hmem
    have hne : wiring.get hop.span ≠ [] := by
      intro hempty
      simp [Hop.IsStored, hempty] at hstored
    apply Or.inr
    apply List.mem_flatMap.mpr
    refine ⟨_, mem_entries_of_get_ne_nil hne, List.mem_flatMap.mpr
      ⟨hop.link, List.mem_of_getElem? hstored, ?_⟩⟩
    rw [hanchor]
    rcases hends with hends | ⟨-, hends⟩
    · simp [hends]
    · simp [hends]

/-- No trail is longer than the number of rounds, since its stops differ. -/
theorem length_hops_lt_reachable (hpath : wiring.IsPath requirement start trail) :
    trail.hops.length < (wiring.reachable start).length := by
  have hsubperm : trail.stops.Subperm (wiring.reachable start) :=
    hpath.simple.subperm fun _ hstop => stop_mem_reachable hpath hstop
  have hlength := hsubperm.length_le
  simpa [Trail.stops, Nat.succ_le_iff] using hlength

/-! ## Every choice of links once -/

theorem nodup_map_places_grow {frontier : List Trail}
    (hfrontier : (frontier.map Trail.places).Nodup) :
    ((wiring.grow requirement frontier).map Trail.places).Nodup := by
  have hall : ((frontier.flatMap fun trail =>
      (wiring.hopsFrom trail.finish).map trail.snoc).map Trail.places).Nodup := by
    rw [List.map_flatMap, List.nodup_flatMap]
    constructor
    · intro trail _
      rw [List.map_map]
      have hplaces := nodup_map_place_hopsFrom wiring trail.finish
      have hinjective : Function.Injective fun place : Span × Nat =>
          (trail.start, trail.hops.map Hop.place ++ [place]) := by
        intro left right heq
        simpa using heq
      simpa [Function.comp_def, Trail.places_snoc] using hplaces.map hinjective
    · apply (List.pairwise_map.mp hfrontier).imp
      intro left right hne
      simp only [Function.onFun, List.disjoint_left, List.mem_map]
      rintro places ⟨_, ⟨hop, -, rfl⟩, rfl⟩ ⟨_, ⟨hop', -, rfl⟩, hsame⟩
      simp only [Trail.places_snoc, Prod.mk.injEq] at hsame
      have hearlier := List.append_inj_left' hsame.2 rfl
      exact hne (by simp [Trail.places, hsame.1, hearlier])
  exact ((List.filter_sublist).map Trail.places).nodup hall

theorem nodup_map_places_openTrails (length : Nat) :
    ((wiring.openTrails requirement start target length).map Trail.places).Nodup := by
  induction length with
  | zero =>
    have hnodes : (wiring.nodes start).Nodup :=
      (Ascending.isAscending_ofList _).imp KeyOrder.ne_of_lt
    rw [openTrails, List.map_map]
    apply hnodes.map
    intro left right heq
    simpa [Trail.places] using heq
  | succ length ih =>
    exact (List.filter_sublist.map Trail.places).nodup (nodup_map_places_grow ih)

theorem nodup_map_places_arrivedTrails (length : Nat) :
    ((wiring.arrivedTrails requirement start target length).map Trail.places).Nodup :=
  (List.filter_sublist.map Trail.places).nodup
    (nodup_map_places_grow (nodup_map_places_openTrails length))

/-! ## All rounds together -/

variable (wiring requirement start target) in
/-- The trails that arrive in any of the rounds. -/
def trails : List Trail :=
  (List.range (wiring.reachable start).length).flatMap
    (wiring.arrivedTrails requirement start target)

variable (wiring requirement start target) in
/-- The search starts from the trails without hops. -/
theorem departures_eq_map_route :
    wiring.departures start = (wiring.openTrails requirement start target 0).map Trail.route := by
  rw [departures, openTrails, List.map_map]
  rfl

variable (wiring requirement start target) in
/-- The routes that are found are those of the trails, in order. -/
theorem routes_eq_map_route :
    wiring.routes requirement start target =
      (wiring.trails requirement start target).map Trail.route := by
  rw [routes, departures_eq_map_route wiring requirement start target, search_openTrails,
    ← List.range_eq_range', trails]

/-- The trails are those from the start to the target. -/
theorem mem_trails_iff :
    trail ∈ wiring.trails requirement start target ↔
      wiring.IsTrail requirement start target trail := by
  simp only [trails, List.mem_flatMap, List.mem_range, mem_arrivedTrails_iff]
  constructor
  · rintro ⟨_, -, htrail, -⟩
    exact htrail
  · intro htrail
    have hlength := length_hops_lt_reachable htrail.toIsPath
    have hpositive := List.length_pos_iff.mpr htrail.nonempty
    exact ⟨trail.hops.length - 1, by omega, htrail, by omega⟩

theorem nodup_map_places_trails :
    ((wiring.trails requirement start target).map Trail.places).Nodup := by
  rw [trails, List.map_flatMap, List.nodup_flatMap]
  refine ⟨fun length _ => nodup_map_places_arrivedTrails length,
    List.nodup_range.imp fun {left right} hne => ?_⟩
  simp only [Function.onFun, List.disjoint_left, List.mem_map, mem_arrivedTrails_iff]
  rintro places ⟨trail, ⟨-, hlength⟩, rfl⟩ ⟨trail', ⟨-, hlength'⟩, hsame⟩
  have hhops := congrArg (fun places => places.2.length) hsame
  simp only [Trail.places, List.length_map] at hhops
  omega

/-- Shorter trails come first. -/
theorem pairwise_length_trails :
    (wiring.trails requirement start target).Pairwise fun earlier later =>
      earlier.hops.length ≤ later.hops.length := by
  rw [trails, List.pairwise_flatMap]
  refine ⟨fun length _ => ?_, List.pairwise_lt_range.imp fun {left right} hlt => ?_⟩
  · apply List.pairwise_of_forall_mem_list
    intro trail hmem trail' hmem'
    rw [(mem_arrivedTrails_iff.mp hmem).2, (mem_arrivedTrails_iff.mp hmem').2]
  · intro trail hmem trail' hmem'
    rw [(mem_arrivedTrails_iff.mp hmem).2, (mem_arrivedTrails_iff.mp hmem').2]
    omega

variable (wiring requirement start target) in
/-- The routes are those of the trails from the start to the target: one for
every choice of stored links, shorter ones first. -/
theorem routes_enumerate_trails :
    ∃ trails : List Trail,
      wiring.routes requirement start target = trails.map Trail.route ∧
        (∀ trail, trail ∈ trails ↔ wiring.IsTrail requirement start target trail) ∧
        (trails.map Trail.places).Nodup ∧
        trails.Pairwise fun earlier later => earlier.hops.length ≤ later.hops.length :=
  ⟨wiring.trails requirement start target, wiring.routes_eq_map_route requirement start target,
    fun _ => mem_trails_iff, nodup_map_places_trails, pairwise_length_trails⟩

end Wiring

end LabMatch
