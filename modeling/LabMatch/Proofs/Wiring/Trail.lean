import LabMatch.Proofs.Connection.Offer
import LabMatch.Proofs.Wiring.Lookup
import LabMatch.Wiring.Route

/-!
# Trails

A trail is a chain of links picked from a wiring: each hop names the entry and
the position where its link is stored, and the endpoint that the link is
followed to.  Trails say which routes there are without saying how routes are
found.

`Trail.route` is the route that a trail describes, with every link turned into
the direction in which it is followed.
-/

namespace LabMatch

/-- The link can be followed from one endpoint to another: it is anchored there
in this direction, or works both ways and is anchored in the other one. -/
def Connection.Leads (link : Connection) (source target : Endpoint) : Prop :=
  ∃ anchor, link.anchor = some anchor ∧
    (anchor.toSpan = ⟨source, target⟩ ∨
      (anchor.oneWay = false ∧ anchor.toSpan = ⟨target, source⟩))

/-- The meet of all of the links, taken one after the other. -/
def Connection.runningMeet : List Connection → Option Connection
  | [] => none
  | first :: others =>
    others.foldl
      (fun common link => common.bind fun current => (current.meet link.unanchored).toOption)
      (some first.unanchored)

/-- A stored link that is followed to one of its ends. -/
structure Hop where
  /-- The entry that stores the link; its source is where the hop departs from. -/
  span : Span
  /-- The position of the link within the entry. -/
  position : Nat
  link : Connection
  arrival : Endpoint

namespace Hop

/-- The hop picks a link that is stored in the wiring. -/
def IsStored (wiring : Wiring) (hop : Hop) : Prop :=
  (wiring.get hop.span)[hop.position]? = some hop.link

def place (hop : Hop) : Span × Nat := (hop.span, hop.position)

/-- The link in the direction in which it is followed. -/
def followed (hop : Hop) : Connection := hop.link.attachedAt hop.span.source hop.arrival

end Hop

/-- Every hop departs from where the one before it arrived. -/
def Connected : Endpoint → List Hop → Prop
  | _, [] => True
  | departure, hop :: others => hop.span.source = departure ∧ Connected hop.arrival others

/-- A chain of hops from an endpoint on. -/
structure Trail where
  start : Endpoint
  hops : List Hop

namespace Trail

def stops (trail : Trail) : List Endpoint := trail.start :: trail.hops.map Hop.arrival

/-- Where the next hop has to depart from. -/
def finish (trail : Trail) : Endpoint := (trail.hops.getLast?.map Hop.arrival).getD trail.start

/-- The choice of stored links that the trail makes. -/
def places (trail : Trail) : Endpoint × List (Span × Nat) := (trail.start, trail.hops.map Hop.place)

def route (trail : Trail) : Route where
  start := trail.start
  links := trail.hops.map Hop.followed
  guarantee := Connection.runningMeet (trail.hops.map Hop.link)

def snoc (trail : Trail) (hop : Hop) : Trail := { trail with hops := trail.hops ++ [hop] }

end Trail

namespace Wiring

/-- A chain of stored links from an endpoint of the start on, under which some are stored,
that visits no endpoint twice and whose running meet satisfies the requirement. -/
structure IsPath (wiring : Wiring) (requirement : Connection) (start : DeviceId)
    (trail : Trail) : Prop where
  departs : trail.start.device = start ∧ wiring.HasEntryAt trail.start
  stored : ∀ hop ∈ trail.hops, hop.IsStored wiring
  leads : ∀ hop ∈ trail.hops, hop.link.Leads hop.span.source hop.arrival
  connected : Connected trail.start trail.hops
  simple : trail.stops.Nodup
  satisfies : trail.hops ≠ [] →
    ∃ common, Connection.runningMeet (trail.hops.map Hop.link) = some common ∧
      common.satisfies requirement = true

/-- A path of at least one link that enters the target with its last link and
not before. -/
structure IsTrail (wiring : Wiring) (requirement : Connection) (start target : DeviceId)
    (trail : Trail) : Prop extends wiring.IsPath requirement start trail where
  nonempty : trail.hops ≠ []
  arrives : trail.finish.device = target
  firstArrival : ∀ hop ∈ trail.hops.dropLast, hop.arrival.device ≠ target

end Wiring

/-! ## One more hop -/

theorem connected_append {departure : Endpoint} {hops : List Hop} {hop : Hop} :
    Connected departure (hops ++ [hop]) ↔
      Connected departure hops ∧
        hop.span.source = (hops.getLast?.map Hop.arrival).getD departure := by
  induction hops generalizing departure with
  | nil => simp [Connected]
  | cons first others ih =>
    rw [List.cons_append, Connected, Connected, ih, and_assoc]
    cases others with
    | nil => simp
    | cons second rest => simp [List.getLast?_cons]

namespace Connection

theorem runningMeet_append {links : List Connection} (hne : links ≠ []) (link : Connection) :
    runningMeet (links ++ [link]) =
      (runningMeet links).bind fun current => (current.meet link.unanchored).toOption := by
  cases links with
  | nil => exact absurd rfl hne
  | cons first others => simp [runningMeet]

/-- The running meet exists and offers exactly what every link offers. -/
theorem runningMeet_eq_some {links : List Connection} (hne : links ≠ []) :
    ∃ common, runningMeet links = some common ∧ common.anchor = none ∧
      ∀ tags, common.Offers tags ↔ ∀ link ∈ links, link.Offers tags := by
  induction links using List.reverseRecOn with
  | nil => exact absurd rfl hne
  | append_singleton earlier link ih =>
    by_cases hearlier : earlier = []
    · subst hearlier
      exact ⟨link.unanchored, rfl, rfl, fun tags => by simp⟩
    · obtain ⟨current, hcurrent, hanchor, hoffers⟩ := ih hearlier
      obtain ⟨common, hcommon, hnone, hmeet⟩ := meet_eq_ok hanchor link.anchor_unanchored
      refine ⟨common, ?_, hnone, fun tags => ?_⟩
      · rw [runningMeet_append hearlier, hcurrent, Option.bind_some, hcommon]
        rfl
      · rw [hmeet, hoffers, offers_unanchored]
        simp [or_imp, forall_and]

/-- What a chain satisfies, every shorter one satisfies. -/
theorem satisfies_of_runningMeet_append {links : List Connection} (hne : links ≠ [])
    {link requirement : Connection}
    (hsatisfies : ∃ common, runningMeet (links ++ [link]) = some common ∧
      common.satisfies requirement = true) :
    ∃ common, runningMeet links = some common ∧ common.satisfies requirement = true := by
  obtain ⟨longer, hlonger, hsatisfied⟩ := hsatisfies
  obtain ⟨common, hcommon, -, hoffers⟩ := runningMeet_eq_some hne
  have hlonger' : links ++ [link] ≠ [] := by simp
  obtain ⟨common', hcommon', -, hoffers'⟩ := runningMeet_eq_some hlonger'
  obtain rfl : longer = common' := Option.some.inj (hlonger.symm.trans hcommon')
  obtain ⟨tags, hmem, hoffered⟩ := satisfies_iff.mp hsatisfied
  have hshorter : common.Offers tags := by
    apply (hoffers tags).mpr
    intro item hitem
    exact (hoffers' tags).mp hoffered item (List.mem_append_left _ hitem)
  exact ⟨common, hcommon, satisfies_iff.mpr ⟨tags, hmem, hshorter⟩⟩

end Connection

namespace Trail

variable {trail : Trail} {hop : Hop}

@[simp]
theorem finish_snoc : (trail.snoc hop).finish = hop.arrival := by simp [finish, snoc]

@[simp]
theorem hops_snoc : (trail.snoc hop).hops = trail.hops ++ [hop] := rfl

theorem stops_snoc : (trail.snoc hop).stops = trail.stops ++ [hop.arrival] := by
  simp [stops, snoc]

theorem connected_snoc :
    Connected (trail.snoc hop).start (trail.snoc hop).hops ↔
      Connected trail.start trail.hops ∧ hop.span.source = trail.finish :=
  connected_append

theorem places_snoc :
    (trail.snoc hop).places = (trail.start, trail.hops.map Hop.place ++ [hop.place]) := by
  simp [places, snoc]

/-- A trail is empty or has a last hop. -/
theorem eq_snoc_of_hops_ne_nil (hne : trail.hops ≠ []) :
    ∃ shorter : Trail, ∃ last, trail = shorter.snoc last :=
  ⟨⟨trail.start, trail.hops.dropLast⟩, trail.hops.getLast hne, by
    simp [snoc, List.dropLast_append_getLast hne]⟩

theorem stops_route : trail.route.stops = trail.stops := by
  simp [Route.stops, Route.arrivals, stops, route, Hop.followed, Function.comp_def,
    Connection.attachedAt, Connection.withAnchor]

theorem finish_route : trail.route.finish = trail.finish := by
  rw [Route.finish, finish, route, List.getLast?_map]
  cases trail.hops.getLast? with
  | none => rfl
  | some hop => rfl

theorem departure_mem_stops (hconnected : Connected trail.start trail.hops)
    (hhop : hop ∈ trail.hops) : hop.span.source ∈ trail.stops := by
  obtain ⟨start, hops⟩ := trail
  simp only [stops] at *
  induction hops generalizing start with
  | nil => simp at hhop
  | cons first others ih =>
    obtain ⟨hfirst, hothers⟩ := hconnected
    rcases List.mem_cons.mp hhop with rfl | hmem
    · exact hfirst ▸ List.mem_cons_self
    · exact List.mem_cons_of_mem _ (ih first.arrival hothers hmem)

theorem finish_mem_stops (trail : Trail) : trail.finish ∈ trail.stops := by
  by_cases hne : trail.hops = []
  · simp [finish, stops, hne]
  · obtain ⟨shorter, last, rfl⟩ := eq_snoc_of_hops_ne_nil hne
    simp [stops_snoc]

end Trail

end LabMatch
