import LabMatch.Proofs.Wiring.Mirrored
import LabMatch.Proofs.Wiring.Search
import Mathlib.Logic.Relation

/-!
# Routes and reachability

The search enumerates simple paths.  Whether some route delivers a tag set is a
simpler question: can the target be reached over links that offer it?  A walk may
visit endpoints and the target any number of times; cutting out its loops and
stopping at the first arrival leaves a trail.
-/

namespace LabMatch

def Connection.WorksBothWays (link : Connection) : Prop := link.anchor.any (·.oneWay) = false

namespace Wiring

variable (wiring : Wiring) (tags : TagSet) (bothWays : Bool)

/-- A stored link that offers the tags leads from one endpoint to the other.  Only
links that work both ways count if this is asked for. -/
def Steps (source target : Endpoint) : Prop :=
  ∃ peer, ∃ link ∈ wiring.get ⟨source, peer⟩,
    link.Leads source target ∧ link.Offers tags ∧ (bothWays = true → link.WorksBothWays)

/-- Some walk leads from a node of one device to a node of the other. -/
def Reaches (start target : DeviceId) : Prop :=
  ∃ source destination : Endpoint, source.device = start ∧ destination.device = target ∧
    Relation.ReflTransGen (wiring.Steps tags bothWays) source destination

/-- The hop follows a stored link that offers the tags, in both directions if this
is asked for. -/
structure Carries (hop : Hop) : Prop where
  stored : hop.IsStored wiring
  leads : hop.link.Leads hop.span.source hop.arrival
  offers : hop.link.Offers tags
  worksBothWays : bothWays = true → hop.link.WorksBothWays

variable {wiring tags bothWays} {requirement : Connection} {start target : DeviceId}

theorem Carries.steps {hop : Hop} (hcarries : wiring.Carries tags bothWays hop) :
    wiring.Steps tags bothWays hop.span.source hop.arrival :=
  ⟨hop.span.target, hop.link, List.mem_of_getElem? hcarries.stored, hcarries.leads,
    hcarries.offers, hcarries.worksBothWays⟩

theorem Steps.exists_hop {source destination : Endpoint}
    (hsteps : wiring.Steps tags bothWays source destination) :
    ∃ hop : Hop, hop.span.source = source ∧ hop.arrival = destination ∧
      wiring.Carries tags bothWays hop := by
  obtain ⟨peer, link, hlink, hleads, hoffers, hworks⟩ := hsteps
  obtain ⟨position, hposition⟩ := List.getElem?_of_mem hlink
  exact ⟨⟨⟨source, peer⟩, position, link, destination⟩, rfl, rfl, hposition, hleads, hoffers,
    hworks⟩

/-! ## From trails to walks -/

theorem reflTransGen_of_connected {departure : Endpoint} {hops : List Hop}
    (hconnected : Connected departure hops)
    (hcarries : ∀ hop ∈ hops, wiring.Carries tags bothWays hop) :
    Relation.ReflTransGen (wiring.Steps tags bothWays) departure
      (Trail.mk departure hops).finish := by
  induction hops using List.reverseRecOn with
  | nil => exact Relation.ReflTransGen.refl
  | append_singleton earlier hop ih =>
    rw [List.forall_mem_append, List.forall_mem_singleton] at hcarries
    obtain ⟨hearlier, hdeparture⟩ := connected_append.mp hconnected
    have hstep := hcarries.2.steps
    have hfinish : (Trail.mk departure (earlier ++ [hop])).finish = hop.arrival := by
      simp [Trail.finish]
    rw [hdeparture] at hstep
    rw [hfinish]
    exact (ih hearlier hcarries.1).tail hstep

/-! ## From walks to trails -/

/-- A trail without loops that ends where it first enters the target. -/
structure IsDirect (wiring : Wiring) (tags : TagSet) (bothWays : Bool) (target : DeviceId)
    (trail : Trail) : Prop where
  connected : Connected trail.start trail.hops
  carries : ∀ hop ∈ trail.hops, wiring.Carries tags bothWays hop
  simple : trail.stops.Nodup
  arrives : trail.finish.device = target
  firstArrival : ∀ stop ∈ trail.stops.dropLast, stop.device ≠ target

/-- The rest of a trail from any of its stops on. -/
theorem IsDirect.exists_from {trail : Trail}
    (hdirect : wiring.IsDirect tags bothWays target trail) {stop : Endpoint}
    (hstop : stop ∈ trail.stops) :
    ∃ rest : Trail, rest.start = stop ∧ wiring.IsDirect tags bothWays target rest := by
  obtain ⟨start, hops⟩ := trail
  induction hops generalizing start with
  | nil =>
    obtain rfl : stop = start := by simpa [Trail.stops] using hstop
    exact ⟨_, rfl, hdirect⟩
  | cons hop others ih =>
    rcases List.mem_cons.mp hstop with rfl | hlater
    · exact ⟨_, rfl, hdirect⟩
    · apply ih hop.arrival _ hlater
      obtain ⟨⟨-, hconnected⟩, hcarries, hsimple, harrives, hfirst⟩ := hdirect
      constructor
      · exact hconnected
      · exact fun hop hmem => hcarries hop (List.mem_cons_of_mem _ hmem)
      · exact (List.nodup_cons.mp hsimple).2
      · rw [← harrives, Trail.finish, Trail.finish]
        cases others with
        | nil => rfl
        | cons second rest => simp [List.getLast?_cons]
      · intro other hother
        apply hfirst
        exact List.mem_cons_of_mem _ hother

theorem isDirect_nil {stop : Endpoint} (htarget : stop.device = target) :
    wiring.IsDirect tags bothWays target ⟨stop, []⟩ where
  connected := trivial
  carries := by simp
  simple := by simp [Trail.stops]
  arrives := htarget
  firstArrival := by simp [Trail.stops]

theorem IsDirect.cons {trail : Trail} (hdirect : wiring.IsDirect tags bothWays target trail)
    {hop : Hop} (hcarries : wiring.Carries tags bothWays hop) (harrival : hop.arrival = trail.start)
    (hfresh : hop.span.source ∉ trail.stops) (hopen : hop.span.source.device ≠ target) :
    wiring.IsDirect tags bothWays target ⟨hop.span.source, hop :: trail.hops⟩ := by
  have hstops : Trail.stops ⟨hop.span.source, hop :: trail.hops⟩ =
      hop.span.source :: trail.stops := by
    simp [Trail.stops, harrival]
  constructor
  · exact ⟨rfl, harrival ▸ hdirect.connected⟩
  · exact List.forall_mem_cons.mpr ⟨hcarries, hdirect.carries⟩
  · rw [hstops]
    exact List.nodup_cons.mpr ⟨hfresh, hdirect.simple⟩
  · rw [← hdirect.arrives, Trail.finish, Trail.finish]
    cases trail.hops with
    | nil => simp [harrival]
    | cons second rest => simp [List.getLast?_cons]
  · rw [hstops, List.dropLast_cons_of_ne_nil (by simp [Trail.stops])]
    exact List.forall_mem_cons.mpr ⟨hopen, hdirect.firstArrival⟩

/-- Every walk to the target can be cut down to a direct trail. -/
theorem exists_isDirect {source destination : Endpoint}
    (hwalk : Relation.ReflTransGen (wiring.Steps tags bothWays) source destination)
    (htarget : destination.device = target) :
    ∃ trail : Trail, trail.start = source ∧ wiring.IsDirect tags bothWays target trail := by
  induction hwalk using Relation.ReflTransGen.head_induction_on with
  | refl => exact ⟨_, rfl, isDirect_nil htarget⟩
  | @head departure next hstep _ ih =>
    obtain ⟨trail, hstart, hdirect⟩ := ih
    by_cases harrived : departure.device = target
    · exact ⟨_, rfl, isDirect_nil harrived⟩
    · by_cases hvisited : departure ∈ trail.stops
      · exact hdirect.exists_from hvisited
      · obtain ⟨hop, rfl, harrival, hcarries⟩ := hstep.exists_hop
        exact ⟨_, rfl, hdirect.cons hcarries (harrival.trans hstart.symm) hvisited harrived⟩

/-- A trail with stored hops departs from where the first of them is stored. -/
theorem hasEntryAt_start {trail : Trail} (hconnected : Connected trail.start trail.hops)
    (hne : trail.hops ≠ []) (hstored : ∀ hop ∈ trail.hops, hop.IsStored wiring) :
    wiring.HasEntryAt trail.start := by
  obtain ⟨start, hops⟩ := trail
  cases hops with
  | nil => exact absurd rfl hne
  | cons first others =>
    have hfirst := hstored first List.mem_cons_self
    obtain ⟨rfl, -⟩ := hconnected
    apply hasEntryAt_of_get_ne_nil
    intro hempty
    simp [Hop.IsStored, hempty] at hfirst

/-- A direct trail between two devices is found by the search. -/
theorem IsDirect.isTrail {trail : Trail} (hdirect : wiring.IsDirect tags bothWays target trail)
    (hstart : trail.start.device = start) (hne : start ≠ target)
    (htags : tags ∈ requirement.alternatives) :
    wiring.IsTrail requirement start target trail := by
  have hhops : trail.hops ≠ [] := by
    intro hempty
    apply hne
    rw [← hstart, ← hdirect.arrives, Trail.finish, hempty]
    rfl
  constructor
  · constructor
    · exact ⟨hstart, hasEntryAt_start hdirect.connected hhops fun hop hmem =>
        (hdirect.carries hop hmem).stored⟩
    · exact fun hop hmem => (hdirect.carries hop hmem).stored
    · exact fun hop hmem => (hdirect.carries hop hmem).leads
    · exact hdirect.connected
    · exact hdirect.simple
    · intro _
      obtain ⟨common, hcommon, -, hoffers⟩ :=
        Connection.runningMeet_eq_some (show trail.hops.map Hop.link ≠ [] by simpa using hhops)
      have hoffered : common.Offers tags := by
        apply (hoffers tags).mpr
        intro link hlink
        obtain ⟨hop, hmem, rfl⟩ := List.mem_map.mp hlink
        exact (hdirect.carries hop hmem).offers
      exact ⟨common, hcommon, Connection.satisfies_iff.mpr ⟨tags, htags, hoffered⟩⟩
  · exact hhops
  · exact hdirect.arrives
  · intro hop hmem
    apply hdirect.firstArrival
    rw [Trail.stops, List.dropLast_cons_of_ne_nil (by simpa using hhops), ← List.map_dropLast]
    exact List.mem_cons_of_mem _ (List.mem_map_of_mem hmem)

/-- Some trail of the search carries the tags exactly if the target can be reached
over links that offer them. -/
theorem exists_isTrail_iff_reaches (hne : start ≠ target)
    (htags : tags ∈ requirement.alternatives) :
    (∃ trail, wiring.IsTrail requirement start target trail ∧
      ∀ hop ∈ trail.hops, wiring.Carries tags bothWays hop) ↔
        wiring.Reaches tags bothWays start target := by
  constructor
  · intro hfound
    obtain ⟨trail, htrail, hcarries⟩ := hfound
    exact ⟨trail.start, trail.finish, htrail.departs.1, htrail.arrives,
      reflTransGen_of_connected htrail.connected hcarries⟩
  · intro hreaches
    obtain ⟨source, destination, hsource, hdestination, hwalk⟩ := hreaches
    obtain ⟨trail, hstart, hdirect⟩ := exists_isDirect hwalk hdestination
    exact ⟨trail, hdirect.isTrail (hstart ▸ hsource) hne htags, hdirect.carries⟩

/-! ## Walking back -/

/-- A link that works both ways and joins two devices can be followed back. -/
theorem IsMirrored.steps_symm (hmirrored : wiring.IsMirrored) {source target : Endpoint}
    (hsteps : wiring.Steps tags true source target) : wiring.Steps tags true target source := by
  obtain ⟨peer, link, hlink, ⟨anchor, hanchor, hends⟩, hoffers, hworks⟩ := hsteps
  have hboth : anchor.oneWay = false := by
    simpa [Connection.WorksBothWays, hanchor] using hworks rfl
  have hspan : anchor.toSpan = ⟨source, peer⟩ := by
    obtain ⟨_, hanchor', hspan | ⟨honeWay, -⟩⟩ := hmirrored.anchored _ link hlink
    · rwa [Option.some.inj (hanchor.symm.trans hanchor')]
    · rw [← Option.some.inj (hanchor.symm.trans hanchor'), hboth] at honeWay
      cases honeWay
  have hdistinct := hmirrored.distinct _ (List.ne_nil_of_mem hlink)
  have hpeer : peer = target := by
    cases hends with
    | inl hforward => exact (Span.mk.inj (hspan.symm.trans hforward)).2
    | inr hbackward =>
      obtain ⟨hsource, hpeer⟩ := Span.mk.inj (hspan.symm.trans hbackward.2)
      exact absurd (by rw [hpeer]) hdistinct
  subst hpeer
  have hback : link.farCopy ∈ wiring.get ⟨peer, source⟩ := by
    have hmirror := hmirrored.mirrored ⟨source, peer⟩
    rw [Span.flip] at hmirror
    rw [hmirror]
    exact List.mem_map_of_mem hlink
  have hflip : link.farCopy.anchor = some anchor.flip := by
    simp [Connection.farCopy, hanchor, hboth, Connection.flip]
  have hleads : link.farCopy.Leads peer source :=
    ⟨anchor.flip, hflip, Or.inl (by rw [Anchor.flip, hspan])⟩
  have hoffered : link.farCopy.Offers tags := by
    rw [Connection.Offers, Connection.alternatives_farCopy]
    exact hoffers
  have hworks' : link.farCopy.WorksBothWays := by
    rw [Connection.WorksBothWays, hflip]
    exact hboth
  exact ⟨source, link.farCopy, hback, hleads, hoffered, fun _ => hworks'⟩

/-- Walks over links that work both ways lead back. -/
theorem IsMirrored.reaches_symm (hmirrored : wiring.IsMirrored)
    (hreaches : wiring.Reaches tags true start target) : wiring.Reaches tags true target start := by
  obtain ⟨source, destination, hsource, hdestination, hwalk⟩ := hreaches
  have hback : Relation.ReflTransGen (wiring.Steps tags true) destination source := by
    clear hdestination
    induction hwalk with
    | refl => exact Relation.ReflTransGen.refl
    | tail _ hstep ih => exact Relation.ReflTransGen.head (hmirrored.steps_symm hstep) ih
  exact ⟨destination, source, hdestination, hsource, hback⟩

/-! ## What routes deliver -/

end Wiring

namespace Route

variable {route : Route} {guarantee requirement : Connection}

theorem satisfies_iff (hguarantee : route.guarantee = some guarantee) :
    route.satisfies requirement = true ↔
      ∃ tags ∈ requirement.alternatives, guarantee.Offers tags := by
  rw [Route.satisfies, hguarantee]
  exact Connection.satisfies_iff

/-- A route delivers the alternatives of the requirement that its guarantee offers. -/
theorem exists_delivered (hguarantee : route.guarantee = some guarantee)
    (hoffered : ∃ tags ∈ requirement.alternatives, guarantee.Offers tags) :
    ∃ delivered, route.delivered requirement = some delivered ∧
      delivered.anchor = some ⟨⟨route.start, route.finish⟩, !route.worksBothWays⟩ ∧
      ∀ tags, tags ∈ delivered.alternatives ↔
        tags ∈ requirement.alternatives ∧ guarantee.Offers tags := by
  obtain ⟨tags, htags, hoffers⟩ := hoffered
  have hmem : ∀ tags, tags ∈ requirement.alternatives.filter (fun tags =>
      guarantee.alternatives.any tags.coveredBy) ↔
        tags ∈ requirement.alternatives ∧ guarantee.Offers tags := by
    simp [Connection.Offers]
  have hne := List.ne_nil_of_mem ((hmem tags).mpr ⟨htags, hoffers⟩)
  obtain ⟨delivered, hdelivered, hanchor, hoffered⟩ := Connection.ofAlternatives_eq_ok hne
    (some ⟨⟨route.start, route.finish⟩, !route.worksBothWays⟩)
  refine ⟨delivered, ?_, hanchor, fun tags => (hoffered tags).trans (hmem tags)⟩
  rw [Route.delivered, hguarantee]
  dsimp only
  rw [hdelivered]
  rfl

theorem delivered_eq_none (hguarantee : route.guarantee = some guarantee)
    (hnone : ¬ ∃ tags ∈ requirement.alternatives, guarantee.Offers tags) :
    route.delivered requirement = none := by
  have hempty : requirement.alternatives.filter (fun tags =>
      guarantee.alternatives.any tags.coveredBy) = [] := by
    rw [List.filter_eq_nil_iff]
    intro tags htags hoffers
    exact hnone ⟨tags, htags, by simpa [Connection.Offers] using hoffers⟩
  rw [Route.delivered, hguarantee]
  dsimp only
  rw [hempty]
  rfl

end Route

namespace Wiring

/-- A route works both ways if all of its links do. -/
theorem worksBothWays_route {trail : Trail} :
    trail.route.worksBothWays = true ↔ ∀ hop ∈ trail.hops, hop.link.WorksBothWays := by
  simp [Route.worksBothWays, Trail.route, Hop.followed, Connection.attachedAt,
    Connection.withAnchor, Connection.WorksBothWays]

variable {wiring : Wiring} {requirement : Connection} {start target : DeviceId}

/-- The route of a trail delivers what all of its links offer. -/
theorem IsTrail.delivered_eq_some {trail : Trail}
    (htrail : wiring.IsTrail requirement start target trail) :
    ∃ delivered, trail.route.delivered requirement = some delivered ∧
      ∀ tags, tags ∈ delivered.alternatives ↔
        tags ∈ requirement.alternatives ∧ ∀ hop ∈ trail.hops, hop.link.Offers tags := by
  have hlinks : trail.hops.map Hop.link ≠ [] := by simpa using htrail.nonempty
  obtain ⟨common, hcommon, -, hoffers⟩ := Connection.runningMeet_eq_some hlinks
  obtain ⟨common', hcommon', hsatisfies⟩ := htrail.satisfies htrail.nonempty
  obtain rfl : common = common' := Option.some.inj (hcommon.symm.trans hcommon')
  have hguarantee : trail.route.guarantee = some common := hcommon
  obtain ⟨delivered, hdelivered, -, hmem⟩ :=
    Route.exists_delivered hguarantee (Connection.satisfies_iff.mp hsatisfies)
  refine ⟨delivered, hdelivered, fun tags => ?_⟩
  rw [hmem, hoffers]
  simp

end Wiring

end LabMatch
