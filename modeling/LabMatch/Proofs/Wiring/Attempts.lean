import LabMatch.Proofs.Wiring.Reach

/-!
# Attempts to extend a route

Any link may be tried at the end of a route.  Those that cannot be followed from
there are refused and leave the route as it is.  Whatever was tried, the recorded
links form a chain, and the guarantee is the meet of the accepted links, so the
route satisfies and delivers exactly what all of them offer.
-/

namespace LabMatch

/-- Every link is anchored where the one before it ended, from the first endpoint
to the last. -/
def Chained : Endpoint → List Connection → Endpoint → Prop
  | departure, [], finish => departure = finish
  | departure, link :: others, finish =>
    ∃ anchor, link.anchor = some anchor ∧ anchor.source = departure ∧
      Chained anchor.target others finish

/-- The link itself or, if it works both ways, the link seen from its other end. -/
def Connection.TurnedInto (link recorded : Connection) : Prop :=
  recorded = link ∨ (link.WorksBothWays ∧ recorded = link.flip)

namespace Route

/-- The route after a link was tried; a refused one leaves it as it was. -/
def attempt (route : Route) (link : Connection) : Route :=
  match route.append link with
  | .ok longer => longer
  | .error _ => route

/-- The route after links were tried one after the other. -/
def afterTrying (start : Endpoint) (attempts : List Connection) : Route :=
  attempts.foldl attempt (atStart start)

def accepted (route : Route) : List Connection → List Connection
  | [] => []
  | link :: later =>
    match route.append link with
    | .ok longer => link :: longer.accepted later
    | .error _ => route.accepted later

/-- The route was made of the appended links. -/
structure Records (route : Route) (start : Endpoint) (appended : List Connection) : Prop where
  departs : route.start = start
  recorded : List.Forall₂ Connection.TurnedInto appended route.links
  chained : Chained start route.links route.finish
  guarantee : route.guarantee = Connection.runningMeet appended

end Route

theorem Chained.concat {departure finish : Endpoint} {links : List Connection}
    (hchained : Chained departure links finish) {link : Connection} {anchor : Anchor}
    (hanchor : link.anchor = some anchor) (hsource : anchor.source = finish) :
    Chained departure (links ++ [link]) anchor.target := by
  induction links generalizing departure with
  | nil =>
    obtain rfl : departure = finish := hchained
    exact ⟨anchor, hanchor, hsource, rfl⟩
  | cons first others ih =>
    obtain ⟨earlier, hfirst, hdeparture, hothers⟩ := hchained
    exact ⟨earlier, hfirst, hdeparture, ih hothers⟩

namespace Connection

variable {link recorded : Connection} {finish : Endpoint}

theorem TurnedInto.worksBothWays (hturned : link.TurnedInto recorded) :
    recorded.WorksBothWays ↔ link.WorksBothWays := by
  cases hturned with
  | inl hsame => rw [hsame]
  | inr hflipped =>
    obtain ⟨hworks, rfl⟩ := hflipped
    refine iff_of_true ?_ hworks
    rw [WorksBothWays, flip, Option.any_map]
    exact hworks

/-- A link that is followed keeps what it offers, and now starts at the end of the
route. -/
theorem of_follow_eq_ok (hfollowed : Route.follow finish link = .ok recorded) :
    link.TurnedInto recorded ∧ recorded.unanchored = link.unanchored ∧
      ∃ anchor, recorded.anchor = some anchor ∧ anchor.source = finish := by
  cases hanchor : link.anchor with
  | none => simp [Route.follow, hanchor] at hfollowed
  | some anchor =>
    simp only [Route.follow, hanchor] at hfollowed
    split at hfollowed
    · rename_i hsource
      cases hfollowed
      exact ⟨Or.inl rfl, rfl, anchor, hanchor, hsource⟩
    · split at hfollowed
      · rename_i hbackward
        cases hfollowed
        simp only [Bool.and_eq_true, Bool.not_eq_true', decide_eq_true_eq] at hbackward
        refine ⟨Or.inr ⟨?_, rfl⟩, rfl, anchor.flip, ?_, hbackward.2⟩
        · simpa [WorksBothWays, hanchor] using hbackward.1
        · simp [flip, hanchor]
      · cases hfollowed

/-- Why a link cannot be followed from an endpoint. -/
theorem follow_eq_error_iff {reason : RouteError} :
    Route.follow finish link = .error reason ↔
      (link.anchor = none ∧ reason = .unanchored link.text) ∨
        ∃ anchor, link.anchor = some anchor ∧ anchor.source ≠ finish ∧
          ¬ (anchor.oneWay = false ∧ anchor.target = finish) ∧
            reason = .chainBreak finish anchor.source := by
  cases hanchor : link.anchor with
  | none =>
    simp only [Route.follow, hanchor]
    grind
  | some anchor =>
    simp only [Route.follow, hanchor]
    grind

end Connection

namespace Route

variable {route longer : Route} {start : Endpoint} {appended : List Connection}
variable {link requirement : Connection}

theorem finish_concat {guarantee : Option Connection} {links : List Connection} {anchor : Anchor}
    (hanchor : link.anchor = some anchor) :
    finish ⟨start, links ++ [link], guarantee⟩ = anchor.target := by
  simp [finish, hanchor]

theorem records_atStart (start : Endpoint) : (atStart start).Records start [] where
  departs := rfl
  recorded := List.Forall₂.nil
  chained := rfl
  guarantee := rfl

/-- A link that can be followed from the end of the route is appended. -/
theorem Records.append_eq_ok (hrecords : route.Records start appended) {followed : Connection}
    (hfollow : follow route.finish link = .ok followed) :
    ∃ common, Connection.runningMeet (appended ++ [link]) = some common ∧
      route.append link = .ok ⟨route.start, route.links ++ [followed], some common⟩ := by
  obtain ⟨common, hmeet, hnarrow⟩ :
      ∃ common, Connection.runningMeet (appended ++ [link]) = some common ∧
        narrow route.guarantee followed = .ok common := by
    obtain ⟨-, hunanchored, -⟩ := Connection.of_follow_eq_ok hfollow
    rw [hrecords.guarantee]
    by_cases hne : appended = []
    · subst hne
      exact ⟨link.unanchored, rfl, congrArg Except.ok hunanchored⟩
    · obtain ⟨current, hcurrent, hanchor, -⟩ := Connection.runningMeet_eq_some hne
      obtain ⟨common, hcommon, -, -⟩ := Connection.meet_eq_ok hanchor link.anchor_unanchored
      refine ⟨common, ?_, ?_⟩
      · rw [Connection.runningMeet_append hne, hcurrent, Option.bind_some, hcommon]
        rfl
      · rw [hcurrent, narrow, hunanchored, hcommon]
  refine ⟨common, hmeet, ?_⟩
  rw [append, hfollow]
  change ((narrow route.guarantee followed).mapError RouteError.connection >>= _) = _
  rw [hnarrow]
  rfl

/-- A link is refused exactly if it cannot be followed from the end of the route. -/
theorem Records.append_eq_error_iff (hrecords : route.Records start appended)
    {reason : RouteError} :
    route.append link = .error reason ↔ follow route.finish link = .error reason := by
  cases hfollow : follow route.finish link with
  | error failure =>
    rw [append, hfollow]
    simp [bind, Except.bind]
  | ok followed =>
    obtain ⟨common, -, happend⟩ := hrecords.append_eq_ok hfollow
    simp [happend]

/-- A link is refused exactly if it has no anchor, or cannot be followed from where the route ends.
-/
theorem Records.refuses_iff (hrecords : route.Records start appended) :
    (∃ reason, route.append link = .error reason) ↔
      link.anchor = none ∨ ∃ anchor, link.anchor = some anchor ∧ anchor.source ≠ route.finish ∧
        ¬ (anchor.oneWay = false ∧ anchor.target = route.finish) := by
  simp only [hrecords.append_eq_error_iff, Connection.follow_eq_error_iff]
  constructor
  · rintro ⟨reason, ⟨hnone, -⟩ | ⟨anchor, hanchor, hsource, htarget, -⟩⟩
    · exact Or.inl hnone
    · exact Or.inr ⟨anchor, hanchor, hsource, htarget⟩
  · rintro (hnone | ⟨anchor, hanchor, hsource, htarget⟩)
    · exact ⟨_, Or.inl ⟨hnone, rfl⟩⟩
    · exact ⟨_, Or.inr ⟨anchor, hanchor, hsource, htarget, rfl⟩⟩

/-- One more link keeps the route a record of what was appended. -/
theorem Records.append (hrecords : route.Records start appended)
    (happend : route.append link = .ok longer) : longer.Records start (appended ++ [link]) := by
  cases hfollow : follow route.finish link with
  | error reason => simp [hrecords.append_eq_error_iff.mpr hfollow] at happend
  | ok followed =>
    obtain ⟨common, hmeet, hlonger⟩ := hrecords.append_eq_ok hfollow
    obtain rfl := Except.ok.inj (hlonger.symm.trans happend)
    obtain ⟨hturned, -, anchor, hanchor, hsource⟩ := Connection.of_follow_eq_ok hfollow
    constructor
    · exact hrecords.departs
    · exact List.rel_append hrecords.recorded (List.Forall₂.cons hturned List.Forall₂.nil)
    · rw [finish_concat hanchor]
      exact hrecords.chained.concat hanchor hsource
    · exact hmeet.symm

/-- Whatever is tried, the route records the accepted links. -/
theorem Records.foldl_attempt (hrecords : route.Records start appended)
    (attempts : List Connection) :
    (attempts.foldl attempt route).Records start (appended ++ route.accepted attempts) := by
  induction attempts generalizing route appended with
  | nil => simpa [accepted] using hrecords
  | cons link later ih =>
    rw [List.foldl_cons, accepted, attempt]
    cases happend : route.append link with
    | error reason => exact ih hrecords
    | ok longer =>
      have hlater := ih (hrecords.append happend)
      rwa [List.append_assoc, List.singleton_append] at hlater

/-- A route records the links that were accepted, whatever else was tried. -/
theorem records_afterTrying (start : Endpoint) (attempts : List Connection) :
    (afterTrying start attempts).Records start ((atStart start).accepted attempts) :=
  (records_atStart start).foldl_attempt attempts

theorem Records.worksBothWays (hrecords : route.Records start appended) :
    route.worksBothWays = true ↔ ∀ link ∈ appended, link.WorksBothWays := by
  obtain ⟨-, hrecorded, -, -⟩ := hrecords
  have hworks : route.worksBothWays = true ↔ ∀ link ∈ route.links, link.WorksBothWays := by
    simp [Route.worksBothWays, Connection.WorksBothWays]
  rw [hworks]
  clear hworks
  generalize route.links = links at hrecorded
  induction hrecorded with
  | nil => exact Iff.rfl
  | cons hturned _ ih =>
    rw [List.forall_mem_cons, List.forall_mem_cons]
    exact and_congr hturned.worksBothWays ih

/-- Before the first link nothing is satisfied or delivered. -/
theorem Records.nothing (hrecords : route.Records start []) :
    route.satisfies requirement = false ∧ route.delivered requirement = none := by
  rw [satisfies, delivered, hrecords.guarantee]
  exact ⟨rfl, rfl⟩

/-- A route offers what all of its links offer. -/
theorem Records.exists_guarantee (hrecords : route.Records start appended) (hne : appended ≠ []) :
    ∃ guarantee, route.guarantee = some guarantee ∧
      ∀ tags, guarantee.Offers tags ↔ ∀ link ∈ appended, link.Offers tags := by
  obtain ⟨guarantee, hmeet, -, hoffers⟩ := Connection.runningMeet_eq_some hne
  exact ⟨guarantee, hrecords.guarantee.trans hmeet, hoffers⟩

/-- Links are tried one after the other at the end of a route.  One is refused exactly if
it is not anchored, or neither starts at the end of the route nor works both ways and ends
there, and then changes nothing.  The accepted links, turned around where needed, form a
chain from the start to the end of the route.  Once there are any, the route guarantees
what every one of them offers: it satisfies a requirement if all of them offer one of its
alternatives, and delivers just those alternatives, anchored at its ends. -/
theorem attempts_chain_and_guarantee (start : Endpoint) (attempts : List Connection) :
    let route := afterTrying start attempts
    let appended := (atStart start).accepted attempts
    (∀ link, (∃ reason, route.append link = .error reason) ↔
        link.anchor = none ∨ ∃ anchor, link.anchor = some anchor ∧
          anchor.source ≠ route.finish ∧
            ¬ (anchor.oneWay = false ∧ anchor.target = route.finish)) ∧
      (∀ link reason, route.append link = .error reason →
        afterTrying start (attempts ++ [link]) = route) ∧
      List.Forall₂ Connection.TurnedInto appended route.links ∧
      Chained start route.links route.finish ∧
      (route.worksBothWays = true ↔ ∀ link ∈ appended, link.WorksBothWays) ∧
      (appended = [] → ∀ requirement,
        route.satisfies requirement = false ∧ route.delivered requirement = none) ∧
      (appended ≠ [] →
        (∃ guarantee, route.guarantee = some guarantee ∧
          ∀ tags, guarantee.Offers tags ↔ ∀ link ∈ appended, link.Offers tags) ∧
        ∀ requirement,
          (route.satisfies requirement = true ↔
            ∃ tags ∈ requirement.alternatives, ∀ link ∈ appended, link.Offers tags) ∧
          (route.delivered requirement = none ↔
            ¬ ∃ tags ∈ requirement.alternatives, ∀ link ∈ appended, link.Offers tags) ∧
          ∀ delivered, route.delivered requirement = some delivered →
            delivered.anchor = some ⟨⟨start, route.finish⟩, !route.worksBothWays⟩ ∧
              ∀ tags, tags ∈ delivered.alternatives ↔
                tags ∈ requirement.alternatives ∧ ∀ link ∈ appended, link.Offers tags) := by
  intro route appended
  have hrecords : route.Records start appended := records_afterTrying start attempts
  refine ⟨fun link => ?_, fun link reason hrefused => ?_, hrecords.recorded, hrecords.chained,
    hrecords.worksBothWays, fun hempty requirement => ?_, fun hne => ?_⟩
  · exact hrecords.refuses_iff
  · rw [afterTrying, List.foldl_concat]
    change attempt route link = route
    rw [attempt, hrefused]
  · exact (hempty ▸ hrecords).nothing
  · obtain ⟨guarantee, hguarantee, hoffers⟩ := hrecords.exists_guarantee hne
    refine ⟨⟨guarantee, hguarantee, hoffers⟩, fun requirement => ?_⟩
    simp only [← hoffers]
    refine ⟨satisfies_iff hguarantee, ?_⟩
    by_cases hoffered : ∃ tags ∈ requirement.alternatives, guarantee.Offers tags
    · obtain ⟨found, hfound, hanchor, hmem⟩ := exists_delivered hguarantee hoffered
      rw [hrecords.departs] at hanchor
      rw [hfound]
      refine ⟨by simp [hoffered], fun delivered hdelivered => ?_⟩
      obtain rfl := Option.some.inj hdelivered
      exact ⟨hanchor, hmem⟩
    · rw [delivered_eq_none hguarantee hoffered]
      exact ⟨iff_of_true rfl hoffered, fun _ hdelivered => by cases hdelivered⟩

/-- Links tried at the first port of a hub: one to the second port, a one-way link towards
it, and a link that works both ways and is given from its far end. -/
def hubAttempts : List Connection :=
  let lan := Connection.ofTags (TagSet.ofList ["lan"])
  let lanOrUart : Connection :=
    ⟨.either (.link (TagSet.ofList ["lan"])) (.link (TagSet.ofList ["uart"])) [], none⟩
  [lanOrUart.attachedAt ⟨⟨0⟩, "n0"⟩ ⟨⟨1⟩, "n0"⟩,
    lan.withAnchor ⟨⟨⟨⟨2⟩, "n0"⟩, ⟨⟨1⟩, "n0"⟩⟩, true⟩,
    lan.attachedAt ⟨⟨2⟩, "n0"⟩ ⟨⟨1⟩, "n0"⟩]

/-- Two of the links tried at the hub are accepted, and `lan` is delivered over both of them. -/
theorem attempts_chain_and_guarantee_hub :
    let start : Endpoint := ⟨⟨0⟩, "n0"⟩
    let lan := Connection.ofTags (TagSet.ofList ["lan"])
    ((atStart start).accepted hubAttempts).length = 2 ∧
      (∃ tags ∈ lan.alternatives, ∀ link ∈ (atStart start).accepted hubAttempts,
        link.Offers tags) ∧
      ∃ delivered, (afterTrying start hubAttempts).delivered lan = some delivered ∧
        delivered.anchor = some ⟨⟨start, ⟨⟨2⟩, "n0"⟩⟩, false⟩ := by
  intro start lan
  obtain ⟨-, -, -, -, -, -, hspec⟩ := attempts_chain_and_guarantee start hubAttempts
  have hlength : ((atStart start).accepted hubAttempts).length = 2 := by decide +kernel
  have hne : (atStart start).accepted hubAttempts ≠ [] := by
    intro hempty
    rw [hempty] at hlength
    cases hlength
  obtain ⟨hsatisfies, hnone, hdelivers⟩ := (hspec hne).2 lan
  have hoffered := hsatisfies.mp (by decide +kernel)
  obtain ⟨delivered, hdelivered⟩ := Option.ne_none_iff_exists'.mp
    (mt hnone.mp (not_not.mpr hoffered))
  refine ⟨hlength, hoffered, delivered, hdelivered, ?_⟩
  rw [(hdelivers delivered hdelivered).1]
  decide +kernel

end Route

end LabMatch
