import LabMatch.Matching.Check
import LabMatch.Proofs.Wiring.Reach
import LabMatch.Proofs.Wiring.Reduced

/-!
# Delivery between two endpoints

A placement delivers the links of a scenario through the setup.  For a linked pair
of endpoints, what is delivered are those of its alternatives for which the setup
has a walk between the two placed devices.  Either end of a link gives the same
delivery, up to the order of its ends.
-/

namespace LabMatch

def Delivery.ends (delivery : Delivery) : Span := ⟨delivery.source, delivery.target⟩

namespace Wiring

/-- The pair of endpoints is linked.  A link that works both ways links the pair in
both orders, a one-way link only in its declared direction. -/
def Linked (wiring : Wiring) (ends : Span) (bothWays : Bool) : Prop :=
  wiring.get ends ≠ [] ∧ ∀ link ∈ wiring.get ends, link.anchor = some ⟨ends, !bothWays⟩

def Asks (wiring : Wiring) (ends : Span) (tags : TagSet) : Prop :=
  ∃ link ∈ wiring.get ends, tags ∈ link.alternatives

/-- The links of one entry are anchored in one way. -/
def SharesAnchors (wiring : Wiring) : Prop :=
  ∀ span, ∀ link ∈ wiring.get span, ∀ other ∈ wiring.get span, link.anchor = other.anchor

end Wiring

/-- The tag set can be delivered between two placed devices. -/
def Placement.Delivers (placement : Placement) (setup : Wiring) (ends : Span) (bothWays : Bool)
    (tags : TagSet) : Prop :=
  ∃ start target, placement.get? ends.source.device = some start ∧
    placement.get? ends.target.device = some target ∧ setup.Reaches tags bothWays start target

/-- The tag set is an alternative of the linked pair that the setup can deliver. -/
def Placement.Conveys (placement : Placement) (scenario setup : Wiring) (ends : Span)
    (tags : TagSet) : Prop :=
  ∃ bothWays, scenario.Linked ends bothWays ∧ scenario.Asks ends tags ∧
    placement.Delivers setup ends bothWays tags

/-! ## One entry -/

section Entry

variable {setup : Wiring} {requirement : Connection} {bothWays : Bool} {start target : DeviceId}

def countedRoutes (setup : Wiring) (requirement : Connection) (bothWays : Bool)
    (start target : DeviceId) : List Route :=
  let found := setup.routes requirement start target
  if bothWays then found.filter Route.worksBothWays else found

def deliveredBy (setup : Wiring) (requirement : Connection) (bothWays : Bool)
    (start target : DeviceId) : List Connection :=
  (countedRoutes setup requirement bothWays start target).filterMap fun route =>
    (route.delivered requirement).map Connection.unanchored

/-- The routes that count are those of trails, which work both ways if this is asked for. -/
theorem mem_countedRoutes {route : Route} :
    route ∈ countedRoutes setup requirement bothWays start target ↔
      ∃ trail, setup.IsTrail requirement start target trail ∧ trail.route = route ∧
        (bothWays = true → ∀ hop ∈ trail.hops, hop.link.WorksBothWays) := by
  rw [countedRoutes, Wiring.routes_eq_map_route]
  cases bothWays with
  | true =>
    simp only [if_true, List.mem_filter, List.mem_map, Wiring.mem_trails_iff]
    constructor
    · rintro ⟨⟨trail, htrail, rfl⟩, hworks⟩
      exact ⟨trail, htrail, rfl, fun _ => Wiring.worksBothWays_route.mp hworks⟩
    · rintro ⟨trail, htrail, rfl, hworks⟩
      exact ⟨⟨trail, htrail, rfl⟩, Wiring.worksBothWays_route.mpr (hworks trivial)⟩
  | false => simp [Wiring.mem_trails_iff]

/-- What is delivered between two devices is what can be reached. -/
theorem exists_mem_deliveredBy_iff (hne : start ≠ target) {tags : TagSet} :
    (∃ connection ∈ deliveredBy setup requirement bothWays start target,
      tags ∈ connection.alternatives) ↔
        tags ∈ requirement.alternatives ∧ setup.Reaches tags bothWays start target := by
  constructor
  · rintro ⟨connection, hconnection, htags⟩
    rw [deliveredBy, List.mem_filterMap] at hconnection
    obtain ⟨route, hmem, hdelivered⟩ := hconnection
    obtain ⟨trail, htrail, rfl, hworks⟩ := mem_countedRoutes.mp hmem
    obtain ⟨delivered, hsome, halternatives⟩ := htrail.delivered_eq_some
    rw [hsome] at hdelivered
    cases hdelivered
    obtain ⟨hasked, hoffers⟩ := (halternatives tags).mp htags
    have hcarries : ∀ hop ∈ trail.hops, setup.Carries tags bothWays hop := by
      intro hop hhop
      exact ⟨htrail.stored hop hhop, htrail.leads hop hhop, hoffers hop hhop,
        fun hboth => hworks hboth hop hhop⟩
    exact ⟨hasked, (Wiring.exists_isTrail_iff_reaches hne hasked).mp ⟨trail, htrail, hcarries⟩⟩
  · rintro ⟨hasked, hreaches⟩
    obtain ⟨trail, htrail, hcarries⟩ := (Wiring.exists_isTrail_iff_reaches hne hasked).mpr hreaches
    obtain ⟨delivered, hsome, halternatives⟩ := htrail.delivered_eq_some
    have hcounted : trail.route ∈ countedRoutes setup requirement bothWays start target :=
      mem_countedRoutes.mpr ⟨trail, htrail, rfl, fun hboth hop hhop =>
        (hcarries hop hhop).worksBothWays hboth⟩
    have hmem : delivered.unanchored ∈ deliveredBy setup requirement bothWays start target :=
      List.mem_filterMap.mpr ⟨trail.route, hcounted, by rw [hsome]; rfl⟩
    exact ⟨delivered.unanchored, hmem,
      (halternatives tags).mpr ⟨hasked, fun hop hhop => (hcarries hop hhop).offers⟩⟩

theorem anchor_of_mem_deliveredBy {connection : Connection}
    (hconnection : connection ∈ deliveredBy setup requirement bothWays start target) :
    connection.anchor = none := by
  rw [deliveredBy, List.mem_filterMap] at hconnection
  obtain ⟨route, -, hdelivered⟩ := hconnection
  obtain ⟨delivered, -, rfl⟩ := Option.map_eq_some_iff.mp hdelivered
  rfl

variable (catalog : Catalog) {placement : Placement} {entry : Span × List Connection} {ends : Span}

/-- A requirement made of the links of an entry asks for their alternatives. -/
theorem exists_requirement (hlinks : entry.2 ≠ []) :
    ∃ requirement, Connection.anyOf (entry.2.map Connection.unanchored) = .ok requirement ∧
      ∀ tags, tags ∈ requirement.alternatives ↔ ∃ link ∈ entry.2, tags ∈ link.alternatives := by
  have hne : entry.2.map Connection.unanchored ≠ [] := by simpa using hlinks
  obtain ⟨requirement, hrequirement, -, halternatives⟩ :=
    Connection.anyOf_eq_ok hne (by simp)
  have hasked : ∀ tags, tags ∈ requirement.alternatives ↔
      ∃ link ∈ entry.2, tags ∈ link.alternatives := by
    intro tags
    rw [halternatives]
    simp
  exact ⟨requirement, hrequirement, hasked⟩

theorem deliver_eq (hends : Catalog.deliveryEnds entry.1 entry.2 = (ends, bothWays))
    (hstart : placement.get? ends.source.device = some start)
    (htarget : placement.get? ends.target.device = some target)
    (hrequirement : Connection.anyOf (entry.2.map Connection.unanchored) = .ok requirement) :
    catalog.deliver placement setup entry =
      if (deliveredBy setup requirement bothWays start target).isEmpty then
        .error (.noRoute (catalog.endpointPath ends.source) (catalog.endpointPath ends.target)
          requirement.text)
      else
        ((Connection.anyOf (deliveredBy setup requirement bothWays start target)).mapError
          ResolveError.connection).map fun connection =>
            some ⟨ends.source, ends.target, requirement, connection,
              countedRoutes setup requirement bothWays start target⟩ := by
  rw [Catalog.deliver, hends]
  dsimp only
  rw [hstart, htarget, hrequirement]
  by_cases hempty : (deliveredBy setup requirement bothWays start target).isEmpty
  · rw [if_pos hempty]
    exact if_pos hempty
  · rw [if_neg hempty]
    exact if_neg hempty

/-- An entry with an alternative that can be reached is delivered. -/
theorem deliver_eq_ok (hends : Catalog.deliveryEnds entry.1 entry.2 = (ends, bothWays))
    (hstart : placement.get? ends.source.device = some start)
    (htarget : placement.get? ends.target.device = some target) (hne : start ≠ target)
    (hreaches : ∃ link ∈ entry.2, ∃ tags ∈ link.alternatives,
      setup.Reaches tags bothWays start target) :
    ∃ delivery, catalog.deliver placement setup entry = .ok (some delivery) ∧
      delivery.ends = ends ∧ ∀ tags, tags ∈ delivery.connection.alternatives ↔
        (∃ link ∈ entry.2, tags ∈ link.alternatives) ∧
          setup.Reaches tags bothWays start target := by
  obtain ⟨link, hlink, tags, htags, hwalk⟩ := hreaches
  obtain ⟨requirement, hrequirement, hasked⟩ := exists_requirement (List.ne_nil_of_mem hlink)
  obtain ⟨connection, hconnection, -⟩ := (exists_mem_deliveredBy_iff hne).mpr
    ⟨(hasked tags).mpr ⟨link, hlink, htags⟩, hwalk⟩
  have hdelivered : deliveredBy setup requirement bothWays start target ≠ [] :=
    List.ne_nil_of_mem hconnection
  obtain ⟨joined, hjoined, -, halternatives⟩ :=
    Connection.anyOf_eq_ok hdelivered fun _ => anchor_of_mem_deliveredBy
  refine ⟨⟨ends.source, ends.target, requirement, joined,
    countedRoutes setup requirement bothWays start target⟩, ?_, rfl, fun tags => ?_⟩
  · rw [deliver_eq catalog hends hstart htarget hrequirement,
      if_neg fun hempty => hdelivered (List.isEmpty_iff.mp hempty), hjoined]
    rfl
  · rw [halternatives, exists_mem_deliveredBy_iff hne, hasked]

/-- An entry without such an alternative has no route. -/
theorem deliver_eq_error (hends : Catalog.deliveryEnds entry.1 entry.2 = (ends, bothWays))
    (hstart : placement.get? ends.source.device = some start)
    (htarget : placement.get? ends.target.device = some target) (hne : start ≠ target)
    (hlinks : entry.2 ≠ [])
    (hunreachable : ¬ ∃ link ∈ entry.2, ∃ tags ∈ link.alternatives,
      setup.Reaches tags bothWays start target) :
    ∃ requirement, catalog.deliver placement setup entry =
      .error (.noRoute (catalog.endpointPath ends.source) (catalog.endpointPath ends.target)
        requirement) := by
  obtain ⟨requirement, hrequirement, hasked⟩ := exists_requirement hlinks
  have hdelivered : deliveredBy setup requirement bothWays start target = [] := by
    by_contra hsome
    obtain ⟨connection, hconnection⟩ := List.exists_mem_of_ne_nil _ hsome
    obtain ⟨tags, htags⟩ := List.exists_mem_of_ne_nil _ connection.alternatives_ne_nil
    obtain ⟨hmem, hreaches⟩ := (exists_mem_deliveredBy_iff hne).mp ⟨connection, hconnection, htags⟩
    obtain ⟨link, hlink, htags⟩ := (hasked tags).mp hmem
    exact hunreachable ⟨link, hlink, tags, htags, hreaches⟩
  refine ⟨requirement.text, ?_⟩
  rw [deliver_eq catalog hends hstart htarget hrequirement, hdelivered]
  rfl

/-- What is delivered is not anchored at any link of the setup. -/
theorem anchor_of_deliver_eq_ok {delivery : Delivery}
    (hdelivery : catalog.deliver placement setup entry = .ok (some delivery)) :
    delivery.connection.anchor = none := by
  rw [Catalog.deliver] at hdelivery
  obtain ⟨⟨ends, bothWays⟩, hends⟩ :
      ∃ delivered, Catalog.deliveryEnds entry.1 entry.2 = delivered := ⟨_, rfl⟩
  rw [hends] at hdelivery
  dsimp only at hdelivery
  split at hdelivery
  · rename_i start target _ _
    obtain ⟨requirement, -, hdelivery⟩ := Catalog.exists_of_bind_eq_ok hdelivery
    change (if (deliveredBy setup requirement bothWays start target).isEmpty then _ else _) = _
      at hdelivery
    split at hdelivery
    · cases hdelivery
    · rename_i hsome
      obtain ⟨joined, hjoined, hanchor, -⟩ := Connection.anyOf_eq_ok
        (mt List.isEmpty_iff.mpr hsome) fun _ => anchor_of_mem_deliveredBy
      obtain ⟨connection, hconnection, hdelivery⟩ := Catalog.exists_of_bind_eq_ok hdelivery
      change (Connection.anyOf (deliveredBy setup requirement bothWays start target)).mapError _ =
        _ at hconnection
      rw [hjoined] at hconnection
      cases hconnection
      cases hdelivery
      exact hanchor
  · cases hdelivery

end Entry

/-! ## Linked pairs -/

namespace Wiring

variable {wiring : Wiring} {span ends : Span} {bothWays : Bool}

theorem IsMirrored.asks_flip (hmirrored : wiring.IsMirrored) {tags : TagSet} :
    wiring.Asks ends.flip tags ↔ wiring.Asks ends tags := by
  rw [Asks, Asks, hmirrored.mirrored]
  simp

/-- Every entry is a linked pair, in the order in which it is delivered. -/
theorem linked_deliveryEnds (hmirrored : wiring.IsMirrored) (hshares : wiring.SharesAnchors)
    (hne : wiring.get span ≠ [])
    (hends : Catalog.deliveryEnds span (wiring.get span) = (ends, bothWays)) :
    wiring.Linked ends bothWays ∧ ends.SamePair span := by
  obtain ⟨first, hfirst⟩ : ∃ first, (wiring.get span).head? = some first :=
    Option.isSome_iff_exists.mp (List.isSome_head?.mpr hne)
  have hmem : first ∈ wiring.get span := List.mem_of_mem_head? hfirst
  obtain ⟨anchor, hanchor, hanchored⟩ := hmirrored.anchored span first hmem
  have hall : ∀ link ∈ wiring.get span, link.anchor = some anchor :=
    fun link hlink => calc link.anchor
      _ = first.anchor := hshares span link hlink first hmem
      _ = some anchor := hanchor
  rw [Catalog.deliveryEnds, hfirst, Option.bind_some, hanchor] at hends
  obtain ⟨anchored, oneWay⟩ := anchor
  cases oneWay with
  | false =>
    obtain ⟨rfl, rfl⟩ := Prod.mk.inj hends
    obtain rfl : anchored = span := hanchored.resolve_right fun hback => Bool.noConfusion hback.1
    exact ⟨⟨hne, hall⟩, Or.inl rfl⟩
  | true =>
    obtain ⟨rfl, rfl⟩ := Prod.mk.inj hends
    obtain rfl | ⟨-, rfl⟩ := hanchored
    · exact ⟨⟨hne, hall⟩, Or.inl rfl⟩
    · refine ⟨⟨hmirrored.get_flip_ne_nil hne, ?_⟩, Or.inr rfl⟩
      intro link hlink
      rw [hmirrored.mirrored] at hlink
      obtain ⟨near, hnear, rfl⟩ := List.mem_map.mp hlink
      simp [Connection.farCopy, hall near hnear]

theorem Linked.exists_link (hlinked : wiring.Linked ends bothWays) :
    ∃ link ∈ wiring.get ends, link.anchor = some ⟨ends, !bothWays⟩ := by
  obtain ⟨link, hlink⟩ := List.exists_mem_of_ne_nil _ hlinked.1
  exact ⟨link, hlink, hlinked.2 link hlink⟩

theorem Linked.unique {bothWays' : Bool} (hlinked : wiring.Linked ends bothWays)
    (hother : wiring.Linked ends bothWays') : bothWays = bothWays' := by
  obtain ⟨link, hlink, hanchor⟩ := hlinked.exists_link
  rw [hother.2 link hlink] at hanchor
  simpa using hanchor.symm

/-- Only a pair whose links work both ways is linked in both orders. -/
theorem Linked.worksBothWays {bothWays' : Bool} (hlinked : wiring.Linked ends bothWays)
    (hmirrored : wiring.IsMirrored) (hother : wiring.Linked ends.flip bothWays') :
    bothWays = true ∧ bothWays' = true := by
  obtain ⟨link, hlink, hanchor⟩ := hlinked.exists_link
  have hfar : link.farCopy.anchor = some ⟨ends.flip, !bothWays'⟩ := by
    apply hother.2
    rw [hmirrored.mirrored]
    exact List.mem_map_of_mem hlink
  cases bothWays with
  | true => simpa [Connection.farCopy, hanchor, Connection.flip, Anchor.flip, Span.flip] using hfar
  | false =>
    have hsame : ends = ends.flip := by
      simp [Connection.farCopy, hanchor] at hfar
      exact hfar.1
    exact absurd hsame.symm (hmirrored.flip_ne hlinked.1)

end Wiring

namespace Placement

variable {placement : Placement} {scenario setup : Wiring} {ends other : Span} {bothWays : Bool}
variable {tags : TagSet}

/-- A pair that works both ways is delivered in both orders or in none. -/
theorem delivers_flip (hmirrored : setup.IsMirrored)
    (hdelivers : placement.Delivers setup ends true tags) :
    placement.Delivers setup ends.flip true tags := by
  obtain ⟨start, target, hstart, htarget, hreaches⟩ := hdelivers
  exact ⟨target, start, htarget, hstart, hmirrored.reaches_symm hreaches⟩

/-- A linked pair conveys those of its alternatives that can be delivered. -/
theorem conveys_iff (hlinked : scenario.Linked ends bothWays) :
    placement.Conveys scenario setup ends tags ↔
      scenario.Asks ends tags ∧ placement.Delivers setup ends bothWays tags := by
  constructor
  · intro hconveys
    obtain ⟨bothWays', hlinked', hanswered⟩ := hconveys
    exact hlinked.unique hlinked' ▸ hanswered
  · exact fun hanswered => ⟨bothWays, hlinked, hanswered⟩

/-- Where a pair is linked in both orders, both convey the same. -/
theorem Conveys.of_samePair (hconveys : placement.Conveys scenario setup ends tags)
    (hmirrored : scenario.IsMirrored) (hsetup : setup.IsMirrored)
    (hlinked : scenario.Linked other bothWays) (hsame : ends.SamePair other) :
    placement.Conveys scenario setup other tags := by
  cases hsame with
  | inl heq => exact heq ▸ hconveys
  | inr hflip =>
    obtain ⟨_, hlinked', hasks, hdelivers⟩ := hflip ▸ hconveys
    obtain ⟨rfl, rfl⟩ := hlinked.worksBothWays hmirrored hlinked'
    exact ⟨true, hlinked, hmirrored.asks_flip.mp hasks, delivers_flip hsetup hdelivers⟩

end Placement

end LabMatch
