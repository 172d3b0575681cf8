import LabMatch.Proofs.Matching.Delivery
import LabMatch.Proofs.Traversal
import LabMatch.Proofs.Wiring.Attached

/-!
# Matching decides connectivity by reachability

The delivery of all links of a scenario fails exactly if some linked pair of
endpoints has no alternative that the setup can reach.  Otherwise it holds one
delivery for every linked pair, with exactly the alternatives that can be reached.
-/

namespace LabMatch

/-! ## Entries -/

namespace Wiring

variable {wiring : Wiring}

def linkEntries (wiring : Wiring) : List (Span × List Connection) :=
  wiring.entries.filter fun entry =>
    decide (entry.1.source.device < entry.1.target.device) && !entry.2.isEmpty

theorem of_mem_linkEntries {entry : Span × List Connection} (hentry : entry ∈ wiring.linkEntries) :
    entry.2 = wiring.get entry.1 ∧ wiring.get entry.1 ≠ [] ∧
      entry.1.source.device < entry.1.target.device := by
  obtain ⟨hmem, hkept⟩ := List.mem_filter.mp hentry
  rw [Bool.and_eq_true, decide_eq_true_iff, Bool.not_eq_true'] at hkept
  have hget := get_of_mem_entries hmem
  have hne : wiring.get entry.1 ≠ [] := by
    rw [hget]
    exact List.isEmpty_eq_false_iff.mp hkept.2
  exact ⟨hget.symm, hne, hkept.1⟩

/-- One of the two entries of a linked pair is delivered. -/
theorem IsMirrored.exists_mem_linkEntries (hmirrored : wiring.IsMirrored) {span : Span}
    (hne : wiring.get span ≠ []) :
    ∃ entry ∈ wiring.linkEntries, entry.1.SamePair span := by
  have hmem : ∀ {other : Span}, wiring.get other ≠ [] →
      other.source.device < other.target.device →
        (other, wiring.get other) ∈ wiring.linkEntries := by
    intro other hother hlt
    apply List.mem_filter.mpr
    exact ⟨mem_entries_of_get_ne_nil hother, by simp [hlt, hother]⟩
  by_cases hlt : span.source.device < span.target.device
  · exact ⟨_, hmem hne hlt, Or.inl rfl⟩
  · have hgt : span.target.device < span.source.device := by
      by_contra hnot
      exact hmirrored.distinct span hne (KeyOrder.connected hlt hnot)
    exact ⟨_, hmem (hmirrored.get_flip_ne_nil hne) hgt, Or.inr rfl⟩

/-- No two of the entries that are delivered join the same pair of endpoints. -/
theorem pairwise_linkEntries (wiring : Wiring) :
    wiring.linkEntries.Pairwise fun earlier later => ¬ earlier.1.SamePair later.1 := by
  have hascending : wiring.linkEntries.Pairwise fun earlier later => earlier.1 < later.1 :=
    List.Pairwise.filter _ wiring.table.ascending
  apply hascending.imp_of_mem
  intro earlier later hearlier hlater hlt hsame
  have hdevices := (of_mem_linkEntries hearlier).2.2
  cases hsame with
  | inl heq => exact KeyOrder.ne_of_lt hlt heq
  | inr hflip =>
    rw [hflip] at hdevices
    exact KeyOrder.asymm hdevices (of_mem_linkEntries hlater).2.2

end Wiring

theorem Catalog.deliverAll_eq (catalog : Catalog) (placement : Placement)
    (scenario setup : Wiring) :
    catalog.deliverAll placement scenario setup =
      (scenario.linkEntries.mapM (catalog.deliver placement setup)).map
        fun results => results.filterMap id := by
  rw [Catalog.deliverAll]
  change (scenario.linkEntries.mapM (catalog.deliver placement setup) >>= _) = _
  cases scenario.linkEntries.mapM (catalog.deliver placement setup) with
  | error reason => rfl
  | ok results => rfl

/-! ## Outcomes -/

/-- Both devices of every link have a place, and not the same one. -/
def Placement.Separates (placement : Placement) (scenario : Wiring) : Prop :=
  ∀ span, scenario.get span ≠ [] → ∃ start target,
    placement.get? span.source.device = some start ∧
      placement.get? span.target.device = some target ∧ start ≠ target

/-- Some linked pair has no alternative that can be delivered. -/
def Placement.Strands (placement : Placement) (scenario setup : Wiring) : Prop :=
  ∃ ends bothWays, scenario.Linked ends bothWays ∧
    ∀ tags, scenario.Asks ends tags → ¬ placement.Delivers setup ends bothWays tags

/-- The delivery joins a linked pair, with the alternatives that can be delivered. -/
def Delivery.IsExact (delivery : Delivery) (placement : Placement)
    (scenario setup : Wiring) : Prop :=
  ∃ bothWays, scenario.Linked delivery.ends bothWays ∧
    ∀ tags, tags ∈ delivery.connection.alternatives ↔
      scenario.Asks delivery.ends tags ∧ placement.Delivers setup delivery.ends bothWays tags

/-- Every linked pair has its delivery, and no other one. -/
structure Placement.Serves (placement : Placement) (scenario setup : Wiring)
    (deliveries : List Delivery) : Prop where
  exact : ∀ delivery ∈ deliveries, delivery.IsExact placement scenario setup
  complete : ∀ span, scenario.get span ≠ [] →
    ∃ delivery ∈ deliveries, delivery.ends.SamePair span
  once : deliveries.Pairwise fun earlier later => ¬ earlier.ends.SamePair later.ends

/-- Between placed devices, delivering is reaching one place from the other. -/
theorem Placement.delivers_iff {placement : Placement} {setup : Wiring} {ends : Span}
    {bothWays : Bool} {tags : TagSet} {start target : DeviceId}
    (hstart : placement.get? ends.source.device = some start)
    (htarget : placement.get? ends.target.device = some target) :
    placement.Delivers setup ends bothWays tags ↔ setup.Reaches tags bothWays start target := by
  simp [Delivers, hstart, htarget]

section Outcomes

variable {placement : Placement} {scenario : Wiring} {entry : Span × List Connection}

theorem mem_alternatives_iff_asks {ends : Span} (hmirrored : scenario.IsMirrored)
    (hlinks : entry.2 = scenario.get entry.1) (hends : ends.SamePair entry.1)
    (tags : TagSet) :
    (∃ link ∈ entry.2, tags ∈ link.alternatives) ↔ scenario.Asks ends tags := by
  rw [hlinks]
  cases hends with
  | inl hsame => rw [hsame]; rfl
  | inr hflip => rw [hflip, hmirrored.asks_flip]; rfl

/-- The delivery joins the linked pair of the entry, in one of its orders. -/
structure Settles (placement : Placement) (scenario setup : Wiring)
    (entry : Span × List Connection) (delivery : Delivery) : Prop where
  ends : delivery.ends.SamePair entry.1
  exact : delivery.IsExact placement scenario setup

/-- An entry is delivered, or its linked pair is stranded and has no route. -/
theorem deliver_cases (catalog : Catalog) (setup : Wiring) (hmirrored : scenario.IsMirrored)
    (hshares : scenario.SharesAnchors) (hseparates : placement.Separates scenario)
    (hentry : entry ∈ scenario.linkEntries) :
    (∃ delivery, catalog.deliver placement setup entry = .ok (some delivery) ∧
      Settles placement scenario setup entry delivery) ∨
    (placement.Strands scenario setup ∧ ∃ source target requirement,
      catalog.deliver placement setup entry = .error (.noRoute source target requirement)) := by
  obtain ⟨hlinks, hne, -⟩ := Wiring.of_mem_linkEntries hentry
  obtain ⟨⟨ends, bothWays⟩, hdelivered⟩ :
      ∃ delivered, Catalog.deliveryEnds entry.1 entry.2 = delivered := ⟨_, rfl⟩
  obtain ⟨hlinked, hends⟩ :=
    Wiring.linked_deliveryEnds hmirrored hshares hne (hlinks ▸ hdelivered)
  obtain ⟨start, target, hstart, htarget, hdiffer⟩ := hseparates ends hlinked.1
  have hasked := mem_alternatives_iff_asks hmirrored hlinks hends
  have hdelivers : ∀ tags, placement.Delivers setup ends bothWays tags ↔
      setup.Reaches tags bothWays start target :=
    fun tags => Placement.delivers_iff hstart htarget
  by_cases hreaches : ∃ link ∈ entry.2, ∃ tags ∈ link.alternatives,
      setup.Reaches tags bothWays start target
  · obtain ⟨delivery, hdelivery, rfl, halternatives⟩ :=
      deliver_eq_ok catalog hdelivered hstart htarget hdiffer hreaches
    apply Or.inl
    have hexact : ∀ tags, tags ∈ delivery.connection.alternatives ↔
        scenario.Asks delivery.ends tags ∧
          placement.Delivers setup delivery.ends bothWays tags := by
      intro tags
      rw [halternatives, hasked, hdelivers]
    exact ⟨delivery, hdelivery, hends, bothWays, hlinked, hexact⟩
  · apply Or.inr
    obtain ⟨requirement, herror⟩ :=
      deliver_eq_error catalog hdelivered hstart htarget hdiffer (hlinks ▸ hne) hreaches
    have hstranded : ∀ tags, scenario.Asks ends tags →
        ¬ placement.Delivers setup ends bothWays tags := by
      intro tags hasks hwalk
      obtain ⟨link, hlink, htags⟩ := (hasked tags).mpr hasks
      exact hreaches ⟨link, hlink, tags, htags, (hdelivers tags).mp hwalk⟩
    exact ⟨⟨ends, bothWays, hlinked, hstranded⟩, _, _, requirement, herror⟩

/-- Deliveries that settle all entries serve every linked pair. -/
theorem serves_of_settles {setup : Wiring} {deliveries : List Delivery}
    (hmirrored : scenario.IsMirrored)
    (hsettles : List.Forall₂ (Settles placement scenario setup) scenario.linkEntries deliveries) :
    placement.Serves scenario setup deliveries := by
  constructor
  · intro delivery hdelivery
    obtain ⟨entry, -, hsettled⟩ := exists_of_forall₂_right hsettles hdelivery
    exact hsettled.exact
  · intro span hne
    obtain ⟨entry, hentry, hspan⟩ := hmirrored.exists_mem_linkEntries hne
    obtain ⟨delivery, hdelivery, hsettled⟩ := exists_of_forall₂_left hsettles hentry
    exact ⟨delivery, hdelivery, hsettled.ends.trans hspan⟩
  · apply pairwise_of_forall₂ hsettles scenario.pairwise_linkEntries
    intro earlier later delivery other hsettled hother hapart hsame
    apply hapart
    exact (hsettled.ends.symm.trans hsame).trans hother.ends

/-- Everything is delivered, or a linked pair is stranded and has no route. -/
theorem deliverAll_cases (catalog : Catalog) (setup : Wiring) (hmirrored : scenario.IsMirrored)
    (hshares : scenario.SharesAnchors) (hseparates : placement.Separates scenario) :
    (∃ deliveries, catalog.deliverAll placement scenario setup = .ok deliveries ∧
      placement.Serves scenario setup deliveries) ∨
    (placement.Strands scenario setup ∧ ∃ source target requirement,
      catalog.deliverAll placement scenario setup =
        .error (.noRoute source target requirement)) := by
  have hcases := fun entry (hentry : entry ∈ scenario.linkEntries) =>
    deliver_cases catalog setup hmirrored hshares hseparates hentry
  rw [Catalog.deliverAll_eq]
  by_cases hfails : ∃ entry ∈ scenario.linkEntries, ∃ reason,
      catalog.deliver placement setup entry = .error reason
  · apply Or.inr
    obtain ⟨entry, hentry, reason, hreason, hall⟩ := mapM_eq_error hfails
    cases hcases entry hentry with
    | inl hdelivered =>
      obtain ⟨delivery, hdelivery, -⟩ := hdelivered
      rw [hreason] at hdelivery
      cases hdelivery
    | inr hstranded =>
      obtain ⟨hstrands, source, target, requirement, herror⟩ := hstranded
      rw [hreason] at herror
      refine ⟨hstrands, source, target, requirement, ?_⟩
      rw [hall, Except.error.inj herror]
      rfl
  · apply Or.inl
    have hstep : ∀ entry ∈ scenario.linkEntries, ∃ delivery,
        catalog.deliver placement setup entry = .ok (some delivery) ∧
          Settles placement scenario setup entry delivery := by
      intro entry hentry
      apply (hcases entry hentry).resolve_right
      intro hstranded
      obtain ⟨-, source, target, requirement, herror⟩ := hstranded
      exact hfails ⟨entry, hentry, _, herror⟩
    obtain ⟨deliveries, hall, hsettles⟩ := mapM_eq_ok hstep
    refine ⟨deliveries, ?_, serves_of_settles hmirrored hsettles⟩
    rw [hall]
    simp [Except.map]

theorem Delivery.IsExact.mem_alternatives_iff {setup : Wiring} {delivery : Delivery}
    (hexact : delivery.IsExact placement scenario setup) {tags : TagSet} :
    tags ∈ delivery.connection.alternatives ↔
      placement.Conveys scenario setup delivery.ends tags := by
  obtain ⟨bothWays, hlinked, halternatives⟩ := hexact
  rw [halternatives, Placement.conveys_iff hlinked]

namespace Placement.Serves

variable {setup : Wiring} {deliveries : List Delivery}

/-- A linked pair has a delivery, of all the alternatives that it conveys. -/
theorem exists_delivery (hserves : placement.Serves scenario setup deliveries)
    (hmirrored : scenario.IsMirrored) (hsetup : setup.IsMirrored) {ends : Span} {bothWays : Bool}
    (hlinked : scenario.Linked ends bothWays) :
    ∃ delivery ∈ deliveries, delivery.ends.SamePair ends ∧
      ∀ tags, tags ∈ delivery.connection.alternatives ↔
        placement.Conveys scenario setup ends tags := by
  obtain ⟨delivery, hdelivery, hends⟩ := hserves.complete ends hlinked.1
  obtain ⟨_, hjoined, -⟩ := hserves.exact delivery hdelivery
  refine ⟨delivery, hdelivery, hends, fun tags => ?_⟩
  rw [(hserves.exact delivery hdelivery).mem_alternatives_iff]
  constructor
  · intro hconveys
    exact hconveys.of_samePair hmirrored hsetup hlinked hends
  · intro hconveys
    exact hconveys.of_samePair hmirrored hsetup hjoined hends.symm

/-- Where every linked pair has its delivery none is stranded. -/
theorem not_strands (hserves : placement.Serves scenario setup deliveries)
    (hmirrored : scenario.IsMirrored) (hsetup : setup.IsMirrored) :
    ¬ placement.Strands scenario setup := by
  intro hstrands
  obtain ⟨ends, bothWays, hlinked, hstranded⟩ := hstrands
  obtain ⟨delivery, -, -, halternatives⟩ := hserves.exists_delivery hmirrored hsetup hlinked
  obtain ⟨tags, htags⟩ := List.exists_mem_of_ne_nil _ delivery.connection.alternatives_ne_nil
  obtain ⟨hasks, hdelivers⟩ := (conveys_iff hlinked).mp ((halternatives tags).mp htags)
  exact hstranded tags hasks hdelivers

end Placement.Serves

section DeliverAll

variable {catalog : Catalog} {setup : Wiring} (hmirrored : scenario.IsMirrored)
  (hshares : scenario.SharesAnchors) (hseparates : placement.Separates scenario)

include hmirrored hshares hseparates

/-- What is delivered serves the scenario. -/
theorem serves_of_deliverAll {deliveries : List Delivery}
    (hall : catalog.deliverAll placement scenario setup = .ok deliveries) :
    placement.Serves scenario setup deliveries := by
  cases deliverAll_cases catalog setup hmirrored hshares hseparates with
  | inl hserved =>
    obtain ⟨served, hserved, hserves⟩ := hserved
    rw [hall] at hserved
    exact Except.ok.inj hserved ▸ hserves
  | inr hstranded =>
    obtain ⟨-, _, _, _, herror⟩ := hstranded
    rw [hall] at herror
    cases herror

/-- All links are delivered if each linked pair has an alternative that is conveyed. -/
theorem exists_deliverAll_iff (hsetup : setup.IsMirrored) :
    (∃ deliveries, catalog.deliverAll placement scenario setup = .ok deliveries) ↔
      ∀ ends bothWays, scenario.Linked ends bothWays →
        ∃ tags, placement.Conveys scenario setup ends tags := by
  constructor
  · intro hall ends bothWays hlinked
    obtain ⟨deliveries, hall⟩ := hall
    have hserves := serves_of_deliverAll hmirrored hshares hseparates hall
    obtain ⟨delivery, -, -, halternatives⟩ := hserves.exists_delivery hmirrored hsetup hlinked
    obtain ⟨tags, htags⟩ := List.exists_mem_of_ne_nil _ delivery.connection.alternatives_ne_nil
    exact ⟨tags, (halternatives tags).mp htags⟩
  · intro hconveyed
    cases deliverAll_cases catalog setup hmirrored hshares hseparates with
    | inl hserved =>
      obtain ⟨deliveries, hall, -⟩ := hserved
      exact ⟨deliveries, hall⟩
    | inr hstranded =>
      obtain ⟨⟨ends, bothWays, hlinked, hstranded⟩, -⟩ := hstranded
      obtain ⟨tags, hconveys⟩ := hconveyed ends bothWays hlinked
      obtain ⟨hasks, hdelivers⟩ := (Placement.conveys_iff hlinked).mp hconveys
      exact absurd hdelivers (hstranded tags hasks)

end DeliverAll

end Outcomes

/-! ## Reduced wirings -/

namespace Catalog

variable {catalog : Catalog} {container : ContainerId} {reduced : ReducedWiring}

/-- The links that are left of an entry are anchored alike. -/
theorem sharesAnchors_reduced (hlaidOut : WellLaidOut catalog)
    (hreduced : catalog.reduced container = .ok reduced) : reduced.links.SharesAnchors := by
  intro span link hlink other hother
  obtain ⟨anchor, alternatives, -, hlinks⟩ := exists_links_of_reduced hlaidOut hreduced span
  rw [hlinks] at hlink hother
  obtain ⟨tags, -, rfl⟩ := List.mem_map.mp hlink
  obtain ⟨tags', -, rfl⟩ := List.mem_map.mp hother
  rfl

theorem mem_visibleDevices_of_reduced (hlaidOut : WellLaidOut catalog)
    (hreduced : catalog.reduced container = .ok reduced) {span : Span}
    (hne : reduced.links.get span ≠ []) :
    span.source.device ∈ catalog.visibleDevices container ∧
      span.target.device ∈ catalog.visibleDevices container := by
  have hwithin := isWithin_reduced hlaidOut hreduced
  exact ⟨hwithin.mentions _ (Wiring.mentions_source hne),
    hwithin.mentions _ (Wiring.mentions_target hne)⟩

/-- An injective placement keeps the ends of every link apart. -/
theorem separates_of_placed (hlaidOut : WellLaidOut catalog)
    (hreduced : catalog.reduced container = .ok reduced) (hmirrored : reduced.links.IsMirrored)
    {placement : Placement}
    (hplaced : ∀ device ∈ catalog.visibleDevices container, ∃ place,
      placement.get? device = some place)
    (hinjective : ∀ device ∈ catalog.visibleDevices container,
      ∀ other ∈ catalog.visibleDevices container,
        placement.get? device = placement.get? other → device = other) :
    placement.Separates reduced.links := by
  intro span hne
  obtain ⟨hsource, htarget⟩ := mem_visibleDevices_of_reduced hlaidOut hreduced hne
  obtain ⟨start, hstart⟩ := hplaced _ hsource
  obtain ⟨target, hplace⟩ := hplaced _ htarget
  have hdiffer : start ≠ target := by
    intro hsame
    apply hmirrored.distinct span hne
    apply hinjective _ hsource _ htarget
    rw [hstart, hplace, hsame]
  exact ⟨start, target, hstart, hplace, hdiffer⟩

/-- Matching decides connectivity by reachability, for every placement that gives
each visible device of the scenario a place of its own.  Every linked pair of
endpoints has an order in which it is delivered.  The delivery fails for want of a
route exactly if some linked pair is stranded, and else it serves the scenario. -/
theorem deliverAll_decides_reachability (hbuilt : Built catalog) {scenario setup : ContainerId}
    {before between : List Session.Question} {scenarioWiring setupWiring : ReducedWiring}
    (hscenario : ((Session.reducedWiring catalog scenario).run.run
      (Session.afterAsking catalog before)).1 = .ok scenarioWiring)
    (hsetup : ((Session.reducedWiring catalog setup).run.run
      (Session.afterAsking catalog between)).1 = .ok setupWiring)
    {placement : Placement}
    (hplaced : ∀ device ∈ catalog.visibleDevices scenario, ∃ place,
      placement.get? device = some place)
    (hinjective : ∀ device ∈ catalog.visibleDevices scenario,
      ∀ other ∈ catalog.visibleDevices scenario,
        placement.get? device = placement.get? other → device = other) :
    (∀ span, scenarioWiring.links.get span ≠ [] → ∃ ends bothWays,
      scenarioWiring.links.Linked ends bothWays ∧ ends.SamePair span) ∧
    ((∃ source target requirement,
      catalog.deliverAll placement scenarioWiring.links setupWiring.links =
        .error (.noRoute source target requirement)) ↔
      placement.Strands scenarioWiring.links setupWiring.links) ∧
    (¬ placement.Strands scenarioWiring.links setupWiring.links → ∃ deliveries,
      catalog.deliverAll placement scenarioWiring.links setupWiring.links = .ok deliveries ∧
        placement.Serves scenarioWiring.links setupWiring.links deliveries) := by
  have hreduced := reduced_of_reducedWiring hscenario
  obtain ⟨-, -, -, hmirrored, -⟩ := filteredFrom_reduced hbuilt.wellLaidOut hreduced
  obtain ⟨-, -, -, hsetupMirrored, -⟩ :=
    filteredFrom_reduced hbuilt.wellLaidOut (reduced_of_reducedWiring hsetup)
  have hshares := sharesAnchors_reduced hbuilt.wellLaidOut hreduced
  have hseparates :=
    separates_of_placed hbuilt.wellLaidOut hreduced hmirrored hplaced hinjective
  have hcases := deliverAll_cases catalog setupWiring.links hmirrored hshares hseparates
  refine ⟨?_, ?_, ?_⟩
  · intro span hne
    exact ⟨_, _, Wiring.linked_deliveryEnds hmirrored hshares hne rfl⟩
  · constructor
    · intro hfails
      obtain ⟨source, target, requirement, hfails⟩ := hfails
      apply And.left
      apply hcases.resolve_left
      intro hserved
      obtain ⟨deliveries, hok, -⟩ := hserved
      rw [hfails] at hok
      cases hok
    · intro hstrands
      apply And.right
      apply hcases.resolve_left
      intro hserved
      obtain ⟨deliveries, -, hserves⟩ := hserved
      exact hserves.not_strands hmirrored hsetupMirrored hstrands
  · intro hstrands
    apply hcases.resolve_right
    intro hstranded
    exact hstrands hstranded.1

def pingPlacement : Placement := SortedMap.ofList [(⟨0⟩, ⟨2⟩), (⟨1⟩, ⟨4⟩)]

/-- On the outer devices of the rack the bench is served, by way of the switch. -/
theorem deliverAll_pingPlacement :
    ∃ scenarioWiring setupWiring deliveries,
      ((Session.reducedWiring pingLab ⟨0⟩).run.run (Session.afterAsking pingLab [])).1 =
        .ok scenarioWiring ∧
      ((Session.reducedWiring pingLab ⟨1⟩).run.run
        (Session.afterAsking pingLab [.reducedWiring ⟨0⟩])).1 = .ok setupWiring ∧
      pingLab.deliverAll pingPlacement scenarioWiring.links setupWiring.links = .ok deliveries ∧
      pingPlacement.Serves scenarioWiring.links setupWiring.links deliveries := by
  have hall : (do
      let scenarioWiring ← ((Session.reducedWiring pingLab ⟨0⟩).run.run
        (Session.afterAsking pingLab [])).1
      let setupWiring ← ((Session.reducedWiring pingLab ⟨1⟩).run.run
        (Session.afterAsking pingLab [.reducedWiring ⟨0⟩])).1
      pingLab.deliverAll pingPlacement scenarioWiring.links setupWiring.links).isOk = true := by
    decide +kernel
  obtain ⟨deliveries, hall⟩ := exists_of_isOk hall
  obtain ⟨scenarioWiring, hscenario, hall⟩ := exists_of_bind_eq_ok hall
  obtain ⟨setupWiring, hsetup, hdelivered⟩ := exists_of_bind_eq_ok hall
  have hplaced : ∀ device ∈ pingLab.visibleDevices ⟨0⟩, (pingPlacement.get? device).isSome := by
    decide +kernel
  have hinjective : ∀ device ∈ pingLab.visibleDevices ⟨0⟩, ∀ other ∈ pingLab.visibleDevices ⟨0⟩,
      pingPlacement.get? device = pingPlacement.get? other → device = other := by
    decide +kernel
  obtain ⟨-, hroutes, hserves⟩ := deliverAll_decides_reachability built_pingLab hscenario hsetup
    (fun device hdevice => Option.isSome_iff_exists.mp (hplaced device hdevice)) hinjective
  have hstrands : ¬ pingPlacement.Strands scenarioWiring.links setupWiring.links := by
    intro hstranded
    obtain ⟨source, target, requirement, hfails⟩ := hroutes.mpr hstranded
    rw [hdelivered] at hfails
    cases hfails
  obtain ⟨served, hserved, hserves⟩ := hserves hstrands
  exact ⟨scenarioWiring, setupWiring, served, hscenario, hsetup, hserved, hserves⟩

end Catalog

end LabMatch
