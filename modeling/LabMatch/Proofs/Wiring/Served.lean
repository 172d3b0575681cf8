import LabMatch.Proofs.Wiring.Ambiguity
import Mathlib.Data.Fintype.EquivFin

/-!
# Links that serve what is asked for

A link serves a requirement that asks for one of several alternatives if it covers one of
them.  A reduction asks for more: either the link stays within the requirement, or it
covers every alternative.  A link that covers one alternative, misses another one and stays
within none of them serves the requirement in part, and is dropped.

So a link that serves all demands between its devices is kept exactly if it serves none of
them in part.  Where a reduction finds nothing suitable between two devices, every link that
serves all demands between them serves some of these in part.  Requirements with a single
alternative are never served in part, and all others can be.
-/

namespace LabMatch

theorem TagSet.exists_not_mem_tags (alternatives : List TagSet) :
    ∃ tag, ∀ tags ∈ alternatives, tag ∉ tags.tags := by
  obtain ⟨tag, hfresh⟩ :=
    Infinite.exists_notMem_finset (alternatives.flatMap TagSet.tags).toFinset
  simp only [List.mem_toFinset, List.mem_flatMap, not_exists, not_and] at hfresh
  exact ⟨tag, hfresh⟩

namespace Connection

variable {link requirement : Connection} {tags : TagSet} {anchor : Option Anchor}

def IsDefinite (requirement : Connection) : Prop := ∃ tags, requirement.alternatives = [tags]

/-- The link covers some alternative of the requirement, but neither of the two lies within
the other. -/
def ServesInPart (link requirement : Connection) : Prop :=
  link.satisfies requirement = true ∧ link.compatible requirement = false

/-- A single link serves a requirement in part if it covers some alternative, stays within
none and misses another one. -/
theorem servesInPart_link_iff :
    (⟨.link tags, anchor⟩ : Connection).ServesInPart requirement ↔
      (∃ asked ∈ requirement.alternatives, asked.coveredBy tags = true) ∧
      (∀ asked ∈ requirement.alternatives, tags.coveredBy asked = false) ∧
      ∃ missed ∈ requirement.alternatives, missed.coveredBy tags = false := by
  have halternatives : (⟨.link tags, anchor⟩ : Connection).alternatives = [tags] := rfl
  simp [ServesInPart, satisfies, compatible, within, halternatives]

/-- A requirement with a single alternative is not served in part. -/
theorem IsDefinite.not_servesInPart (hdefinite : requirement.IsDefinite) (link : Connection) :
    ¬ link.ServesInPart requirement := by
  obtain ⟨asked, hasked⟩ := hdefinite
  rintro ⟨hserves, hapart⟩
  rw [satisfies, hasked, List.any_cons, List.any_nil, Bool.or_false] at hserves
  rw [compatible, Bool.or_eq_false_iff] at hapart
  have hwithin : requirement.within link = true := by
    rw [within, hasked, List.all_cons, List.all_nil, Bool.and_true, hserves]
  rw [hwithin] at hapart
  cases hapart.2

/-- A requirement that is not definite has an alternative that another one does not cover. -/
theorem exists_not_coveredBy (hseveral : ¬ requirement.IsDefinite) :
    ∃ asked ∈ requirement.alternatives, ∃ missed ∈ requirement.alternatives,
      missed.coveredBy asked = false := by
  have hascending : Ascending.IsAscending requirement.alternatives :=
    requirement.shape.isAscending_alternatives
  match halternatives : requirement.alternatives with
  | [] => exact absurd halternatives requirement.alternatives_ne_nil
  | [asked] => exact absurd ⟨asked, halternatives⟩ hseveral
  | first :: second :: others =>
    rw [halternatives] at hascending
    have hne : first ≠ second :=
      KeyOrder.ne_of_lt (List.rel_of_pairwise_cons hascending List.mem_cons_self)
    by_cases hfirst : first.coveredBy second = true
    · refine ⟨first, by simp, second, by simp, ?_⟩
      rw [Bool.eq_false_iff]
      exact fun hsecond => hne (TagSet.coveredBy_antisymm hfirst hsecond)
    · exact ⟨second, by simp, first, by simp, by simpa using hfirst⟩

/-- A single link serves the requirement in part unless that is definite. -/
theorem exists_servesInPart (hseveral : ¬ requirement.IsDefinite) (anchor : Option Anchor) :
    ∃ tags, (⟨.link tags, anchor⟩ : Connection).ServesInPart requirement := by
  obtain ⟨asked, hasked, missed, hmissed, huncovered⟩ := exists_not_coveredBy hseveral
  -- A tag that nobody asks for keeps the link from staying within any alternative.
  obtain ⟨tag, hfresh⟩ := TagSet.exists_not_mem_tags requirement.alternatives
  refine ⟨asked.union (TagSet.ofList [tag]), servesInPart_link_iff.mpr ⟨⟨asked, hasked, ?_⟩, ?_,
    missed, hmissed, ?_⟩⟩
  · rw [TagSet.coveredBy_iff]
    exact fun tag hmem => TagSet.mem_tags_union.mpr (Or.inl hmem)
  · intro other hother
    rw [Bool.eq_false_iff, ne_eq, TagSet.coveredBy_iff]
    intro hcovered
    exact hfresh other hother (hcovered tag (by simp))
  · rw [Bool.eq_false_iff, ne_eq, TagSet.coveredBy_iff] at huncovered ⊢
    intro hcovered
    apply huncovered
    intro other hother
    rcases TagSet.mem_tags_union.mp (hcovered other hother) with hmem | hmem
    · exact hmem
    · rw [TagSet.mem_tags_ofList, List.mem_singleton] at hmem
      exact absurd (hmem ▸ hother) (hfresh missed hmissed)

/-- The link serves every demand on the devices of the span. -/
def ServesAll (link : Connection) (demands : List PairDemand) (span : Span) : Prop :=
  ∀ demand ∈ demands, demand.joins span = true → link.satisfies demand.requirement = true

instance (link : Connection) (demands : List PairDemand) (span : Span) :
    Decidable (link.ServesAll demands span) :=
  inferInstanceAs (Decidable (∀ demand ∈ demands, _ → _))

/-- A link that satisfies a requirement is compatible with it unless it only serves it in part. -/
theorem compatible_iff_of_satisfies (hserves : link.satisfies requirement = true) :
    link.compatible requirement = true ↔ ¬ link.ServesInPart requirement := by
  simp [ServesInPart, hserves]

end Connection

namespace Catalog

variable {catalog : Catalog} {wiring links : Wiring} {demands : List PairDemand}
  {span : Span} {link : Connection}

/-- Demands that are all met keep a link that serves all of them, unless it serves one of
them in part. -/
theorem mem_get_iff_of_servesAll (hmirrored : wiring.IsMirrored)
    (hmet : demands.foldlM catalog.meetDemand wiring = .ok links) (hlink : link ∈ wiring.get span)
    (hserves : link.ServesAll demands span) :
    link ∈ links.get span ↔
      ∀ demand ∈ demands, demand.joins span = true → ¬ link.ServesInPart demand.requirement := by
  rw [(filteredFrom_meetDemands hmirrored hmet).2, List.mem_filter, List.all_eq_true]
  simp only [hlink, true_and]
  refine forall₂_congr fun demand hdemand => ?_
  rw [PairDemand.keeps_iff]
  exact imp_congr_right fun hjoins =>
    Connection.compatible_iff_of_satisfies (hserves demand hdemand hjoins)

/-- What no usable node pair holds is not compatible with the demand. -/
theorem compatible_eq_false_of_usablePairs {demand : PairDemand} (hmirrored : wiring.IsMirrored)
    (hnone : wiring.usablePairs demand = []) (hjoins : demand.joins span = true)
    (hlink : link ∈ wiring.get span) : link.compatible demand.requirement = false := by
  rw [Bool.eq_false_iff]
  intro hcompatible
  rw [PairDemand.joins, Bool.or_eq_true, Bool.and_eq_true, Bool.and_eq_true] at hjoins
  simp only [beq_iff_eq] at hjoins
  rcases hjoins with ⟨hsource, htarget⟩ | ⟨hsource, htarget⟩
  · have husable : span ∈ wiring.usablePairs demand :=
      Wiring.mem_usablePairs.mpr ⟨hsource, htarget, link, hlink, hcompatible⟩
    rw [hnone] at husable
    cases husable
  · have hfar : link.farCopy ∈ wiring.get span.flip := by
      rw [hmirrored.mirrored]
      exact List.mem_map_of_mem hlink
    have husable : span.flip ∈ wiring.usablePairs demand :=
      Wiring.mem_usablePairs.mpr ⟨htarget, hsource, link.farCopy, hfar, by simpa using hcompatible⟩
    rw [hnone] at husable
    cases husable

/-- If the demands cannot be met for want of a suitable link, then every link between the two
devices was incompatible with one of the demands on them. -/
theorem exists_incompatible_of_meetDemands {capability source target requirement : String}
    (hmirrored : wiring.IsMirrored)
    (hrefused : demands.foldlM catalog.meetDemand wiring =
      .error (.unsuitableConnection capability source target requirement)) :
    ∃ demand ∈ demands,
      ResolveError.unsuitableConnection capability source target requirement =
        .unsuitableConnection demand.capability (catalog.devicePath demand.source)
          (catalog.devicePath demand.target) demand.requirement.text ∧
      ∀ span, demand.joins span = true → ∀ link ∈ wiring.get span,
        ∃ other ∈ demands, other.joins span = true ∧
          link.compatible other.requirement = false := by
  obtain ⟨before, demand, after, middle, rfl, hbefore, hdemand⟩ := foldlM_eq_error hrefused
  obtain ⟨hmirrored', hfiltered⟩ := filteredFrom_meetDemands hmirrored hbefore
  rw [meetDemand] at hdemand
  rcases reducePair_cases catalog middle demand with
    ⟨-, hunclear⟩ | ⟨hnone, hunsuitable⟩ | ⟨-, -, met, hmet⟩
  · rw [hunclear] at hdemand
    cases hdemand
  · rw [hunsuitable] at hdemand
    refine ⟨demand, by simp, (Except.error.inj hdemand).symm, ?_⟩
    intro span hjoins link hlink
    by_cases hleft : link ∈ middle.get span
    · exact ⟨demand, by simp, hjoins,
        compatible_eq_false_of_usablePairs hmirrored' hnone hjoins hleft⟩
    · rw [hfiltered, List.mem_filter, List.all_eq_true] at hleft
      simp only [hlink, true_and, PairDemand.keeps_iff, not_forall] at hleft
      obtain ⟨other, hother, hjoins, hincompatible⟩ := hleft
      exact ⟨other, List.mem_append_left _ hother, hjoins, by simpa using hincompatible⟩
  · rw [hmet] at hdemand
    cases hdemand

/-- A reduction that finds no suitable link fails at one of the demands. -/
theorem meetDemands_of_unsuitable {container : ContainerId}
    {capability source target requirement : String} {expanded : Wiring}
    (hexpand : (catalog.absolute container).1.expand = .ok expanded)
    (hrefused : catalog.reduced container =
      .error (.unsuitableConnection capability source target requirement)) :
    (catalog.demands container).foldlM catalog.meetDemand expanded =
      .error (.unsuitableConnection capability source target requirement) := by
  rcases reduced_cases catalog container with
    ⟨expanded', hexpand', hnoted⟩ | ⟨reason, hfails, herror⟩
  · rw [hexpand] at hexpand'
    cases hexpand'
    rw [← links_noteDemands _ ⟨expanded, (catalog.absolute container).2⟩, ← hnoted, hrefused]
    rfl
  · rw [hfails] at hrefused
    cases hrefused
    obtain ⟨error, herror⟩ := herror
    cases herror

/-- A link that serves all demands between its devices is kept exactly if it serves none of
them in part.  A reduction that finds no suitable link reports a demand, and whatever serves
all demands between the two devices of that one serves some of them in part.  This is
possible for every requirement with several alternatives, and for no other. -/
theorem reducedWiring_keeps_served (hbuilt : Built catalog) {container : ContainerId}
    {questions : List Session.Question} {expanded : Wiring}
    (hexpand : ((Session.absoluteWiring catalog container).run Session.fresh).1.expand =
      .ok expanded) :
    let outcome := ((Session.reducedWiring catalog container).run.run
      (Session.afterAsking catalog questions)).1
    let demands := catalog.demands container
    (∀ reduced, outcome = .ok reduced →
      ∀ span, ∀ link ∈ expanded.get span, link.ServesAll demands span →
        (link ∈ reduced.links.get span ↔
          ∀ demand ∈ demands, demand.joins span = true →
            ¬ link.ServesInPart demand.requirement)) ∧
    (∀ capability source target requirement,
      outcome = .error (.unsuitableConnection capability source target requirement) →
      ∃ demand ∈ demands,
        ResolveError.unsuitableConnection capability source target requirement =
          .unsuitableConnection demand.capability (catalog.devicePath demand.source)
            (catalog.devicePath demand.target) demand.requirement.text ∧
        ∀ span, demand.joins span = true →
          ∀ link ∈ expanded.get span, link.ServesAll demands span →
            ∃ other ∈ demands, other.joins span = true ∧
              link.ServesInPart other.requirement) ∧
    ∀ requirement : Connection,
      requirement.IsDefinite ↔ ∀ link : Connection, ¬ link.ServesInPart requirement := by
  intro outcome demands
  have houtcome : outcome = catalog.reduced container :=
    Session.run_afterAsking (fun _ => Session.resolves_reducedWiring container) questions
  rw [(Session.answers_absoluteWiring container Session.fresh
    (Session.faithfulWith_fresh catalog)).1] at hexpand
  have hmirrored := (isWithin_absolute hbuilt.wellLaidOut container).isMirrored.expand hexpand
  refine ⟨?_, ?_, ?_⟩
  · intro reduced hreduced span link hlink hserves
    obtain ⟨expanded', hexpand', hmet⟩ := meetDemands_of_reduced (houtcome.symm.trans hreduced)
    rw [hexpand] at hexpand'
    cases hexpand'
    exact mem_get_iff_of_servesAll hmirrored hmet hlink hserves
  · intro capability source target requirement hrefused
    obtain ⟨demand, hdemand, hreported, hlinks⟩ := exists_incompatible_of_meetDemands hmirrored
      (meetDemands_of_unsuitable hexpand (houtcome.symm.trans hrefused))
    refine ⟨demand, hdemand, hreported, ?_⟩
    intro span hjoins link hlink hserves
    obtain ⟨other, hother, hjoined, hincompatible⟩ := hlinks span hjoins link hlink
    exact ⟨other, hother, hjoined, hserves other hother hjoined, hincompatible⟩
  · intro requirement
    constructor
    · exact Connection.IsDefinite.not_servesInPart
    · intro hnever
      by_contra hseveral
      obtain ⟨tags, hserves⟩ := Connection.exists_servesInPart hseveral none
      exact hnever _ hserves

/-- On the bench the link that serves the only demand is kept. -/
theorem reducedWiring_keeps_served_pingLab :
    let span : Span := ⟨⟨⟨0⟩, "n0"⟩, ⟨⟨1⟩, "n0"⟩⟩
    ∃ expanded reduced,
      ((Session.absoluteWiring pingLab ⟨0⟩).run Session.fresh).1.expand = .ok expanded ∧
      ((Session.reducedWiring pingLab ⟨0⟩).run.run (Session.afterAsking pingLab [])).1 =
        .ok reduced ∧
      ∃ link ∈ expanded.get span, link.ServesAll (pingLab.demands ⟨0⟩) span ∧
        link ∈ reduced.links.get span := by
  intro span
  have hserved : (((Session.absoluteWiring pingLab ⟨0⟩).run
      Session.fresh).1.expand.toOption.map fun expanded =>
        decide (∃ link ∈ expanded.get span, link.ServesAll (pingLab.demands ⟨0⟩) span)) =
          some true := by
    decide +kernel
  have hok : ((Session.reducedWiring pingLab ⟨0⟩).run.run
      (Session.afterAsking pingLab [])).1.isOk = true := by decide +kernel
  have hdefinite : ∀ demand ∈ pingLab.demands ⟨0⟩, demand.requirement.alternatives.length = 1 := by
    decide +kernel
  obtain ⟨expanded, hexpand, hlink⟩ := exists_of_map_toOption hserved
  obtain ⟨reduced, hreduced⟩ := exists_of_isOk hok
  obtain ⟨link, hlink, hserves⟩ := of_decide_eq_true hlink
  refine ⟨expanded, reduced, hexpand, hreduced, link, hlink, hserves, ?_⟩
  rw [(reducedWiring_keeps_served built_pingLab hexpand).1 reduced hreduced span link hlink hserves]
  intro demand hdemand _
  exact Connection.IsDefinite.not_servesInPart
    (List.length_eq_one_iff.mp (hdefinite demand hdemand)) link

/-- Two scenarios with a capability that has one variant for `tcp` and one for `usb`.  In
`S` its devices are linked by `ipv4+tcp`, in `T` also by `tcp` alone. -/
def twoMediaDeclarations : List Declaration :=
  let tcp := Connection.ofTags (TagSet.ofList ["tcp"])
  let usb := Connection.ofTags (TagSet.ofList ["usb"])
  let tcpOverIp := Connection.ofTags (TagSet.ofList ["ipv4", "tcp"])
  [.container .scenario "S", .device ⟨0⟩ "A", .device ⟨0⟩ "B",
    .container .scenario "T", .device ⟨1⟩ "A", .device ⟨1⟩ "B",
    .capability "Talk", .logicalDevice ⟨0⟩ "peer",
    .variant ⟨0⟩ "open" "network" [⟨"peer", tcp⟩], .variant ⟨0⟩ "open" "cable" [⟨"peer", usb⟩],
    .attach (.device ⟨0⟩) "talk" ⟨0⟩, .bind ⟨0⟩ "peer" ⟨1⟩,
    .attach (.device ⟨2⟩) "talk" ⟨0⟩, .bind ⟨1⟩ "peer" ⟨3⟩,
    .connect ⟨⟨0⟩, "n0"⟩ ⟨⟨1⟩, "n0"⟩ tcpOverIp false,
    .connect ⟨⟨2⟩, "n0"⟩ ⟨⟨3⟩, "n0"⟩ tcp false,
    .connect ⟨⟨2⟩, "n1"⟩ ⟨⟨3⟩, "n1"⟩ tcpOverIp false]

def twoMediaLab : Catalog := (declareAll twoMediaDeclarations).toOption.getD empty

/-- A link that serves the only demand between its devices is dropped in `T`, and is not
found suitable in `S`. -/
theorem served_link_dropped_twoMediaLab :
    Built twoMediaLab ∧
    (∃ expanded, ∃ demand ∈ twoMediaLab.demands ⟨0⟩, ∃ span, demand.joins span = true ∧
      ((Session.absoluteWiring twoMediaLab ⟨0⟩).run Session.fresh).1.expand = .ok expanded ∧
      (∃ link ∈ expanded.get span, link.ServesAll (twoMediaLab.demands ⟨0⟩) span) ∧
      ((Session.reducedWiring twoMediaLab ⟨0⟩).run.run Session.fresh).1 =
        .error (.unsuitableConnection "S.A.talk" "S.A" "S.B" "tcp | usb")) ∧
    ∃ expanded reduced span,
      ((Session.absoluteWiring twoMediaLab ⟨1⟩).run Session.fresh).1.expand = .ok expanded ∧
      ((Session.reducedWiring twoMediaLab ⟨1⟩).run.run Session.fresh).1 = .ok reduced ∧
      ∃ link ∈ expanded.get span, link.ServesAll (twoMediaLab.demands ⟨1⟩) span ∧
        link ∉ reduced.links.get span := by
  refine ⟨built_of_declareAll (by decide +kernel) (by decide +kernel), ?_, ?_⟩
  · have hserved : ∃ demand ∈ twoMediaLab.demands ⟨0⟩,
        demand.joins ⟨⟨⟨0⟩, "n0"⟩, ⟨⟨1⟩, "n0"⟩⟩ = true ∧
        (((Session.absoluteWiring twoMediaLab ⟨0⟩).run Session.fresh).1.expand.toOption.map
          fun expanded => decide (∃ link ∈ expanded.get ⟨⟨⟨0⟩, "n0"⟩, ⟨⟨1⟩, "n0"⟩⟩,
            link.ServesAll (twoMediaLab.demands ⟨0⟩) ⟨⟨⟨0⟩, "n0"⟩, ⟨⟨1⟩, "n0"⟩⟩)) = some true := by
      decide +kernel
    have hrefused : (((Session.reducedWiring twoMediaLab ⟨0⟩).run.run Session.fresh).1.map
        fun _ => ()) = .error (.unsuitableConnection "S.A.talk" "S.A" "S.B" "tcp | usb") := by
      decide +kernel
    obtain ⟨demand, hdemand, hjoins, hlinks⟩ := hserved
    obtain ⟨expanded, hexpand, hlink⟩ := exists_of_map_toOption hlinks
    exact ⟨expanded, demand, hdemand, _, hjoins, hexpand, of_decide_eq_true hlink,
      eq_error_of_map hrefused⟩
  · have hserved : (((Session.absoluteWiring twoMediaLab ⟨1⟩).run
        Session.fresh).1.expand.toOption.map fun expanded =>
          decide (∃ link ∈ expanded.get ⟨⟨⟨2⟩, "n1"⟩, ⟨⟨3⟩, "n1"⟩⟩,
            link.ServesAll (twoMediaLab.demands ⟨1⟩) ⟨⟨⟨2⟩, "n1"⟩, ⟨⟨3⟩, "n1"⟩⟩)) = some true := by
      decide +kernel
    have hdropped : (((Session.reducedWiring twoMediaLab ⟨1⟩).run.run
        Session.fresh).1.toOption.map fun reduced =>
          (reduced.links.get ⟨⟨⟨2⟩, "n1"⟩, ⟨⟨3⟩, "n1"⟩⟩).length) = some 0 := by
      decide +kernel
    obtain ⟨expanded, hexpand, hlink⟩ := exists_of_map_toOption hserved
    obtain ⟨reduced, hreduced, hlength⟩ := exists_of_map_toOption hdropped
    obtain ⟨link, hlink, hserves⟩ := of_decide_eq_true hlink
    refine ⟨expanded, reduced, _, hexpand, hreduced, link, hlink, hserves, ?_⟩
    rw [List.length_eq_zero_iff.mp hlength]
    exact List.not_mem_nil

end Catalog

end LabMatch
