import LabMatch.Proofs.Wiring.Reduced

/-!
# Ambiguous demands

A demand is ambiguous when more than one node pair of its two devices holds a link that
it is compatible with.  Each demand is judged on the links that the demands before it
have left, and those may have emptied a node pair that was usable.  A reduction that
succeeds therefore leaves every demand unambiguous, but says nothing about the expanded
wiring: there a demand is unambiguous exactly if none of its usable node pairs was lost,
and no order of the demands reports an ambiguity exactly if every demand is unambiguous.
-/

namespace LabMatch

/-- More than one node pair is usable for some demand. -/
def ResolveError.IsUnclear (reason : ResolveError) : Prop :=
  ∃ capability source target requirement matching,
    reason = .unclearConnection capability source target requirement matching

namespace Wiring

/-- The node pairs between the devices of a demand that it can use. -/
def usablePairs (wiring : Wiring) (demand : PairDemand) : List Span :=
  (wiring.nodePairs demand.source demand.target).filter fun span =>
    !(wiring.usable demand.requirement span).isEmpty

def Unambiguous (wiring : Wiring) (demand : PairDemand) : Prop :=
  (wiring.usablePairs demand).length ≤ 1

def Joins (wiring : Wiring) (source target : DeviceId) : Prop :=
  ∃ span : Span, span.source.device = source ∧ span.target.device = target ∧ wiring.get span ≠ []

variable {wiring filtered : Wiring} {demand : PairDemand} {span : Span}
  {keep : Span → Connection → Bool}

theorem mem_usablePairs :
    span ∈ wiring.usablePairs demand ↔
      span.source.device = demand.source ∧ span.target.device = demand.target ∧
        ∃ link ∈ wiring.get span, link.compatible demand.requirement = true := by
  have husable : (wiring.usable demand.requirement span).isEmpty = false ↔
      ∃ link ∈ wiring.get span, link.compatible demand.requirement = true := by
    rw [List.isEmpty_eq_false_iff_exists_mem]
    simp [usable]
  rw [usablePairs, List.mem_filter, Bool.not_eq_true', husable]
  constructor
  · rintro ⟨hspan, link, hlink, hcompatible⟩
    obtain ⟨hsource, htarget⟩ := (mem_nodePairs (List.ne_nil_of_mem hlink)).mp hspan
    exact ⟨hsource, htarget, link, hlink, hcompatible⟩
  · rintro ⟨hsource, htarget, link, hlink, hcompatible⟩
    exact ⟨(mem_nodePairs (List.ne_nil_of_mem hlink)).mpr ⟨hsource, htarget⟩,
      link, hlink, hcompatible⟩

theorem nodup_usablePairs : (wiring.usablePairs demand).Nodup := by
  have hentries : (wiring.entriesBetween demand.source demand.target).Pairwise
      fun left right => left.1 < right.1 :=
    wiring.table.ascending.filter _
  have hpairs : (wiring.nodePairs demand.source demand.target).Nodup :=
    List.pairwise_map.mpr (hentries.imp KeyOrder.ne_of_lt)
  exact hpairs.filter _

theorem unambiguous_iff :
    wiring.Unambiguous demand ↔
      ∀ left ∈ wiring.usablePairs demand, ∀ right ∈ wiring.usablePairs demand, left = right := by
  rw [Unambiguous, ← List.toFinset_card_of_nodup nodup_usablePairs, Finset.card_le_one]
  simp only [List.mem_toFinset]

/-- Dropping links makes no demand ambiguous. -/
theorem FilteredFrom.mem_usablePairs (hfiltered : filtered.FilteredFrom wiring keep)
    (hspan : span ∈ filtered.usablePairs demand) : span ∈ wiring.usablePairs demand := by
  obtain ⟨hsource, htarget, link, hlink, hcompatible⟩ := Wiring.mem_usablePairs.mp hspan
  rw [hfiltered] at hlink
  exact Wiring.mem_usablePairs.mpr
    ⟨hsource, htarget, link, List.mem_of_mem_filter hlink, hcompatible⟩

/-- Dropping links makes no demand ambiguous. -/
theorem FilteredFrom.unambiguous (hfiltered : filtered.FilteredFrom wiring keep)
    (hunambiguous : wiring.Unambiguous demand) : filtered.Unambiguous demand := by
  rw [unambiguous_iff] at hunambiguous ⊢
  intro left hleft right hright
  exact hunambiguous left (hfiltered.mem_usablePairs hleft) right (hfiltered.mem_usablePairs hright)

theorem IsMirrored.joins_symm (hmirrored : wiring.IsMirrored) {source target : DeviceId}
    (hjoins : wiring.Joins source target) : wiring.Joins target source := by
  obtain ⟨span, hsource, htarget, hne⟩ := hjoins
  exact ⟨span.flip, htarget, hsource, hmirrored.get_flip_ne_nil hne⟩

end Wiring

namespace Catalog

variable {catalog : Catalog} {wiring links : Wiring} {demand : PairDemand}
  {warnings : List Warning} {reason : ResolveError}

/-! ## One demand -/

/-- A demand is refused if it is ambiguous, or if no node pair of two linked devices is
usable, and is met otherwise. -/
theorem reducePair_cases (catalog : Catalog) (wiring : Wiring) (demand : PairDemand) :
    (¬ wiring.Unambiguous demand ∧
      catalog.reducePair wiring demand = .error (.unclearConnection demand.capability
        (catalog.devicePath demand.source) (catalog.devicePath demand.target)
        demand.requirement.text (wiring.usablePairs demand).length)) ∨
    (wiring.usablePairs demand = [] ∧
      catalog.reducePair wiring demand = .error (.unsuitableConnection demand.capability
        (catalog.devicePath demand.source) (catalog.devicePath demand.target)
        demand.requirement.text)) ∨
    (wiring.Unambiguous demand ∧
      (wiring.Joins demand.source demand.target → wiring.usablePairs demand ≠ []) ∧
      ∃ met, catalog.reducePair wiring demand = .ok met) := by
  by_cases hempty : (wiring.nodePairs demand.source demand.target).isEmpty
  · have hnone : wiring.usablePairs demand = [] := by
      rw [Wiring.usablePairs, List.isEmpty_iff.mp hempty]
      rfl
    refine Or.inr (Or.inr ⟨by simp [Wiring.Unambiguous, hnone], ?_, _, if_pos hempty⟩)
    rintro ⟨span, hsource, htarget, hne⟩
    have hspan := (Wiring.mem_nodePairs hne).mpr ⟨hsource, htarget⟩
    exact absurd (List.isEmpty_iff.mp hempty) (List.ne_nil_of_mem hspan)
  · by_cases hmatching : 1 < (wiring.usablePairs demand).length
    · exact Or.inl ⟨Nat.not_le.mpr hmatching, (if_neg hempty).trans (if_pos hmatching)⟩
    · have hunambiguous : wiring.Unambiguous demand := Nat.le_of_not_lt hmatching
      by_cases hzero : (wiring.usablePairs demand).length = 0
      · exact Or.inr (Or.inl ⟨List.length_eq_zero_iff.mp hzero,
          (if_neg hempty).trans ((if_neg hmatching).trans (if_pos hzero))⟩)
      · exact Or.inr (Or.inr ⟨hunambiguous, fun _ => mt List.length_eq_zero_iff.mpr hzero, _,
          (if_neg hempty).trans ((if_neg hmatching).trans (if_neg hzero))⟩)

/-- A demand that is met is unambiguous and usable wherever its devices are linked. -/
theorem of_reducePair_eq_ok
    (hreduced : catalog.reducePair wiring demand = .ok (links, warnings)) :
    wiring.Unambiguous demand ∧
      (wiring.Joins demand.source demand.target → wiring.usablePairs demand ≠ []) := by
  rcases reducePair_cases catalog wiring demand with ⟨-, herror⟩ | ⟨-, herror⟩ | ⟨hmet, husable, -⟩
  · rw [herror] at hreduced
    cases hreduced
  · rw [herror] at hreduced
    cases hreduced
  · exact ⟨hmet, husable⟩

/-- Two devices that are linked stay linked when a demand is met. -/
theorem joins_reducePair (hmirrored : wiring.IsMirrored)
    (hreduced : catalog.reducePair wiring demand = .ok (links, warnings))
    {source target : DeviceId} (hjoins : wiring.Joins source target) :
    links.Joins source target := by
  have hfiltered := filteredFrom_reducePair hmirrored hreduced
  have hforward : wiring.Joins demand.source demand.target →
      links.Joins demand.source demand.target := by
    intro hdemanded
    obtain ⟨span, hspan⟩ :=
      List.exists_mem_of_ne_nil _ ((of_reducePair_eq_ok hreduced).2 hdemanded)
    obtain ⟨hsource, htarget, link, hlink, hcompatible⟩ := Wiring.mem_usablePairs.mp hspan
    have hkept : link ∈ links.get span := by
      rw [hfiltered, List.mem_filter]
      exact ⟨hlink, by simp [PairDemand.keeps, hcompatible]⟩
    exact ⟨span, hsource, htarget, List.ne_nil_of_mem hkept⟩
  by_cases hsame : source = demand.source ∧ target = demand.target
  · obtain ⟨rfl, rfl⟩ := hsame
    exact hforward hjoins
  by_cases hback : source = demand.target ∧ target = demand.source
  · obtain ⟨rfl, rfl⟩ := hback
    exact (isMirrored_reducePair hmirrored hreduced).joins_symm
      (hforward (hmirrored.joins_symm hjoins))
  obtain ⟨span, rfl, rfl, hne⟩ := hjoins
  have hapart : demand.joins span = false := by
    rw [Bool.eq_false_iff]
    simp only [PairDemand.joins, ne_eq, Bool.or_eq_true, Bool.and_eq_true, beq_iff_eq]
    exact not_or.mpr ⟨hsame, hback⟩
  have hget : links.get span = wiring.get span := by
    rw [hfiltered]
    simp [PairDemand.keeps, hapart]
  exact ⟨span, rfl, rfl, hget ▸ hne⟩

/-! ## All demands -/

/-- Demands that are all met leave each of them unambiguous and no linked devices
unlinked. -/
theorem unambiguous_of_meetDemands {demands : List PairDemand} (hmirrored : wiring.IsMirrored)
    (hmet : demands.foldlM catalog.meetDemand wiring = .ok links) :
    (∀ demand ∈ demands, links.Unambiguous demand) ∧
      ∀ source target, wiring.Joins source target → links.Joins source target := by
  induction demands generalizing wiring with
  | nil =>
    cases hmet
    exact ⟨by simp, fun _ _ hjoins => hjoins⟩
  | cons demand others ih =>
    rw [List.foldlM_cons] at hmet
    obtain ⟨middle, hmiddle, hmet⟩ := exists_of_bind_eq_ok hmet
    obtain ⟨⟨_, warnings⟩, hreduced, rfl⟩ := exists_of_map_eq_ok hmiddle
    have hmirrored' := isMirrored_reducePair hmirrored hreduced
    obtain ⟨hothers, hjoined⟩ := ih hmirrored' hmet
    have hfirst : links.Unambiguous demand :=
      ((filteredFrom_reducePair hmirrored hreduced).trans
        (filteredFrom_meetDemands hmirrored' hmet).2).unambiguous
          (of_reducePair_eq_ok hreduced).1
    exact ⟨List.forall_mem_cons.mpr ⟨hfirst, hothers⟩, fun source target hjoins =>
      hjoined source target (joins_reducePair hmirrored hreduced hjoins)⟩

/-- What is left between the devices of a demand that was met is usable for it. -/
theorem mem_usablePairs_of_meetDemands {demands : List PairDemand} (hmirrored : wiring.IsMirrored)
    (hmet : demands.foldlM catalog.meetDemand wiring = .ok links) (hdemand : demand ∈ demands)
    {span : Span} (hsource : span.source.device = demand.source)
    (htarget : span.target.device = demand.target) (hne : links.get span ≠ []) :
    span ∈ links.usablePairs demand := by
  obtain ⟨link, hlink⟩ := List.exists_mem_of_ne_nil _ hne
  have hkept := hlink
  rw [(filteredFrom_meetDemands hmirrored hmet).2, List.mem_filter, List.all_eq_true] at hkept
  have hjoins : demand.joins span = true := by simp [PairDemand.joins, hsource, htarget]
  have hcompatible : link.compatible demand.requirement = true := by
    simpa [PairDemand.keeps, hjoins] using hkept.2 demand hdemand
  exact Wiring.mem_usablePairs.mpr ⟨hsource, htarget, link, hlink, hcompatible⟩

/-- Demands that can all be met leave a demand what it can use exactly if it was
unambiguous from the start. -/
theorem unambiguous_iff_of_meetDemands {demands : List PairDemand} (hmirrored : wiring.IsMirrored)
    (hmet : demands.foldlM catalog.meetDemand wiring = .ok links) (hdemand : demand ∈ demands) :
    wiring.Unambiguous demand ↔ ∀ span ∈ wiring.usablePairs demand, links.get span ≠ [] := by
  obtain ⟨hunambiguous, hjoined⟩ := unambiguous_of_meetDemands hmirrored hmet
  have hfiltered := (filteredFrom_meetDemands hmirrored hmet).2
  constructor
  · intro hbefore span hspan
    obtain ⟨hsource, htarget, link, hlink, -⟩ := Wiring.mem_usablePairs.mp hspan
    obtain ⟨left, hleftSource, hleftTarget, hleft⟩ :=
      hjoined demand.source demand.target ⟨span, hsource, htarget, List.ne_nil_of_mem hlink⟩
    have husable := hfiltered.mem_usablePairs
      (mem_usablePairs_of_meetDemands hmirrored hmet hdemand hleftSource hleftTarget hleft)
    exact Wiring.unambiguous_iff.mp hbefore left husable span hspan ▸ hleft
  · intro hkept
    have hleft : ∀ span ∈ wiring.usablePairs demand, span ∈ links.usablePairs demand := by
      intro span hspan
      obtain ⟨hsource, htarget, -⟩ := Wiring.mem_usablePairs.mp hspan
      exact mem_usablePairs_of_meetDemands hmirrored hmet hdemand hsource htarget (hkept span hspan)
    have hafter := Wiring.unambiguous_iff.mp (hunambiguous demand hdemand)
    exact Wiring.unambiguous_iff.mpr fun span hspan other hother =>
      hafter span (hleft span hspan) other (hleft other hother)

/-- Unambiguous demands are never reported as unclear. -/
theorem not_isUnclear_of_meetDemands {demands : List PairDemand} (hmirrored : wiring.IsMirrored)
    (hunambiguous : ∀ demand ∈ demands, wiring.Unambiguous demand)
    (hrefused : demands.foldlM catalog.meetDemand wiring = .error reason) :
    ¬ reason.IsUnclear := by
  induction demands generalizing wiring with
  | nil => cases hrefused
  | cons demand others ih =>
    obtain ⟨hfirst, hothers⟩ := List.forall_mem_cons.mp hunambiguous
    rw [List.foldlM_cons, meetDemand] at hrefused
    rcases reducePair_cases catalog wiring demand with
      ⟨hambiguous, -⟩ | ⟨-, hunsuitable⟩ | ⟨-, -, ⟨middle, warnings⟩, hreduced⟩
    · exact absurd hfirst hambiguous
    · rw [hunsuitable] at hrefused
      cases hrefused
      rintro ⟨_, _, _, _, _, hsame⟩
      cases hsame
    · rw [hreduced] at hrefused
      have hfiltered := filteredFrom_reducePair hmirrored hreduced
      exact ih (isMirrored_reducePair hmirrored hreduced)
        (fun other hother => hfiltered.unambiguous (hothers other hother)) hrefused

/-- No order of the demands reports an ambiguity exactly if there is none. -/
theorem forall_unambiguous_iff (catalog : Catalog) (demands : List PairDemand)
    (hmirrored : wiring.IsMirrored) :
    (∀ demand ∈ demands, wiring.Unambiguous demand) ↔
      ∀ order : List PairDemand, order.Perm demands → ∀ reason,
        order.foldlM catalog.meetDemand wiring = .error reason → ¬ reason.IsUnclear := by
  constructor
  · intro hunambiguous order hperm reason hrefused
    exact not_isUnclear_of_meetDemands hmirrored
      (fun demand hdemand => hunambiguous demand (hperm.mem_iff.mp hdemand)) hrefused
  · intro hclear demand hdemand
    by_contra hambiguous
    obtain ⟨before, after, rfl⟩ := List.append_of_mem hdemand
    have hunclear := (reducePair_cases catalog wiring demand).resolve_right fun hmet =>
      hambiguous (hmet.elim (fun hunsuitable => by simp [Wiring.Unambiguous, hunsuitable.1])
        fun hmet => hmet.1)
    -- Met first, the demand is judged on the expanded wiring.
    apply hclear (demand :: (before ++ after)) List.perm_middle.symm
    · rw [List.foldlM_cons, meetDemand, hunclear.2]
      rfl
    · exact ⟨_, _, _, _, _, rfl⟩

/-- Where a reduction succeeds, every demand is unambiguous on the links that are left, and
devices that were linked still are.  On the expanded wiring, before anything is dropped, a
demand is unambiguous exactly if every node pair that it could use still has links; and
every demand is unambiguous exactly if no order of them reports an ambiguity. -/
theorem unambiguous_of_reducedWiring (hbuilt : Built catalog) {container : ContainerId}
    {questions : List Session.Question} {reduced : ReducedWiring}
    (hreduced : ((Session.reducedWiring catalog container).run.run
      (Session.afterAsking catalog questions)).1 = .ok reduced) :
    ∃ expanded,
      ((Session.absoluteWiring catalog container).run Session.fresh).1.expand = .ok expanded ∧
      (∀ demand ∈ catalog.demands container,
        reduced.links.Unambiguous demand ∧
        (expanded.Joins demand.source demand.target →
          reduced.links.Joins demand.source demand.target) ∧
        (expanded.Unambiguous demand ↔
          ∀ span ∈ expanded.usablePairs demand, reduced.links.get span ≠ [])) ∧
      ((∀ demand ∈ catalog.demands container, expanded.Unambiguous demand) ↔
        ∀ order : List PairDemand, order.Perm (catalog.demands container) → ∀ reason,
          order.foldlM catalog.meetDemand expanded = .error reason → ¬ reason.IsUnclear) := by
  have habsolute := (Session.answers_absoluteWiring container Session.fresh
    (Session.faithfulWith_fresh catalog)).1
  obtain ⟨expanded, hexpand, hmet⟩ := meetDemands_of_reduced (reduced_of_reducedWiring hreduced)
  have hmirrored := (isWithin_absolute hbuilt.wellLaidOut container).isMirrored.expand hexpand
  obtain ⟨hunambiguous, hjoined⟩ := unambiguous_of_meetDemands hmirrored hmet
  rw [habsolute]
  exact ⟨expanded, hexpand, fun demand hdemand => ⟨hunambiguous demand hdemand, hjoined _ _,
    unambiguous_iff_of_meetDemands hmirrored hmet hdemand⟩,
    forall_unambiguous_iff catalog _ hmirrored⟩

/-- On the bench a demand is met over the only node pair that it can use. -/
theorem unambiguous_of_reducedWiring_pingLab :
    ∃ reduced expanded,
      ((Session.reducedWiring pingLab ⟨0⟩).run.run (Session.afterAsking pingLab [.hierarchy])).1 =
        .ok reduced ∧
      ((Session.absoluteWiring pingLab ⟨0⟩).run Session.fresh).1.expand = .ok expanded ∧
      ∃ demand ∈ pingLab.demands ⟨0⟩, (expanded.usablePairs demand).length = 1 ∧
        ∀ span ∈ expanded.usablePairs demand, reduced.links.get span ≠ [] := by
  have hok : ((Session.reducedWiring pingLab ⟨0⟩).run.run
      (Session.afterAsking pingLab [.hierarchy])).1.isOk = true := by decide +kernel
  obtain ⟨reduced, hreduced⟩ := exists_of_isOk hok
  obtain ⟨expanded, hexpand, hdemands, -⟩ := unambiguous_of_reducedWiring built_pingLab hreduced
  have husable : ∃ demand ∈ pingLab.demands ⟨0⟩,
      (((Session.absoluteWiring pingLab ⟨0⟩).run Session.fresh).1.expand.toOption.map
        fun expanded => (expanded.usablePairs demand).length) = some 1 := by
    decide +kernel
  obtain ⟨demand, hdemand, hpairs⟩ := husable
  rw [hexpand] at hpairs
  have hlength : (expanded.usablePairs demand).length = 1 := Option.some.inj hpairs
  exact ⟨reduced, expanded, hreduced, hexpand, demand, hdemand, hlength,
    (hdemands demand hdemand).2.2.mp hlength.le⟩

/-- A device with two capabilities that are bound to the same device, over one link for each
of two node pairs.  `Narrow` can use the first link only, `Wide` either of them. -/
def sharedPairDeclarations (narrow wide : String) : List Declaration :=
  let tcp := Connection.ofTags (TagSet.ofList ["tcp"])
  let usb := Connection.ofTags (TagSet.ofList ["usb"])
  let tcpOrUsb : Connection :=
    ⟨.either (.link (TagSet.ofList ["tcp"])) (.link (TagSet.ofList ["usb"])) [], none⟩
  [.container .scenario "S", .device ⟨0⟩ "A", .device ⟨0⟩ "B",
    .capability "Narrow", .logicalDevice ⟨0⟩ "peer", .require ⟨0⟩ tcp,
    .capability "Wide", .logicalDevice ⟨1⟩ "peer", .require ⟨1⟩ tcpOrUsb,
    .attach (.device ⟨0⟩) narrow ⟨0⟩, .bind ⟨0⟩ "peer" ⟨1⟩,
    .attach (.device ⟨0⟩) wide ⟨1⟩, .bind ⟨1⟩ "peer" ⟨1⟩,
    .connect ⟨⟨0⟩, "n0"⟩ ⟨⟨1⟩, "n0"⟩ tcp false,
    .connect ⟨⟨0⟩, "n1"⟩ ⟨⟨1⟩, "n1"⟩ usb false]

def sharedPairLab (narrow wide : String) : Catalog :=
  (declareAll (sharedPairDeclarations narrow wide)).toOption.getD empty

/-- The attribute names alone decide whether the ambiguity of `Wide` is reported: it goes
unnoticed when `Narrow` comes first and empties the second node pair. -/
theorem ambiguity_depends_on_attribute_names :
    Built (sharedPairLab "a" "b") ∧ Built (sharedPairLab "b" "a") ∧
      (∃ reduced expanded,
        ((Session.reducedWiring (sharedPairLab "a" "b") ⟨0⟩).run.run Session.fresh).1 =
          .ok reduced ∧
        ((Session.absoluteWiring (sharedPairLab "a" "b") ⟨0⟩).run Session.fresh).1.expand =
          .ok expanded ∧
        ∃ demand ∈ (sharedPairLab "a" "b").demands ⟨0⟩, ¬ expanded.Unambiguous demand) ∧
      ∃ reason,
        ((Session.reducedWiring (sharedPairLab "b" "a") ⟨0⟩).run.run Session.fresh).1 =
          .error reason ∧ reason.IsUnclear := by
  refine ⟨built_of_declareAll (by decide +kernel) (by decide +kernel),
    built_of_declareAll (by decide +kernel) (by decide +kernel), ?_, ?_⟩
  · have hok : ((Session.reducedWiring (sharedPairLab "a" "b") ⟨0⟩).run.run
        Session.fresh).1.isOk = true := by
      decide +kernel
    obtain ⟨reduced, hreduced⟩ := exists_of_isOk hok
    have hexpands : ((Session.absoluteWiring (sharedPairLab "a" "b") ⟨0⟩).run
        Session.fresh).1.expand.isOk = true := by
      decide +kernel
    obtain ⟨expanded, hexpand⟩ := exists_of_isOk hexpands
    have hambiguous : ∃ demand ∈ (sharedPairLab "a" "b").demands ⟨0⟩,
        (((Session.absoluteWiring (sharedPairLab "a" "b") ⟨0⟩).run
          Session.fresh).1.expand.toOption.map fun expanded =>
            (expanded.usablePairs demand).length) = some 2 := by
      decide +kernel
    obtain ⟨demand, hdemand, hpairs⟩ := hambiguous
    rw [hexpand] at hpairs
    have hlength : (expanded.usablePairs demand).length = 2 := Option.some.inj hpairs
    exact ⟨reduced, expanded, hreduced, hexpand, demand, hdemand, Nat.not_le.mpr hlength.ge⟩
  · have hrefused : (match ((Session.reducedWiring (sharedPairLab "b" "a") ⟨0⟩).run.run
        Session.fresh).1 with
        | .error reason => some reason
        | .ok _ => none) =
          some (.unclearConnection "S.A.a" "S.A" "S.B" "tcp | usb" 2) := by
      decide +kernel
    cases houtcome : ((Session.reducedWiring (sharedPairLab "b" "a") ⟨0⟩).run.run
        Session.fresh).1 with
    | error reason =>
      rw [houtcome] at hrefused
      exact ⟨reason, rfl, _, _, _, _, _, Option.some.inj hrefused⟩
    | ok reduced =>
      rw [houtcome] at hrefused
      cases hrefused

end Catalog

end LabMatch
