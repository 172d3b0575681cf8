import LabMatch.Proofs.Wiring.Ambiguity
import LabMatch.Proofs.Wiring.Attached

/-!
# What a reduction loses

A reduction drops links, and says so when nothing is left of a pair of endpoints.  Each
single step accounts for the pairs that it empties, and what is lost over several steps is
what each of them loses: a pair that is emptied was linked until then, and stays empty.
So no pair disappears silently and none is reported twice, though several demands may
reduce the same two devices, from either side.

Of the node pairs between the devices of a demand exactly one is left, if there was any.
-/

namespace LabMatch

namespace Wiring

/-- The spans are the endpoint pairs that are linked before and no longer afterwards, each
of them once and in one direction. -/
structure LosesTo (before after : Wiring) (lost : List Span) : Prop where
  once : lost.Pairwise fun earlier later => ¬ earlier.SamePair later
  exact : ∀ span, (before.get span ≠ [] ∧ after.get span = []) ↔ ∃ gone ∈ lost, gone.SamePair span

variable {wiring middle after : Wiring} {keep keep' : Span → Connection → Bool}
  {lost others : List Span}

/-- Where every linked pair keeps some link, nothing is lost. -/
theorem losesTo_nil (hleft : ∀ span, wiring.get span ≠ [] → after.get span ≠ []) :
    wiring.LosesTo after [] where
  once := List.Pairwise.nil
  exact span := by
    simp only [List.not_mem_nil, false_and, exists_false, iff_false, not_and]
    exact hleft span

theorem FilteredFrom.get_eq_nil (hfiltered : after.FilteredFrom wiring keep) {span : Span}
    (hempty : wiring.get span = []) : after.get span = [] := by
  rw [hfiltered, hempty]
  rfl

/-- What is lost in two steps is what is lost in either of them. -/
theorem LosesTo.trans (hfirst : wiring.LosesTo middle lost) (hsecond : middle.LosesTo after others)
    (hmiddle : middle.FilteredFrom wiring keep) (hafter : after.FilteredFrom middle keep') :
    wiring.LosesTo after (lost ++ others) where
  once := by
    refine List.pairwise_append.mpr ⟨hfirst.once, hsecond.once, ?_⟩
    intro earlier hearlier later hlater hsame
    have hgone := ((hfirst.exact later).mpr ⟨earlier, hearlier, hsame⟩).2
    have hlinked := ((hsecond.exact later).mpr ⟨later, hlater, Or.inl rfl⟩).1
    exact hlinked hgone
  exact span := by
    simp only [List.mem_append, or_and_right, exists_or, ← hfirst.exact, ← hsecond.exact]
    constructor
    · intro hlost
      by_cases hgone : middle.get span = []
      · exact Or.inl ⟨hlost.1, hgone⟩
      · exact Or.inr ⟨hgone, hlost.2⟩
    · rintro (hlost | hlost)
      · exact ⟨hlost.1, hafter.get_eq_nil hlost.2⟩
      · exact ⟨mt hmiddle.get_eq_nil hlost.1, hlost.2⟩

/-! ## One node pair -/

theorem IsMirrored.get_eq_nil_iff (hmirrored : wiring.IsMirrored) {span other : Span}
    (hsame : span.SamePair other) : wiring.get span = [] ↔ wiring.get other = [] := by
  obtain rfl | rfl := hsame
  · exact Iff.rfl
  · rw [hmirrored.mirrored, List.map_eq_nil_iff]

variable {requirement : Connection} {span : Span}

/-- A removal is reported exactly for a linked pair without a usable link. -/
theorem restrict_removes_iff :
    (wiring.restrict requirement span).2 = true ↔
      wiring.get span ≠ [] ∧ wiring.usable requirement span = [] := by
  rw [restrict]
  by_cases hall : (wiring.usable requirement span).length = (wiring.get span).length
  · rw [if_pos hall]
    simp only [Bool.false_eq_true, false_iff, not_and]
    intro hlinked hnone
    rw [hnone, eq_comm, List.length_nil, List.length_eq_zero_iff] at hall
    exact hlinked hall
  · rw [if_neg hall]
    simp only [List.isEmpty_iff, iff_and_self]
    intro hnone hunlinked
    exact hall (by rw [hnone, hunlinked])

theorem get_restrict_eq_nil_iff (hmirrored : wiring.IsMirrored) {other : Span} :
    (wiring.restrict requirement span).1.get other = [] ↔
      wiring.get other = [] ∨ span.SamePair other ∧ wiring.usable requirement span = [] := by
  have hfiltered := filteredFrom_restrict hmirrored requirement span
  by_cases hsame : span.SamePair other
  · rw [← (hmirrored.restrict requirement span).get_eq_nil_iff hsame,
      ← hmirrored.get_eq_nil_iff hsame]
    have hkept :
        (wiring.restrict requirement span).1.get span = wiring.usable requirement span := by
      rw [hfiltered, usable]
      simp
    rw [hkept]
    simp only [hsame, true_and]
    exact ⟨Or.inr, fun hnone => hnone.elim (fun hunlinked => by simp [usable, hunlinked]) id⟩
  · have hapart : ¬ (other = span ∨ other = span.flip) :=
      fun hother => hsame (Span.SamePair.symm hother)
    rw [hfiltered]
    simp [hapart, hsame]

/-- What restricting one node pair reports to be removed is what it loses. -/
theorem losesTo_restrict (hmirrored : wiring.IsMirrored) (requirement : Connection) (span : Span) :
    wiring.LosesTo (wiring.restrict requirement span).1
      (if (wiring.restrict requirement span).2 then [span] else []) := by
  by_cases hremoved : (wiring.restrict requirement span).2 = true
  · obtain ⟨hlinked, hnone⟩ := restrict_removes_iff.mp hremoved
    rw [if_pos hremoved]
    constructor
    · exact List.pairwise_singleton _ _
    · intro other
      rw [get_restrict_eq_nil_iff hmirrored, List.exists_mem_cons_iff]
      simp only [hnone, and_true, List.not_mem_nil, false_and, exists_false, or_false]
      constructor
      · exact fun hlost => hlost.2.resolve_left hlost.1
      · exact fun hsame => ⟨mt (hmirrored.get_eq_nil_iff hsame).mpr hlinked, Or.inr hsame⟩
  · rw [if_neg hremoved]
    apply losesTo_nil
    intro other hlinked
    rw [ne_eq, get_restrict_eq_nil_iff hmirrored, not_or]
    refine ⟨hlinked, fun hlost => hremoved (restrict_removes_iff.mpr ⟨?_, hlost.2⟩)⟩
    exact mt (hmirrored.get_eq_nil_iff hlost.1).mp hlinked

/-! ## All node pairs of two devices -/

/-- Restricting node pairs one after the other notes each pair that is lost. -/
theorem exists_losesTo_restrictNoting {Note : Type} (note : Span → Note)
    (hmirrored : wiring.IsMirrored) (requirement : Connection) (spans : List Span) :
    ∃ lost, lost ⊆ spans ∧
      wiring.LosesTo (wiring.restrictNoting note requirement spans).1 lost ∧
      (wiring.restrictNoting note requirement spans).2 = lost.map note := by
  induction spans using List.reverseRecOn with
  | nil => exact ⟨[], List.Subset.refl [], losesTo_nil fun _ hlinked => hlinked, rfl⟩
  | append_singleton earlier span ih =>
    obtain ⟨lost, hearlier, hloses, hnoted⟩ := ih
    rw [fst_restrictNoting] at hloses ⊢
    have hmirrored' := isMirrored_restrictAll hmirrored requirement earlier
    have hboth := hloses.trans (losesTo_restrict hmirrored' requirement span)
      (filteredFrom_restrictAll hmirrored requirement earlier)
      (filteredFrom_restrict hmirrored' requirement span)
    refine ⟨_, ?_, by rwa [restrictAll, List.foldl_concat], ?_⟩
    · apply List.append_subset.mpr
      constructor
      · exact List.subset_append_of_subset_left _ hearlier
      · split <;> simp
    · rw [restrictNoting, List.foldl_concat, ← restrictNoting, fst_restrictNoting, hnoted]
      dsimp only
      split <;> simp

theorem NoEmptyEntry.get_ne_nil_of_mem_nodePairs (hwiring : wiring.NoEmptyEntry)
    {source target : DeviceId} (hspan : span ∈ wiring.nodePairs source target) :
    wiring.get span ≠ [] := by
  obtain ⟨entry, hentry, rfl⟩ := List.mem_map.mp hspan
  exact hwiring.get_ne_nil (List.mem_of_mem_filter hentry)

theorem NoEmptyEntry.joins_iff (hwiring : wiring.NoEmptyEntry) {source target : DeviceId} :
    wiring.Joins source target ↔ wiring.nodePairs source target ≠ [] := by
  constructor
  · rintro ⟨span, hsource, htarget, hne⟩
    exact List.ne_nil_of_mem ((mem_nodePairs hne).mpr ⟨hsource, htarget⟩)
  · intro hpairs
    obtain ⟨span, hspan⟩ := List.exists_mem_of_ne_nil _ hpairs
    have hne := hwiring.get_ne_nil_of_mem_nodePairs hspan
    obtain ⟨hsource, htarget⟩ := (mem_nodePairs hne).mp hspan
    exact ⟨span, hsource, htarget, hne⟩

end Wiring

namespace Catalog

variable {catalog : Catalog} {wiring links : Wiring} {demand : PairDemand}
  {warnings : List Warning}

/-! ## One demand -/

/-- Meeting a demand warns of the pairs between its devices that are lost. -/
theorem losesTo_reducePair (hmirrored : wiring.IsMirrored)
    (hreduced : catalog.reducePair wiring demand = .ok (links, warnings)) :
    ∃ lost, wiring.LosesTo links lost ∧ (∀ gone ∈ lost, demand.joins gone = true) ∧
      warnings = lost.map (catalog.removalWarning demand) := by
  obtain ⟨lost, hbetween, hloses, hnoted⟩ := Wiring.exists_losesTo_restrictNoting
    (catalog.removalWarning demand) hmirrored demand.requirement
    (wiring.nodePairs demand.source demand.target)
  rw [← restrictNoting_of_reducePair hreduced] at hloses hnoted
  refine ⟨lost, hloses, ?_, hnoted⟩
  intro gone hgone
  have hlinked := ((hloses.exact gone).mpr ⟨gone, hgone, Or.inl rfl⟩).1
  obtain ⟨hsource, htarget⟩ := (Wiring.mem_nodePairs hlinked).mp (hbetween hgone)
  simp [PairDemand.joins, hsource, htarget]

/-! ## All demands -/

/-- Meeting demands warns of each pair that is lost, for a demand between its devices. -/
theorem losesTo_noteDemands {demands : List PairDemand} {earlier reduced : ReducedWiring}
    (hmirrored : earlier.links.IsMirrored)
    (hnoted : demands.foldlM catalog.noteDemand earlier = .ok reduced) :
    ∃ removals : List (PairDemand × Span),
      reduced.warnings = earlier.warnings ++
        (removals.map fun removal => catalog.removalWarning removal.1 removal.2) ∧
      earlier.links.LosesTo reduced.links (removals.map Prod.snd) ∧
      ∀ removal ∈ removals, removal.1 ∈ demands ∧ removal.1.joins removal.2 = true := by
  induction demands generalizing earlier with
  | nil =>
    cases hnoted
    exact ⟨[], by simp, Wiring.losesTo_nil fun _ hlinked => hlinked, by simp⟩
  | cons demand others ih =>
    rw [List.foldlM_cons] at hnoted
    obtain ⟨middle, hmiddle, hnoted⟩ := exists_of_bind_eq_ok hnoted
    obtain ⟨⟨links, warnings⟩, hreduced, hmiddle⟩ := exists_of_bind_eq_ok hmiddle
    cases hmiddle
    have hmirrored' := isMirrored_reducePair hmirrored hreduced
    obtain ⟨lost, hlost, hjoins, rfl⟩ := losesTo_reducePair hmirrored hreduced
    obtain ⟨removals, hwarnings, hloses, hremovals⟩ := ih hmirrored' hnoted
    refine ⟨lost.map (demand, ·) ++ removals, ?_, ?_, ?_⟩
    · rw [hwarnings]
      simp [Function.comp_def]
    · have hboth := hlost.trans hloses (filteredFrom_reducePair hmirrored hreduced)
        (filteredFrom_meetDemands hmirrored' (meetDemands_of_noteDemands hnoted)).2
      simpa [Function.comp_def] using hboth
    · intro removal hremoval
      rcases List.mem_append.mp hremoval with hfirst | hlater
      · obtain ⟨gone, hgone, rfl⟩ := List.mem_map.mp hfirst
        exact ⟨List.mem_cons_self, hjoins gone hgone⟩
      · obtain ⟨hdemand, hends⟩ := hremovals removal hlater
        exact ⟨List.mem_cons_of_mem _ hdemand, hends⟩

/-- A node pair that is left between the devices of a demand is the only one, and linked. -/
theorem nodePairs_eq_singleton_of_meetDemands {demands : List PairDemand}
    (hmirrored : wiring.IsMirrored) (hwiring : wiring.NoEmptyEntry)
    (hmet : demands.foldlM catalog.meetDemand wiring = .ok links) (hdemand : demand ∈ demands)
    (hjoined : wiring.nodePairs demand.source demand.target ≠ []) :
    ∃ span, links.nodePairs demand.source demand.target = [span] ∧ links.get span ≠ [] := by
  obtain ⟨hunambiguous, hkept⟩ := unambiguous_of_meetDemands hmirrored hmet
  have hlinks := noEmptyEntry_of_meetDemands hwiring hmet
  have hleft := hlinks.joins_iff.mp (hkept _ _ (hwiring.joins_iff.mpr hjoined))
  have husable : links.usablePairs demand = links.nodePairs demand.source demand.target := by
    apply List.filter_eq_self.mpr
    intro span hspan
    have hne := hlinks.get_ne_nil_of_mem_nodePairs hspan
    obtain ⟨hsource, htarget⟩ := (Wiring.mem_nodePairs hne).mp hspan
    have hmem := mem_usablePairs_of_meetDemands hmirrored hmet hdemand hsource htarget hne
    exact (List.mem_filter.mp hmem).2
  have hlength : (links.nodePairs demand.source demand.target).length = 1 := by
    have hatMost := hunambiguous demand hdemand
    rw [Wiring.Unambiguous, husable] at hatMost
    exact le_antisymm hatMost (List.length_pos_iff.mpr hleft)
  obtain ⟨span, hspan⟩ := List.length_eq_one_iff.mp hlength
  exact ⟨span, hspan, hlinks.get_ne_nil_of_mem_nodePairs (hspan ▸ List.mem_singleton_self span)⟩

/-- Where a reduction succeeds, each demand between linked devices has one node pair left,
which is still linked.  The warnings are those of the absolute wiring, followed by one for
each pair of endpoints that is linked in the expanded absolute wiring and no longer linked,
which names a demand between its devices. -/
theorem reducedWiring_accounts_for_losses (hbuilt : Built catalog) {container : ContainerId}
    {questions : List Session.Question} {reduced : ReducedWiring}
    (hreduced : ((Session.reducedWiring catalog container).run.run
      (Session.afterAsking catalog questions)).1 = .ok reduced) :
    ∃ (expanded : Wiring) (earlier : List Warning) (removals : List (PairDemand × Span)),
      let asked := (Session.absoluteWiring catalog container).run Session.fresh
      asked.1.expand = .ok expanded ∧
      (asked.2.containerNotes container).absolute = some (asked.1, earlier) ∧
      (∀ demand ∈ catalog.demands container,
        expanded.nodePairs demand.source demand.target ≠ [] →
          ∃ span, reduced.links.nodePairs demand.source demand.target = [span] ∧
            reduced.links.get span ≠ []) ∧
      reduced.warnings =
        earlier ++ (removals.map fun removal => catalog.removalWarning removal.1 removal.2) ∧
      expanded.LosesTo reduced.links (removals.map Prod.snd) ∧
      ∀ removal ∈ removals,
        removal.1 ∈ catalog.demands container ∧ removal.1.joins removal.2 = true := by
  have hfaithful := Session.faithfulWith_fresh catalog
  have habsolute := (Session.answers_absoluteWiring container Session.fresh hfaithful).1
  have hasked := Session.absolute_noted container hfaithful
  have hplain := reduced_of_reducedWiring hreduced
  obtain ⟨expanded, hexpand, hnoted⟩ := noteDemands_of_reduced hplain
  have hwithin := isWithin_absolute hbuilt.wellLaidOut container
  have hmirrored := hwithin.isMirrored.expand hexpand
  have hentries := hwithin.noEmptyEntry.expand hexpand
  obtain ⟨removals, hwarnings, hloses, hremovals⟩ := losesTo_noteDemands hmirrored hnoted
  refine ⟨expanded, (catalog.absolute container).2, removals, ?_, ?_, ?_, hwarnings, hloses,
    hremovals⟩
  · rw [habsolute, hexpand]
  · rw [hasked, habsolute]
  · intro demand hdemand hjoined
    exact nodePairs_eq_singleton_of_meetDemands hmirrored hentries
      (meetDemands_of_noteDemands hnoted) hdemand hjoined

/-- Two capabilities reduce the same two devices, and the node pair that the first of them
empties is reported once. -/
theorem reducedWiring_accounts_for_losses_sharedPairLab :
    ∃ reduced expanded removals,
      ((Session.reducedWiring (sharedPairLab "a" "b") ⟨0⟩).run.run
        (Session.afterAsking (sharedPairLab "a" "b") [])).1 = .ok reduced ∧
      ((Session.absoluteWiring (sharedPairLab "a" "b") ⟨0⟩).run Session.fresh).1.expand =
        .ok expanded ∧
      (∃ demand ∈ (sharedPairLab "a" "b").demands ⟨0⟩,
        (expanded.nodePairs demand.source demand.target).length = 2 ∧
          ∃ span, reduced.links.nodePairs demand.source demand.target = [span]) ∧
      reduced.warnings.length = 1 ∧ removals.length = 1 ∧
      expanded.LosesTo reduced.links removals := by
  have hbuilt : Built (sharedPairLab "a" "b") :=
    built_of_declareAll (by decide +kernel) (by decide +kernel)
  have hwarned : (((Session.reducedWiring (sharedPairLab "a" "b") ⟨0⟩).run.run
      (Session.afterAsking (sharedPairLab "a" "b") [])).1.toOption.map
        fun reduced => reduced.warnings.length) = some 1 := by
    decide +kernel
  have hearlier : (((Session.absoluteWiring (sharedPairLab "a" "b") ⟨0⟩).run
      Session.fresh).2.containerNotes ⟨0⟩).absolute.map (fun noted => noted.2.length) =
        some 0 := by
    decide +kernel
  have hdoubled : ∃ demand ∈ (sharedPairLab "a" "b").demands ⟨0⟩,
      (((Session.absoluteWiring (sharedPairLab "a" "b") ⟨0⟩).run
        Session.fresh).1.expand.toOption.map fun expanded =>
          (expanded.nodePairs demand.source demand.target).length) = some 2 := by
    decide +kernel
  obtain ⟨reduced, hreduced, hlength⟩ := exists_of_map_toOption hwarned
  obtain ⟨expanded, earlier, removals, hexpand, hnoted, hdemands, hwarnings, hloses, -⟩ :=
    reducedWiring_accounts_for_losses hbuilt hreduced
  obtain ⟨demand, hdemand, hpairs⟩ := hdoubled
  rw [hnoted] at hearlier
  rw [hexpand] at hpairs
  have hnone : earlier.length = 0 := Option.some.inj hearlier
  have htwo : (expanded.nodePairs demand.source demand.target).length = 2 :=
    Option.some.inj hpairs
  obtain ⟨span, hspan, -⟩ := hdemands demand hdemand (List.ne_nil_of_length_eq_add_one htwo)
  refine ⟨reduced, expanded, removals.map Prod.snd, hreduced, hexpand,
    ⟨demand, hdemand, htwo, span, hspan⟩, hlength, ?_, hloses⟩
  rw [hwarnings, List.length_append, List.length_map, hnone, Nat.zero_add] at hlength
  rw [List.length_map, hlength]

end Catalog

end LabMatch
