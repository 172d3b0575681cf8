import LabMatch.Proofs.Capability.Requirement
import LabMatch.Proofs.Session.Transparency
import LabMatch.Proofs.Wiring.Absolute

/-!
# Reduction is a filter

Every bound capability demands something of the links between two devices.
Whatever the order in which the demands are met, a reduction that succeeds keeps
exactly the links of the expanded absolute wiring that are compatible with every
demand on their two devices.  Each demand only looks at the links from its own
device to its bound device; that the far copies follow is due to the wiring being
mirrored.
-/

namespace LabMatch

theorem Span.flip_eq_iff {span other : Span} : span.flip = other ↔ span = other.flip := by
  constructor
  · exact fun hflip => by rw [← hflip, flip_flip]
  · exact fun hflip => by rw [hflip, flip_flip]

theorem Span.flip_inj {span other : Span} : span.flip = other.flip ↔ span = other := by
  rw [flip_eq_iff, flip_flip]

/-- The spans join the same two endpoints, in either order. -/
def Span.SamePair (span other : Span) : Prop := span = other ∨ span = other.flip

theorem Span.SamePair.symm {span other : Span} (hsame : span.SamePair other) :
    other.SamePair span :=
  hsame.imp Eq.symm fun hflip => Span.flip_eq_iff.mp hflip.symm

theorem Span.SamePair.trans {span other third : Span} (hsame : span.SamePair other)
    (hothers : other.SamePair third) : span.SamePair third := by
  cases hsame with
  | inl heq => exact heq ▸ hothers
  | inr hflip =>
    rw [hflip, SamePair, Span.flip_inj, Span.flip_eq_iff]
    exact Or.symm hothers

namespace PairDemand

def joins (demand : PairDemand) (span : Span) : Bool :=
  (span.source.device == demand.source && span.target.device == demand.target) ||
    (span.source.device == demand.target && span.target.device == demand.source)

def keeps (demand : PairDemand) (span : Span) (link : Connection) : Bool :=
  !demand.joins span || link.compatible demand.requirement

theorem keeps_iff {demand : PairDemand} {span : Span} {link : Connection} :
    demand.keeps span link = true ↔
      (demand.joins span = true → link.compatible demand.requirement = true) := by
  rw [keeps, Bool.or_eq_true, Bool.not_eq_true', ← Bool.not_eq_true, imp_iff_not_or]

end PairDemand

@[simp]
theorem Connection.compatible_farCopy (link requirement : Connection) :
    link.farCopy.compatible requirement = link.compatible requirement := by
  simp [compatible, within]

namespace Wiring

variable {wiring filtered : Wiring} {requirement : Connection}

/-- The wiring holds what the other one holds, as far as it is to be kept. -/
def FilteredFrom (filtered wiring : Wiring) (keep : Span → Connection → Bool) : Prop :=
  ∀ span, filtered.get span = (wiring.get span).filter (keep span)

theorem FilteredFrom.refl (wiring : Wiring) : wiring.FilteredFrom wiring fun _ _ => true := by
  intro span
  simp

theorem FilteredFrom.trans {middle : Wiring} {keep keep' : Span → Connection → Bool}
    (hfirst : middle.FilteredFrom wiring keep) (hsecond : filtered.FilteredFrom middle keep') :
    filtered.FilteredFrom wiring fun span link => keep span link && keep' span link := by
  intro span
  rw [hsecond, hfirst, List.filter_filter]
  simp only [Bool.and_comm]

theorem FilteredFrom.congr {keep keep' : Span → Connection → Bool}
    (hfiltered : filtered.FilteredFrom wiring keep)
    (hkeep : ∀ span, ∀ link ∈ wiring.get span, keep span link = keep' span link) :
    filtered.FilteredFrom wiring keep' := by
  intro span
  rw [hfiltered]
  exact List.filter_congr (hkeep span)

/-! ## One node pair -/

theorem filteredFrom_restrict (hmirrored : wiring.IsMirrored) (requirement : Connection)
    (span : Span) :
    (wiring.restrict requirement span).1.FilteredFrom wiring fun other link =>
      !decide (other = span ∨ other = span.flip) || link.compatible requirement := by
  intro other
  rw [restrict]
  by_cases hall : (wiring.usable requirement span).length = (wiring.get span).length
  · rw [if_pos hall]
    have hkept : ∀ link ∈ wiring.get span, link.compatible requirement = true :=
      List.length_filter_eq_length_iff.mp hall
    symm
    apply List.filter_eq_self.mpr
    intro link hlink
    by_cases hsame : other = span
    · simp [hkept link (hsame ▸ hlink)]
    · by_cases hflip : other = span.flip
      · rw [hflip, hmirrored.mirrored] at hlink
        obtain ⟨near, hnear, rfl⟩ := List.mem_map.mp hlink
        simp [hkept near hnear]
      · simp [hsame, hflip]
  · rw [if_neg hall]
    have hne : wiring.get span ≠ [] := by
      intro hempty
      exact hall (by simp [usable, hempty])
    dsimp only
    rw [get_putBoth wiring (hmirrored.flip_ne hne)]
    by_cases hsame : other = span
    · simp [hsame, usable]
    · by_cases hflip : other = span.flip
      · subst hflip
        rw [if_neg hsame, if_pos rfl, hmirrored.mirrored, usable, List.filter_map]
        simp [Function.comp_def]
      · simp [hsame, hflip]

theorem IsMirrored.restrict (hmirrored : wiring.IsMirrored) (requirement : Connection)
    (span : Span) : (wiring.restrict requirement span).1.IsMirrored := by
  apply hmirrored.of_filter _ (filteredFrom_restrict hmirrored requirement span)
  intro other link
  have hflip : (other.flip = span ∨ other.flip = span.flip) ↔
      (other = span ∨ other = span.flip) := by
    rw [Span.flip_eq_iff, Span.flip_inj]
    exact or_comm
  simp [hflip]

/-! ## All node pairs of two devices -/

def restrictAll (wiring : Wiring) (requirement : Connection) (spans : List Span) : Wiring :=
  spans.foldl (fun wiring span => (wiring.restrict requirement span).1) wiring

/-- Restricting node pairs one after the other, with a note on each that is emptied. -/
def restrictNoting {Note : Type} (wiring : Wiring) (note : Span → Note) (requirement : Connection)
    (spans : List Span) : Wiring × List Note :=
  spans.foldl
    (fun reduced span =>
      let (wiring, removed) := reduced.1.restrict requirement span
      (wiring, if removed then reduced.2 ++ [note span] else reduced.2))
    (wiring, [])

/-- What is noted along the way does not change the links. -/
theorem fst_restrictNoting {Note : Type} (note : Span → Note) (spans : List Span) :
    (wiring.restrictNoting note requirement spans).1 = wiring.restrictAll requirement spans := by
  induction spans using List.reverseRecOn with
  | nil => rfl
  | append_singleton earlier span ih =>
    rw [restrictAll, restrictNoting, List.foldl_concat, List.foldl_concat, ← restrictAll, ← ih]
    rfl

theorem isMirrored_restrictAll (hmirrored : wiring.IsMirrored) (requirement : Connection)
    (spans : List Span) : (wiring.restrictAll requirement spans).IsMirrored := by
  induction spans using List.reverseRecOn with
  | nil => exact hmirrored
  | append_singleton earlier span ih =>
    rw [restrictAll, List.foldl_concat]
    exact ih.restrict requirement span

/-- Restricting node pairs filters the links of all of them. -/
theorem filteredFrom_restrictAll (hmirrored : wiring.IsMirrored) (requirement : Connection)
    (spans : List Span) :
    (wiring.restrictAll requirement spans).FilteredFrom wiring fun other link =>
      !decide (other ∈ spans ∨ other.flip ∈ spans) || link.compatible requirement := by
  induction spans using List.reverseRecOn with
  | nil =>
    apply (FilteredFrom.refl wiring).congr
    intro other link _
    simp
  | append_singleton earlier span ih =>
    rw [restrictAll, List.foldl_concat]
    apply (ih.trans (filteredFrom_restrict
      (isMirrored_restrictAll hmirrored requirement earlier) requirement span)).congr
    intro other link _
    have hends : (other ∈ earlier ++ [span] ∨ other.flip ∈ earlier ++ [span]) ↔
        ((other ∈ earlier ∨ other.flip ∈ earlier) ∨ (other = span ∨ other = span.flip)) := by
      rw [List.mem_append, List.mem_append, List.mem_singleton, List.mem_singleton,
        Span.flip_eq_iff]
      exact or_or_or_comm
    by_cases hcompatible : link.compatible requirement
    · simp [hcompatible]
    · simp only [hcompatible, Bool.or_false, hends, Bool.decide_or, Bool.not_or]

/-- The node pairs between two devices are the linked ones. -/
theorem mem_nodePairs {source target : DeviceId} {span : Span} (hne : wiring.get span ≠ []) :
    span ∈ wiring.nodePairs source target ↔
      span.source.device = source ∧ span.target.device = target := by
  simp only [nodePairs, entriesBetween, List.mem_map, List.mem_filter, Bool.and_eq_true,
    beq_iff_eq]
  constructor
  · intro hspan
    obtain ⟨entry, ⟨-, hdevices⟩, rfl⟩ := hspan
    exact hdevices
  · intro hdevices
    exact ⟨_, ⟨mem_entries_of_get_ne_nil hne, hdevices⟩, rfl⟩

end Wiring

namespace Catalog

variable {catalog : Catalog} {wiring links : Wiring} {demand : PairDemand}
  {warnings : List Warning} {met : Wiring × List Warning}

/-- A demand that can be met restricts the node pairs from its device to its
bound device, and warns of those that are emptied. -/
theorem restrictNoting_of_reducePair (hreduced : catalog.reducePair wiring demand = .ok met) :
    met = wiring.restrictNoting (catalog.removalWarning demand) demand.requirement
      (wiring.nodePairs demand.source demand.target) := by
  rw [reducePair] at hreduced
  dsimp only at hreduced
  by_cases hempty : (wiring.nodePairs demand.source demand.target).isEmpty
  · rw [if_pos hempty] at hreduced
    cases hreduced
    rw [List.isEmpty_iff.mp hempty]
    rfl
  · rw [if_neg hempty] at hreduced
    split at hreduced
    · cases hreduced
    · split at hreduced
      · cases hreduced
      · exact (Except.ok.inj hreduced).symm

theorem reducePair_eq_ok (hreduced : catalog.reducePair wiring demand = .ok (links, warnings)) :
    links = wiring.restrictAll demand.requirement
      (wiring.nodePairs demand.source demand.target) := by
  rw [← Wiring.fst_restrictNoting (catalog.removalWarning demand),
    ← restrictNoting_of_reducePair hreduced]

/-- Meeting a demand filters the links between its devices. -/
theorem filteredFrom_reducePair (hmirrored : wiring.IsMirrored)
    (hreduced : catalog.reducePair wiring demand = .ok (links, warnings)) :
    links.FilteredFrom wiring demand.keeps := by
  rw [reducePair_eq_ok hreduced]
  apply (Wiring.filteredFrom_restrictAll hmirrored _ _).congr
  intro span link hlink
  have hne := List.ne_nil_of_mem hlink
  have hjoins : (span ∈ wiring.nodePairs demand.source demand.target ∨
      span.flip ∈ wiring.nodePairs demand.source demand.target) ↔ demand.joins span = true := by
    rw [Wiring.mem_nodePairs hne, Wiring.mem_nodePairs (hmirrored.get_flip_ne_nil hne),
      PairDemand.joins, Bool.or_eq_true, Bool.and_eq_true, Bool.and_eq_true]
    simp only [beq_iff_eq, Span.flip]
    exact or_congr Iff.rfl And.comm
  rw [PairDemand.keeps]
  simp only [hjoins, Bool.decide_eq_true]

theorem isMirrored_reducePair (hmirrored : wiring.IsMirrored)
    (hreduced : catalog.reducePair wiring demand = .ok (links, warnings)) : links.IsMirrored := by
  rw [reducePair_eq_ok hreduced]
  exact Wiring.isMirrored_restrictAll hmirrored _ _

/-! ## All demands -/

/-- Meeting one demand, without the warnings. -/
def meetDemand (catalog : Catalog) (links : Wiring) (demand : PairDemand) :
    Except ResolveError Wiring :=
  Prod.fst <$> catalog.reducePair links demand

/-- Demands that are all met filter the links, in whatever order they are met. -/
theorem filteredFrom_meetDemands {demands : List PairDemand} (hmirrored : wiring.IsMirrored)
    (hmet : demands.foldlM catalog.meetDemand wiring = .ok links) :
    links.IsMirrored ∧ links.FilteredFrom wiring fun span link =>
      demands.all fun demand => demand.keeps span link := by
  induction demands generalizing wiring with
  | nil =>
    cases hmet
    exact ⟨hmirrored, Wiring.FilteredFrom.refl links⟩
  | cons demand others ih =>
    rw [List.foldlM_cons] at hmet
    obtain ⟨middle, hmiddle, hmet⟩ := exists_of_bind_eq_ok hmet
    obtain ⟨⟨_, warnings⟩, hreduced, rfl⟩ := exists_of_map_eq_ok hmiddle
    obtain ⟨hfinal, hfiltered⟩ := ih (isMirrored_reducePair hmirrored hreduced) hmet
    exact ⟨hfinal, (filteredFrom_reducePair hmirrored hreduced).trans hfiltered⟩

/-- What a visible attachment of a device demands: it has to be bound to a device
that stands for a logical device with a resolved requirement. -/
def demand? (catalog : Catalog) (container : ContainerId) (device : DeviceId)
    (attachment : String × AttachmentId) : Option PairDemand := do
  let binding ←
    ((Session.activeBinding catalog container device attachment.1).run Session.fresh).1
  let requirements ← ((Session.requirementsOf catalog
    (catalog.attachment attachment.2).capability).run.run Session.fresh).1.toOption
  let requirement ← requirements.get? binding.logicalDevice
  return ⟨catalog.devicePath device ++ "." ++ attachment.1, device, binding.target, requirement⟩

/-- Every demand on the links of a container, in the order in which they are met. -/
def demands (catalog : Catalog) (container : ContainerId) : List PairDemand :=
  (catalog.visibleDevices container).flatMap fun device =>
    (catalog.deviceAttachments device).entries.flatMap fun attachment =>
      (catalog.demand? container device attachment).toList

/-- Meeting one demand, with notes on what is dropped. -/
def noteDemand (catalog : Catalog) (reduced : ReducedWiring) (demand : PairDemand) :
    Except ResolveError ReducedWiring := do
  let (links, warnings) ← catalog.reducePair reduced.links demand
  return ⟨links, reduced.warnings ++ warnings⟩

theorem links_noteDemands (demands : List PairDemand) (reduced : ReducedWiring) :
    (demands.foldlM catalog.noteDemand reduced).map ReducedWiring.links =
      demands.foldlM catalog.meetDemand reduced.links := by
  induction demands generalizing reduced with
  | nil => rfl
  | cons demand others ih =>
    rw [List.foldlM_cons, List.foldlM_cons, noteDemand, meetDemand]
    cases catalog.reducePair reduced.links demand with
    | error reason => rfl
    | ok met => exact ih ⟨met.1, reduced.warnings ++ met.2⟩

/-- The notes do not matter for what is left. -/
theorem meetDemands_of_noteDemands {demands : List PairDemand} {earlier reduced : ReducedWiring}
    (hnoted : demands.foldlM catalog.noteDemand earlier = .ok reduced) :
    demands.foldlM catalog.meetDemand earlier.links = .ok reduced.links := by
  rw [← links_noteDemands, hnoted]
  rfl

/-- An attachment is reduced by what it demands, unless its requirements fail. -/
theorem reduceBy_cases (container : ContainerId) (device : DeviceId) (reduced : ReducedWiring)
    (attachment : String × AttachmentId) :
    catalog.reduceBy container device reduced attachment =
      (catalog.demand? container device attachment).toList.foldlM catalog.noteDemand reduced ∨
    ∃ reason, catalog.reduceBy container device reduced attachment = .error reason ∧
      reason.IsConnection := by
  have hbinding := (Session.answers_activeBinding container device attachment.1 Session.fresh
    (Session.faithfulWith_fresh catalog)).1
  have hrequirements := (Session.resolves_requirementsOf
    (catalog.attachment attachment.2).capability Session.fresh
    (Session.faithfulWith_fresh catalog)).1
  rw [demand?, hbinding, hrequirements, reduceBy]
  cases catalog.activeBinding container device attachment.1 with
  | none => exact Or.inl rfl
  | some binding =>
    cases hresolved : catalog.requirements (catalog.attachment attachment.2).capability with
    | error reason => exact Or.inr ⟨reason, rfl, failsWith_requirements _ reason hresolved⟩
    | ok resolved =>
      have hbind : ∀ next : Requirements → Except ResolveError ReducedWiring,
          (Prod.fst <$> Except.ok resolved) >>= next = next resolved.1 := fun _ => rfl
      apply Or.inl
      dsimp only
      rw [hbind]
      cases hrequirement : resolved.1.get? binding.logicalDevice with
      | none => simp [hrequirement, Except.toOption]; rfl
      | some requirement => simp [hrequirement, Except.toOption, noteDemand]

/-- The links of a container are reduced by all demands, unless requirements fail. -/
theorem reduceLinks_cases (container : ContainerId) (links : Wiring) :
    catalog.reduceLinks container links = (catalog.demands container).foldlM catalog.noteDemand
      ⟨links, (catalog.absolute container).2⟩ ∨
    ∃ reason, catalog.reduceLinks container links = .error reason ∧ reason.IsConnection := by
  apply foldlM_flatMap_or
  intro reduced device
  apply foldlM_flatMap_or
  intro reduced attachment
  exact reduceBy_cases container device reduced attachment

/-- A reduction expands the absolute wiring and meets all demands, unless some connection
cannot be made. -/
theorem reduced_cases (catalog : Catalog) (container : ContainerId) :
    (∃ expanded, (catalog.absolute container).1.expand = .ok expanded ∧
      catalog.reduced container = (catalog.demands container).foldlM catalog.noteDemand
        ⟨expanded, (catalog.absolute container).2⟩) ∨
    ∃ reason, catalog.reduced container = .error reason ∧ reason.IsConnection := by
  rw [reduced]
  cases hexpand : (catalog.absolute container).1.expand with
  | error error => exact Or.inr ⟨.connection error, rfl, error, rfl⟩
  | ok expanded =>
    rcases reduceLinks_cases container expanded with hmet | hfails
    · exact Or.inl ⟨expanded, rfl, hmet⟩
    · exact Or.inr hfails

/-- A reduction that succeeds expands the absolute wiring and meets all demands. -/
theorem noteDemands_of_reduced {container : ContainerId} {reduced : ReducedWiring}
    (hreduced : catalog.reduced container = .ok reduced) :
    ∃ expanded, (catalog.absolute container).1.expand = .ok expanded ∧
      (catalog.demands container).foldlM catalog.noteDemand
        ⟨expanded, (catalog.absolute container).2⟩ = .ok reduced := by
  rcases reduced_cases catalog container with ⟨expanded, hexpand, hmet⟩ | ⟨reason, hfails, -⟩
  · exact ⟨expanded, hexpand, hmet.symm.trans hreduced⟩
  · rw [hfails] at hreduced
    cases hreduced

/-- A reduced wiring comes from the absolute one by meeting all demands. -/
theorem meetDemands_of_reduced {container : ContainerId} {reduced : ReducedWiring}
    (hreduced : catalog.reduced container = .ok reduced) :
    ∃ expanded, (catalog.absolute container).1.expand = .ok expanded ∧
      (catalog.demands container).foldlM catalog.meetDemand expanded = .ok reduced.links := by
  obtain ⟨expanded, hexpand, hnoted⟩ := noteDemands_of_reduced hreduced
  exact ⟨expanded, hexpand, meetDemands_of_noteDemands hnoted⟩

/-- The reduced links are filtered from the expanded absolute wiring by all demands. -/
theorem filteredFrom_reduced (hlaidOut : WellLaidOut catalog) {container : ContainerId}
    {reduced : ReducedWiring} (hreduced : catalog.reduced container = .ok reduced) :
    ∃ expanded, (catalog.absolute container).1.expand = .ok expanded ∧ expanded.IsMirrored ∧
      reduced.links.IsMirrored ∧
      reduced.links.FilteredFrom expanded fun span link =>
        (catalog.demands container).all fun demand => demand.keeps span link := by
  obtain ⟨expanded, hexpand, hmet⟩ := meetDemands_of_reduced hreduced
  have hmirrored := (isWithin_absolute hlaidOut container).isMirrored.expand hexpand
  obtain ⟨hfinal, hfiltered⟩ := filteredFrom_meetDemands hmirrored hmet
  exact ⟨expanded, hexpand, hmirrored, hfinal, hfiltered⟩

/-- A session reduces to the plain answer, whatever it was asked before. -/
theorem reduced_of_reducedWiring {container : ContainerId} {questions : List Session.Question}
    {reduced : ReducedWiring}
    (hreduced : ((Session.reducedWiring catalog container).run.run
      (Session.afterAsking catalog questions)).1 = .ok reduced) :
    catalog.reduced container = .ok reduced := by
  calc catalog.reduced container
      = ((Session.reducedWiring catalog container).run.run
          (Session.afterAsking catalog questions)).1 :=
        (Session.run_afterAsking (fun _ => Session.resolves_reducedWiring container)
          questions).symm
    _ = .ok reduced := hreduced

/-- A reduction that succeeds keeps exactly the links of the expanded absolute
wiring that every demand on their devices is compatible with.  Both rows of a link
stay in step, and meeting the demands in any other order gives the same links. -/
theorem get_reducedWiring (hbuilt : Built catalog) {container : ContainerId}
    {questions : List Session.Question} {reduced : ReducedWiring}
    (hreduced : ((Session.reducedWiring catalog container).run.run
      (Session.afterAsking catalog questions)).1 = .ok reduced) :
    ∃ expanded,
      ((Session.absoluteWiring catalog container).run Session.fresh).1.expand = .ok expanded ∧
      (∀ span, reduced.links.get span = (expanded.get span).filter fun link =>
        (catalog.demands container).all fun demand =>
          !demand.joins span || link.compatible demand.requirement) ∧
      (∀ span, reduced.links.get span.flip =
        (reduced.links.get span).map Connection.farCopy) ∧
      ∀ order : List PairDemand, order.Perm (catalog.demands container) → ∀ links : Wiring,
        order.foldlM catalog.meetDemand expanded = .ok links →
          ∀ span, links.get span = reduced.links.get span := by
  have habsolute := (Session.answers_absoluteWiring container Session.fresh
    (Session.faithfulWith_fresh catalog)).1
  obtain ⟨expanded, hexpand, hmirrored, hfinal, hfiltered⟩ :=
    filteredFrom_reduced hbuilt.wellLaidOut (reduced_of_reducedWiring hreduced)
  rw [habsolute]
  refine ⟨expanded, hexpand, hfiltered, hfinal.mirrored, ?_⟩
  intro order hperm links hmet span
  calc links.get span
      = (expanded.get span).filter fun link => order.all fun demand => demand.keeps span link :=
        (filteredFrom_meetDemands hmirrored hmet).2 span
    _ = (expanded.get span).filter fun link =>
          (catalog.demands container).all fun demand => demand.keeps span link :=
        List.filter_congr fun link _ => hperm.all_eq
    _ = reduced.links.get span := (hfiltered span).symm

/-- On the bench the reduced links are the absolute ones that every demand lets pass. -/
theorem get_reducedWiring_pingLab :
    ∃ reduced expanded,
      ((Session.reducedWiring pingLab ⟨0⟩).run.run (Session.afterAsking pingLab [.hierarchy])).1 =
        .ok reduced ∧
      ((Session.absoluteWiring pingLab ⟨0⟩).run Session.fresh).1.expand = .ok expanded ∧
      ∀ span, reduced.links.get span = (expanded.get span).filter fun link =>
        (pingLab.demands ⟨0⟩).all fun demand =>
          !demand.joins span || link.compatible demand.requirement := by
  have hok : ((Session.reducedWiring pingLab ⟨0⟩).run.run
      (Session.afterAsking pingLab [.hierarchy])).1.isOk = true := by decide +kernel
  obtain ⟨reduced, hreduced⟩ := exists_of_isOk hok
  obtain ⟨expanded, hexpand, hfiltered, -⟩ := get_reducedWiring built_pingLab hreduced
  exact ⟨reduced, expanded, hreduced, hexpand, hfiltered⟩

end Catalog

end LabMatch
