import LabMatch.Proofs.Capability.Choice
import LabMatch.Proofs.Capability.Requirement
import LabMatch.Proofs.Session.Labels

/-!
# Dispatch along the ancestry

The choice of a variant is made on one capability type: the nearest one of the ancestry
that has a variant with a condition within what is available.  Its candidates are
compared, and an ambiguity among them is final; types further up are only asked where
there is no candidate at all.

Nothing is noted in a fresh session, and every type of the ancestry is asked once.  So no
note can answer for another connection, whatever the tags are, and the answer only
depends on what the available connection offers.
-/

namespace LabMatch

/-- The candidate stands for the variant, with any of its conditions that hold. -/
def Variant.Competes (logicalDevice : String) (available : Connection) (variant : Variant)
    (candidate : String × Connection) : Prop :=
  candidate.1 = variant.label ∧
    Connection.anyOf (variant.holding logicalDevice available) = .ok candidate.2

/-- Some condition of the variant for the logical device lies within what is available. -/
def Variant.applies (logicalDevice : String) (available : Connection) (variant : Variant) : Bool :=
  variant.conditions.any fun condition =>
    condition.logicalDevice == logicalDevice && condition.connection.within available

/-- A variant applies exactly if some of its conditions hold. -/
theorem Variant.holding_eq_nil_iff {logicalDevice : String} {available : Connection}
    {variant : Variant} :
    variant.holding logicalDevice available = [] ↔
      variant.applies logicalDevice available = false := by
  rw [holding, List.map_eq_nil_iff, List.filter_eq_nil_iff, applies, List.any_eq_false]

/-- The candidates are the variants that apply, where no condition is anchored. -/
theorem exists_applicableVariants_eq_ok {logicalDevice : String} {available : Connection}
    {variants : List Variant}
    (hvariants : ∀ variant ∈ variants, ∀ condition ∈ variant.conditions,
      condition.connection.anchor = none) :
    ∃ candidates, applicableVariants logicalDevice available variants = .ok candidates ∧
      List.Forall₂ (Variant.Competes logicalDevice available)
        (variants.filter (Variant.applies logicalDevice available)) candidates := by
  induction variants with
  | nil => exact ⟨[], rfl, .nil⟩
  | cons variant others ih =>
    obtain ⟨hvariant, hothers⟩ := List.forall_mem_cons.mp hvariants
    obtain ⟨candidates, hcandidates, hcompete⟩ := ih hothers
    rw [applicableVariants]
    split
    · rename_i hnone
      rw [List.filter_cons_of_neg (by simp [Variant.holding_eq_nil_iff.mp hnone])]
      exact ⟨candidates, hcandidates, hcompete⟩
    · rename_i hsome
      have happlies : variant.applies logicalDevice available = true := by
        rw [← Bool.not_eq_false, ← Variant.holding_eq_nil_iff]
        exact hsome
      have hanchors : ∀ connection ∈ variant.holding logicalDevice available,
          connection.anchor = none := by
        intro connection hconnection
        obtain ⟨condition, hcondition, rfl⟩ := List.mem_map.mp hconnection
        exact hvariant condition (List.mem_of_mem_filter hcondition)
      obtain ⟨matched, hmatched, -⟩ := Connection.anyOf_eq_ok hsome hanchors
      refine ⟨(variant.label, matched) :: candidates, ?_, ?_⟩
      · rw [hmatched, hcandidates]
        rfl
      · rw [List.filter_cons_of_pos happlies]
        exact .cons ⟨rfl, hmatched⟩ hcompete

namespace Catalog

variable {catalog : Catalog} {method logicalDevice : String} {available : Connection}
  {capability type : CapabilityId}

def applicable (catalog : Catalog) (method logicalDevice : String) (available : Connection)
    (type : CapabilityId) : List Variant :=
  ((catalog.capability type).variantsOf method).filter (Variant.applies logicalDevice available)

theorem UnanchoredConditions.exists_applicableVariants_eq_ok
    (hconditions : catalog.UnanchoredConditions) (method logicalDevice : String)
    (available : Connection) (type : CapabilityId) :
    ∃ candidates,
      applicableVariants logicalDevice available ((catalog.capability type).variantsOf method) =
        .ok candidates ∧
      List.Forall₂ (Variant.Competes logicalDevice available)
        (catalog.applicable method logicalDevice available type) candidates := by
  apply LabMatch.exists_applicableVariants_eq_ok
  intro variant hvariant condition hcondition
  rw [Capability.variantsOf] at hvariant
  split at hvariant
  · rename_i found hfound
    exact hconditions.anchor_of_method (List.mem_of_find?_eq_some hfound) hvariant hcondition
  · cases hvariant

end Catalog

namespace Session

variable {catalog : Catalog} {method logicalDevice : String} {available : Connection}

/-- Taking a note of an answer does not change it. -/
theorem fst_run_noted {Failure Answer : Type} (computation : Resolving Failure Answer)
    (note : Answer → StateM Session Unit) (session : Session) :
    ((do
      let answer ← computation
      note answer
      return answer : Resolving Failure Answer).run.run session).1 =
      (computation.run.run session).1 := by
  rw [run_bind]
  obtain ⟨outcome, final⟩ := computation.run.run session
  cases outcome <;> rfl

/-- As long as no label is noted, every connection finds its own one. -/
theorem run_variantFor_of_unlabelled (capability : CapabilityId) {session : Session}
    (hunlabelled : ∀ id, (session.capabilityNotes id).variants = []) :
    ((variantFor catalog capability method logicalDevice available).run.run session).1 =
      catalog.variantLabel method logicalDevice available capability := by
  induction capability using catalog.parent_induction generalizing session with
  | step capability ih =>
    let visited := ((visitCapability capability).run session).2
    have hvisited : ∀ id, (visited.capabilityNotes id).variants = [] := by
      intro id
      rw [capabilityNotes_visitCapability]
      exact hunlabelled id
    have hsettled : ((settledVariant catalog capability method logicalDevice available).run.run
        visited).1 = catalog.variantLabel method logicalDevice available capability := by
      rw [settledVariant, Catalog.variantLabel_eq]
      cases (applicableVariants logicalDevice available
          ((catalog.capability capability).variantsOf method)).mapError
            ResolveError.connection with
      | error reason => rfl
      | ok candidates =>
        rw [run_ok_bind]
        change _ = catalog.settleVariant method logicalDevice capability _ candidates
        rw [Catalog.settleVariant]
        cases Choice.mostSpecific candidates with
        | one label matched => rfl
        | ambiguous labels => rfl
        | nothing =>
          cases hparent : catalog.parent? capability with
          | none => rfl
          | some parent => exact ih parent hparent hvisited
    rw [variantFor_eq, run_visitCapability_bind, hunlabelled, List.find?_nil]
    dsimp only
    rw [fst_run_noted, hsettled]

end Session

end LabMatch
