import LabMatch.Proofs.Connection.Offered
import LabMatch.Proofs.Connection.Signature
import LabMatch.Proofs.Session.Notes

/-!
# Labels of variants

A label is noted under the signature of the connection that it was chosen for.
Every connection with this signature finds the note, so the note is only right
when signatures tell connections apart.  For legible connections they do, since
the choice of a variant only depends on what is offered.
-/

namespace LabMatch

/-- The variants that apply only depend on what is offered. -/
theorem applicableVariants_congr {logicalDevice : String} {available other : Connection}
    (hoffered : available.offered = other.offered) (variants : List Variant) :
    applicableVariants logicalDevice available variants =
      applicableVariants logicalDevice other variants := by
  have hholding : ∀ variant : Variant,
      variant.holding logicalDevice available = variant.holding logicalDevice other := by
    intro variant
    simp only [Variant.holding, Connection.within_congr rfl hoffered]
  induction variants with
  | nil => rfl
  | cons variant others ih => rw [applicableVariants, applicableVariants, hholding, ih]

namespace Catalog

variable (catalog : Catalog)

/-- What a capability type makes of the variants that apply to it. -/
def settleVariant (method logicalDevice : String) (capability : CapabilityId)
    (inherited : Option (Except ResolveError String))
    (candidates : List (String × Connection)) : Except ResolveError String :=
  let unclear :=
    ResolveError.unclearVariant (catalog.capability capability).name method logicalDevice
  match Choice.mostSpecific candidates with
  | .one label _ => .ok label
  | .ambiguous labels => .error (unclear labels)
  | .nothing => inherited.getD (.error (unclear []))

theorem variantLabel_eq (method logicalDevice : String) (available : Connection)
    (capability : CapabilityId) :
    catalog.variantLabel method logicalDevice available capability =
      (applicableVariants logicalDevice available
        ((catalog.capability capability).variantsOf method)).mapError ResolveError.connection >>=
        catalog.settleVariant method logicalDevice capability
          ((catalog.parent? capability).map
            (catalog.variantLabel method logicalDevice available)) := by
  rw [variantLabel]
  apply bind_congr
  intro candidates
  rw [settleVariant]
  cases Choice.mostSpecific candidates with
  | nothing =>
    dsimp only
    split <;> simp [*]
  | one label matched => rfl
  | ambiguous labels => rfl

/-- The choice of a variant only depends on what the available connection offers. -/
theorem variantLabel_congr {available other : Connection}
    (hoffered : available.offered = other.offered)
    (method logicalDevice : String) (capability : CapabilityId) :
    catalog.variantLabel method logicalDevice available capability =
      catalog.variantLabel method logicalDevice other capability := by
  induction capability using catalog.parent_induction with
  | step capability ih =>
    have hinherited : (catalog.parent? capability).map
        (catalog.variantLabel method logicalDevice available) =
          (catalog.parent? capability).map
            (catalog.variantLabel method logicalDevice other) := by
      apply Option.map_congr
      intro parent hparent
      exact ih parent hparent
    rw [variantLabel_eq, variantLabel_eq, applicableVariants_congr hoffered, hinherited]

end Catalog

namespace Session

variable {catalog : Catalog} {method logicalDevice : String} {available : Connection}

/-- What is noted is right for every legible connection that finds it. -/
structure Sound (catalog : Catalog) (session : Session) : Prop extends
    Faithful catalog session where
  labels : ∀ id noted, noted ∈ (session.capabilityNotes id).variants →
    ∀ available : Connection, available.Legible → available.signature = noted.1.available →
      catalog.variantLabel noted.1.method noted.1.logicalDevice available id = .ok noted.2

theorem sound_fresh (catalog : Catalog) : Sound catalog fresh where
  toFaithful := faithful_fresh catalog
  labels _ _ hnoted := by cases hnoted

theorem respectsNotes_sound (catalog : Catalog) : RespectsNotes (Sound catalog) := by
  intro session other hcontainers hcapabilities hsound
  constructor
  · exact respectsNotes_faithful catalog session other hcontainers hcapabilities hsound.toFaithful
  · intro id noted hnoted
    rw [hcapabilities] at hnoted
    exact hsound.labels id noted hnoted

/-- What leaves every possible collection of labels as it is keeps them sound. -/
theorem Answers.sound {Answer : Type} {computation : StateM Session Answer} {answer : Answer}
    (hcomputation : ∀ labels, Answers (FaithfulWith catalog labels) computation answer) :
    Answers (Sound catalog) computation answer := by
  intro session hsound
  obtain ⟨hanswer, hfinal⟩ := hcomputation (fun id => (session.capabilityNotes id).variants)
    session ⟨hsound.toFaithful, fun _ => rfl⟩
  refine ⟨hanswer, hfinal.toFaithful, fun id noted hnoted => ?_⟩
  rw [hfinal.variants] at hnoted
  exact hsound.labels id noted hnoted

/-- Whatever the answer is, the property still holds afterwards. -/
def Keeps {Answer : Type} (holds : Session → Prop) (computation : StateM Session Answer) : Prop :=
  ∀ session, holds session → holds (computation.run session).2

theorem Keeps.bind {Failure First Second : Type} {holds : Session → Prop}
    {first : Resolving Failure First} {next : First → Resolving Failure Second}
    (hfirst : Keeps holds first.run) (hnext : ∀ answer, Keeps holds (next answer).run) :
    Keeps holds (first >>= next).run := by
  intro session hholds
  have hmiddle := hfirst session hholds
  rw [run_bind]
  generalize first.run.run session = result at hmiddle ⊢
  obtain ⟨outcome, after⟩ := result
  cases outcome with
  | error reason => exact hmiddle
  | ok answer => exact hnext answer after hmiddle

def settledVariant (catalog : Catalog) (capability : CapabilityId)
    (method logicalDevice : String) (available : Connection) : Resolving ResolveError String := do
  let unclear :=
    ResolveError.unclearVariant (catalog.capability capability).name method logicalDevice
  let candidates ← ((applicableVariants logicalDevice available
    ((catalog.capability capability).variantsOf method)).mapError ResolveError.connection :
      Except _ _)
  match Choice.mostSpecific candidates with
  | .one label _ => pure label
  | .ambiguous labels => throw (unclear labels)
  | .nothing =>
    match catalog.parent? capability with
    | some parent => variantFor catalog parent method logicalDevice available
    | none => throw (unclear [])

theorem variantFor_eq (capability : CapabilityId) :
    variantFor catalog capability method logicalDevice available = (do
      let question : VariantQuestion := ⟨method, logicalDevice, available.signature⟩
      let notes ← visitCapability capability
      match notes.variants.find? fun noted => noted.1 == question with
      | some noted => return noted.2
      | none =>
        let label ← settledVariant catalog capability method logicalDevice available
        noteCapability capability fun notes =>
          { notes with variants := notes.variants ++ [(question, label)] }
        return label) := by
  rw [variantFor]
  apply bind_congr
  intro notes
  dsimp only
  rw [settledVariant, Catalog.parent?, Catalog.parents]
  cases notes.variants.find? fun noted => noted.1 == _ with
  | some noted => rfl
  | none =>
    dsimp only
    rw [bind_assoc]
    apply bind_congr
    intro candidates
    cases Choice.mostSpecific candidates with
    | one label matched => rfl
    | ambiguous labels => rfl
    | nothing =>
      cases (catalog.capability capability).parents.head? with
      | none => rfl
      | some parent => by_cases hlt : parent.index < capability.index <;> simp [hlt]

theorem resolves_settledVariant {capability : CapabilityId}
    (hparents : ∀ parent, catalog.parent? capability = some parent →
      Resolves (Sound catalog) (variantFor catalog parent method logicalDevice available)
        (catalog.variantLabel method logicalDevice available parent)) :
    Resolves (Sound catalog) (settledVariant catalog capability method logicalDevice available)
      (catalog.variantLabel method logicalDevice available capability) := by
  rw [settledVariant, Catalog.variantLabel_eq]
  apply Resolves.bindExcept
  intro candidates _
  rw [Catalog.settleVariant]
  cases Choice.mostSpecific candidates with
  | one label matched => exact Resolves.pure label
  | ambiguous labels => exact Resolves.throw _
  | nothing =>
    cases hparent : catalog.parent? capability with
    | none => exact Resolves.throw _
    | some parent => exact hparents parent hparent

/-- Noting a label leaves the wirings and requirements as they are noted. -/
theorem keeps_noteLabel (capability : CapabilityId) (label : VariantQuestion × String) :
    Keeps (Faithful catalog) (noteCapability capability fun notes =>
      { notes with variants := notes.variants ++ [label] }) := by
  intro session hfaithful
  have hnotes := fun other => @capabilityNotes_noteCapability session capability other
    fun notes => { notes with variants := notes.variants ++ [label] }
  refine hfaithful.of_same (fun _ => rfl) (fun other => ?_) (fun other => ?_)
  · rw [hnotes]
    by_cases hsame : other = capability <;> simp [hsame]
  · rw [hnotes]
    by_cases hsame : other = capability <;> simp [hsame]

/-- Noting a label that is right keeps what is noted right. -/
theorem answers_noteLabel {capability : CapabilityId} {label : String}
    (hlegible : available.Legible)
    (hplain : catalog.variantLabel method logicalDevice available capability = .ok label) :
    Answers (Sound catalog) (noteCapability capability fun notes => { notes with
      variants := notes.variants ++ [(⟨method, logicalDevice, available.signature⟩, label)] })
      () := by
  intro session hsound
  have hnotes := fun other => @capabilityNotes_noteCapability session capability other
    fun notes => { notes with
      variants := notes.variants ++ [(⟨method, logicalDevice, available.signature⟩, label)] }
  refine ⟨rfl, keeps_noteLabel capability _ session hsound.toFaithful,
    fun other noted hnoted => ?_⟩
  rw [hnotes] at hnoted
  by_cases hsame : other = capability
  · subst hsame
    rw [if_pos rfl] at hnoted
    cases List.mem_append.mp hnoted with
    | inl hearlier => exact hsound.labels other noted hearlier
    | inr hnew =>
      obtain rfl := List.mem_singleton.mp hnew
      intro found hfound hsignature
      have halternatives := Connection.alternatives_eq_of_signature_eq hfound.separable
        hlegible.separable hsignature
      rw [catalog.variantLabel_congr (congrArg offeredBy halternatives), hplain]
  · rw [if_neg hsame] at hnoted
    exact hsound.labels other noted hnoted

/-- For a legible connection, the label that is noted is the one that the variants give. -/
theorem resolves_variantFor (hlegible : available.Legible) (capability : CapabilityId) :
    Resolves (Sound catalog) (variantFor catalog capability method logicalDevice available)
      (catalog.variantLabel method logicalDevice available capability) := by
  induction capability using catalog.parent_induction with
  | step capability ih =>
    rw [variantFor_eq]
    apply Resolves.visitCapability (respectsNotes_sound catalog)
    intro session hsound
    cases hfound : (session.capabilityNotes capability).variants.find? fun noted =>
        noted.1 == ⟨method, logicalDevice, available.signature⟩ with
    | some noted =>
      have hquestion : noted.1 = ⟨method, logicalDevice, available.signature⟩ := by
        simpa using List.find?_some hfound
      have hlabel := hsound.labels capability noted (List.mem_of_find?_eq_some hfound) available
        hlegible (by rw [hquestion])
      rw [hquestion] at hlabel
      rw [hlabel]
      exact Resolves.pure noted.2
    | none =>
      rw [← bind_pure (catalog.variantLabel method logicalDevice available capability)]
      apply (resolves_settledVariant ih).bind
      intro label hplain
      exact Resolves.bindState (answers_noteLabel hlegible hplain) (Resolves.pure label)

/-! ## Illegible connections -/

/-- Choosing a variant never touches what is noted about wirings and requirements. -/
theorem keeps_variantFor (capability : CapabilityId) :
    Keeps (Faithful catalog)
      (variantFor catalog capability method logicalDevice available).run := by
  induction capability using catalog.parent_induction with
  | step capability ih =>
    have hsettled : Keeps (Faithful catalog)
        (settledVariant catalog capability method logicalDevice available).run := by
      rw [settledVariant]
      apply Keeps.bind
      · exact fun _ hfaithful => hfaithful
      intro candidates
      cases Choice.mostSpecific candidates with
      | one label matched => exact fun _ hfaithful => hfaithful
      | ambiguous labels => exact fun _ hfaithful => hfaithful
      | nothing =>
        cases hparent : catalog.parent? capability with
        | none => exact fun _ hfaithful => hfaithful
        | some parent => exact ih parent hparent
    rw [variantFor_eq]
    apply Keeps.bind
    · intro session hfaithful
      exact respectsNotes_faithful catalog session _ (fun _ => rfl)
        (capabilityNotes_visitCapability capability) hfaithful
    intro notes
    cases notes.variants.find? fun noted =>
        noted.1 == ⟨method, logicalDevice, available.signature⟩ with
    | some noted => exact fun _ hfaithful => hfaithful
    | none =>
      apply Keeps.bind hsettled
      intro label
      apply Keeps.bind
      · exact keeps_noteLabel capability _
      · exact fun _ _ hfaithful => hfaithful

end Session

end LabMatch
