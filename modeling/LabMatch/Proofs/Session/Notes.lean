import LabMatch.Proofs.Session.Plain

/-!
# Faithful notes

The notes of a session are faithful when everything noted is the plain answer.
`Answers` says of a computation that it gives one and the same answer on every
session where some property of the notes holds, and that the property still holds
afterwards.  It is closed under sequencing, so every resolver is followed step by
step, and what a failed step leaves behind is covered like everything else.

The labels noted for variants are kept apart: they are only trustworthy for
legible connections, and no computation but the choice of a variant touches them.
-/

namespace LabMatch.Session

/-- What is noted about wirings and requirements is the plain answer.  Hints are noted together
with requirements, and those of a capability type after those of its parent. -/
structure Faithful (catalog : Catalog) (session : Session) : Prop where
  absolute : ∀ id noted, (session.containerNotes id).absolute = some noted →
    noted = catalog.absolute id
  reduced : ∀ id noted, (session.containerNotes id).reduced = some noted →
    catalog.reduced id = .ok noted
  requirements : ∀ id noted, (session.capabilityNotes id).requirements = some noted →
    catalog.requirements id = .ok (noted, (session.capabilityNotes id).hints)
  hints : ∀ id, (session.capabilityNotes id).requirements = none →
    (session.capabilityNotes id).hints = []
  inherited : ∀ id parent, (session.capabilityNotes id).requirements.isSome →
    catalog.parent? id = some parent → (session.capabilityNotes parent).requirements.isSome

abbrev Labels := CapabilityId → List (VariantQuestion × String)

/-- The notes are faithful and exactly the given labels are noted. -/
structure FaithfulWith (catalog : Catalog) (labels : Labels) (session : Session) : Prop
    extends Faithful catalog session where
  variants : ∀ id, (session.capabilityNotes id).variants = labels id

/-- The property only depends on the notes, not on which entities have any. -/
def RespectsNotes (holds : Session → Prop) : Prop :=
  ∀ session other : Session, (∀ id, other.containerNotes id = session.containerNotes id) →
    (∀ id, other.capabilityNotes id = session.capabilityNotes id) → holds session → holds other

/-- On every session with the property the computation gives the answer and keeps
the property. -/
def Answers {Answer : Type} (holds : Session → Prop) (computation : StateM Session Answer)
    (answer : Answer) : Prop :=
  ∀ session, holds session →
    (computation.run session).1 = answer ∧ holds (computation.run session).2

/-- `Answers`, for a computation that may fail. -/
def Resolves {Failure Answer : Type} (holds : Session → Prop)
    (computation : Resolving Failure Answer) (outcome : Except Failure Answer) : Prop :=
  Answers holds computation.run outcome

/-! ## What a step does to the notes -/

section Notes

variable {session : Session}

@[simp]
theorem containerNotes_insert (id other : ContainerId) (notes : ContainerNotes) :
    containerNotes { session with containers := session.containers.insert id notes } other =
      if other = id then notes else session.containerNotes other := by
  simp only [containerNotes, SortedMap.get?_insert]
  split <;> rfl

@[simp]
theorem capabilityNotes_insert (id other : CapabilityId) (notes : CapabilityNotes) :
    capabilityNotes { session with capabilities := session.capabilities.insert id notes } other =
      if other = id then notes else session.capabilityNotes other := by
  simp only [capabilityNotes, SortedMap.get?_insert]
  split <;> rfl

@[simp]
theorem containerNotes_visitContainer (id other : ContainerId) :
    ((visitContainer id).run session).2.containerNotes other = session.containerNotes other := by
  change containerNotes { session with containers := _ } other = _
  rw [containerNotes_insert]
  split <;> simp [*]

@[simp]
theorem capabilityNotes_visitCapability (id other : CapabilityId) :
    ((visitCapability id).run session).2.capabilityNotes other =
      session.capabilityNotes other := by
  change capabilityNotes { session with capabilities := _ } other = _
  rw [capabilityNotes_insert]
  split <;> simp [*]

theorem containerNotes_noteContainer (id other : ContainerId)
    (update : ContainerNotes → ContainerNotes) :
    ((noteContainer id update).run session).2.containerNotes other =
      if other = id then update (session.containerNotes id) else session.containerNotes other :=
  containerNotes_insert id other _

theorem capabilityNotes_noteCapability (id other : CapabilityId)
    (update : CapabilityNotes → CapabilityNotes) :
    ((noteCapability id update).run session).2.capabilityNotes other =
      if other = id then update (session.capabilityNotes id)
      else session.capabilityNotes other :=
  capabilityNotes_insert id other _

theorem faithful_fresh (catalog : Catalog) : Faithful catalog fresh where
  absolute _ _ hnoted := by cases hnoted
  reduced _ _ hnoted := by cases hnoted
  requirements _ _ hnoted := by cases hnoted
  hints _ _ := rfl
  inherited _ _ hnoted := by cases hnoted

theorem faithfulWith_fresh (catalog : Catalog) : FaithfulWith catalog (fun _ => []) fresh where
  toFaithful := faithful_fresh catalog
  variants _ := rfl

end Notes

/-- Faithfulness does not depend on the labels that are noted. -/
theorem Faithful.of_same {catalog : Catalog} {session other : Session}
    (hfaithful : Faithful catalog session)
    (hcontainers : ∀ id, other.containerNotes id = session.containerNotes id)
    (hrequirements : ∀ id, (other.capabilityNotes id).requirements =
      (session.capabilityNotes id).requirements)
    (hhints : ∀ id, (other.capabilityNotes id).hints = (session.capabilityNotes id).hints) :
    Faithful catalog other := by
  constructor
  · intro id noted hnoted
    exact hfaithful.absolute id noted (hcontainers id ▸ hnoted)
  · intro id noted hnoted
    exact hfaithful.reduced id noted (hcontainers id ▸ hnoted)
  · intro id noted hnoted
    rw [hrequirements] at hnoted
    rw [hhints]
    exact hfaithful.requirements id noted hnoted
  · intro id hnoted
    rw [hrequirements] at hnoted
    rw [hhints]
    exact hfaithful.hints id hnoted
  · intro id parent hnoted hparent
    rw [hrequirements] at hnoted ⊢
    exact hfaithful.inherited id parent hnoted hparent

/-- Looking at an entity does not make the notes wrong. -/
theorem respectsNotes_faithful (catalog : Catalog) : RespectsNotes (Faithful catalog) := by
  intro session other hcontainers hcapabilities hfaithful
  exact hfaithful.of_same hcontainers
    (fun id => congrArg CapabilityNotes.requirements (hcapabilities id))
    (fun id => congrArg CapabilityNotes.hints (hcapabilities id))

theorem respectsNotes_faithfulWith (catalog : Catalog) (labels : Labels) :
    RespectsNotes (FaithfulWith catalog labels) := by
  intro session other hcontainers hcapabilities hfaithful
  constructor
  · exact respectsNotes_faithful catalog session other hcontainers hcapabilities
      hfaithful.toFaithful
  · intro id
    rw [hcapabilities]
    exact hfaithful.variants id

/-! ## Running a computation that may fail -/

theorem run_ok_bind {Failure First Second : Type} (answer : First)
    (next : First → Resolving Failure Second) (session : Session) :
    ((liftM (Except.ok answer : Except Failure First) : Resolving Failure First) >>= next).run.run
      session = (next answer).run.run session :=
  rfl

theorem run_visitCapability_bind {Failure Answer : Type} (id : CapabilityId)
    (next : CapabilityNotes → Resolving Failure Answer) (session : Session) :
    ((liftM (visitCapability id) : Resolving Failure CapabilityNotes) >>= next).run.run session =
      (next (session.capabilityNotes id)).run.run ((visitCapability id).run session).2 :=
  rfl

/-- A second computation runs on what the first one leaves behind, unless that fails. -/
theorem run_bind {Failure First Second : Type} (first : Resolving Failure First)
    (next : First → Resolving Failure Second) (session : Session) :
    (first >>= next).run.run session =
      match first.run.run session with
      | (.error reason, after) => (.error reason, after)
      | (.ok answer, after) => (next answer).run.run after := by
  change (match (first.run.run session).1 with
    | .ok answer => (next answer).run
    | .error reason => (pure (.error reason) : StateM Session (Except Failure Second))).run
      (first.run.run session).2 = _
  obtain ⟨outcome, after⟩ := first.run.run session
  cases outcome <;> rfl

/-! ## Sequencing -/

variable {holds : Session → Prop}

namespace Answers

variable {First Second : Type} {first : StateM Session First}
  {next : First → StateM Session Second} {answer : First} {answer' : Second}

theorem pure (answer : First) : Answers holds (Pure.pure answer) answer :=
  fun _ hholds => ⟨rfl, hholds⟩

theorem bind (hfirst : Answers holds first answer) (hnext : Answers holds (next answer) answer') :
    Answers holds (first >>= next) answer' := by
  intro session hholds
  obtain ⟨hanswer, hmiddle⟩ := hfirst session hholds
  have hfinal := hnext _ hmiddle
  rw [← hanswer] at hfinal
  exact hfinal

theorem map (convert : First → Second) (hfirst : Answers holds first answer) :
    Answers holds (convert <$> first) (convert answer) := by
  intro session hholds
  obtain ⟨hanswer, hfinal⟩ := hfirst session hholds
  exact ⟨congrArg convert hanswer, hfinal⟩

/-- A computation that changes no notes keeps what only depends on them. -/
theorem of_notes_eq (hrespects : RespectsNotes holds)
    (hcontainers : ∀ (session : Session) id,
      (first.run session).2.containerNotes id = session.containerNotes id)
    (hcapabilities : ∀ (session : Session) id,
      (first.run session).2.capabilityNotes id = session.capabilityNotes id)
    (hanswer : ∀ session, (first.run session).1 = answer) : Answers holds first answer := by
  intro session hholds
  exact ⟨hanswer session,
    hrespects session _ (hcontainers session) (hcapabilities session) hholds⟩

/-- Looking at a container reads its notes. -/
theorem visitContainer {id : ContainerId} {next : ContainerNotes → StateM Session Second}
    (hrespects : RespectsNotes holds)
    (hnext : ∀ session, holds session → Answers holds (next (session.containerNotes id)) answer') :
    Answers holds (Session.visitContainer id >>= next) answer' := by
  intro session hholds
  apply hnext session hholds
  exact hrespects session ((Session.visitContainer id).run session).2
    (containerNotes_visitContainer id) (fun _ => rfl) hholds

/-- Looking at a capability type reads its notes. -/
theorem visitCapability {id : CapabilityId} {next : CapabilityNotes → StateM Session Second}
    (hrespects : RespectsNotes holds)
    (hnext : ∀ session, holds session → Answers holds (next (session.capabilityNotes id)) answer') :
    Answers holds (Session.visitCapability id >>= next) answer' := by
  intro session hholds
  apply hnext session hholds
  exact hrespects session ((Session.visitCapability id).run session).2
    (fun _ => rfl) (capabilityNotes_visitCapability id) hholds

/-- Steps repeated over a list give what the plain steps give. -/
theorem foldlM {Item : Type} {step : First → Item → StateM Session First}
    {plain : First → Item → First}
    (hstep : ∀ gathered item, Answers holds (step gathered item) (plain gathered item))
    (items : List Item) (gathered : First) :
    Answers holds (items.foldlM step gathered) (items.foldl plain gathered) := by
  induction items generalizing gathered with
  | nil => exact pure gathered
  | cons item others ih =>
    rw [List.foldlM_cons]
    exact (hstep gathered item).bind (ih _)

end Answers

namespace Resolves

variable {Failure First Second : Type} {first : Resolving Failure First}
  {next : First → Resolving Failure Second} {outcome : Except Failure First}

theorem pure (answer : First) :
    Resolves holds (Pure.pure answer : Resolving Failure First) (.ok answer) :=
  Answers.pure _

theorem throw (reason : Failure) :
    Resolves holds (MonadExcept.throw reason : Resolving Failure First) (.error reason) :=
  Answers.pure _

theorem liftExcept (outcome : Except Failure First) :
    Resolves holds (liftM outcome : Resolving Failure First) outcome :=
  Answers.pure _

theorem liftState {computation : StateM Session First} {answer : First}
    (hcomputation : Answers holds computation answer) :
    Resolves holds (liftM computation : Resolving Failure First) (.ok answer) :=
  hcomputation.map Except.ok

theorem bind {following : First → Except Failure Second} (hfirst : Resolves holds first outcome)
    (hnext : ∀ answer, outcome = .ok answer → Resolves holds (next answer) (following answer)) :
    Resolves holds (first >>= next) (outcome >>= following) := by
  rw [Resolves, ExceptT.run_bind]
  cases outcome with
  | error reason => exact Answers.bind hfirst (Answers.pure _)
  | ok answer => exact Answers.bind hfirst (hnext answer rfl)

theorem bindExcept {following : First → Except Failure Second}
    (hnext : ∀ answer, outcome = .ok answer → Resolves holds (next answer) (following answer)) :
    Resolves holds (liftM outcome >>= next) (outcome >>= following) :=
  bind (liftExcept outcome) hnext

theorem bindState {computation : StateM Session First} {answer : First}
    {outcome : Except Failure Second} (hcomputation : Answers holds computation answer)
    (hnext : Resolves holds (next answer) outcome) :
    Resolves holds (liftM computation >>= next) outcome := by
  have hbound : Resolves holds (liftM computation >>= next)
      ((.ok answer : Except Failure First) >>= fun _ => outcome) := by
    apply bind (liftState hcomputation)
    intro _ hanswer
    cases hanswer
    exact hnext
  exact hbound

theorem visitContainer {id : ContainerId} {next : ContainerNotes → Resolving Failure Second}
    {outcome : Except Failure Second} (hrespects : RespectsNotes holds)
    (hnext : ∀ session, holds session →
      Resolves holds (next (session.containerNotes id)) outcome) :
    Resolves holds (liftM (Session.visitContainer id) >>= next) outcome := by
  have hvisited : Answers holds (Session.visitContainer id >>= fun notes => (next notes).run)
      outcome := Answers.visitContainer hrespects hnext
  exact hvisited

theorem visitCapability {id : CapabilityId} {next : CapabilityNotes → Resolving Failure Second}
    {outcome : Except Failure Second} (hrespects : RespectsNotes holds)
    (hnext : ∀ session, holds session →
      Resolves holds (next (session.capabilityNotes id)) outcome) :
    Resolves holds (liftM (Session.visitCapability id) >>= next) outcome := by
  have hvisited : Answers holds (Session.visitCapability id >>= fun notes => (next notes).run)
      outcome := Answers.visitCapability hrespects hnext
  exact hvisited

/-- Steps repeated over a list give what the plain steps give. -/
theorem foldlM {Item : Type} {step : First → Item → Resolving Failure First}
    {plain : First → Item → Except Failure First}
    (hstep : ∀ gathered item, Resolves holds (step gathered item) (plain gathered item))
    (items : List Item) (gathered : First) :
    Resolves holds (items.foldlM step gathered) (items.foldlM plain gathered) := by
  induction items generalizing gathered with
  | nil => exact pure gathered
  | cons item others ih =>
    rw [List.foldlM_cons, List.foldlM_cons]
    exact bind (hstep gathered item) fun answer _ => ih answer

/-- A list is traversed as by the plain steps. -/
theorem mapM {Item : Type} {step : Item → Resolving Failure First}
    {plain : Item → Except Failure First}
    (hstep : ∀ item, Resolves holds (step item) (plain item)) (items : List Item) :
    Resolves holds (items.mapM step) (items.mapM plain) := by
  induction items with
  | nil => exact pure []
  | cons item others ih =>
    rw [List.mapM_cons, List.mapM_cons]
    apply bind (hstep item)
    intro answer _
    apply bind ih
    exact fun answers _ => pure (answer :: answers)

/-- Checks repeated over a list give what the plain checks give. -/
theorem forM {Item : Type} {step : Item → Resolving Failure Unit}
    {plain : Item → Except Failure Unit}
    (hstep : ∀ item, Resolves holds (step item) (plain item)) (items : List Item) :
    Resolves holds (items.forM step) (items.forM plain) := by
  induction items with
  | nil => exact pure ()
  | cons item others ih =>
    apply bind (hstep item)
    exact fun _ _ => ih

end Resolves

end LabMatch.Session
