import LabMatch.Proofs.Session.Notes

/-!
# Every resolver gives the plain answer

One statement per resolver: on a session with faithful notes it gives the plain
answer, whether it finds it noted or computes it, and its notes stay faithful.
-/

namespace LabMatch.Session

variable {catalog : Catalog} {labels : Labels}

/-! ## Looking at entities and taking notes -/

theorem answers_devicesOf (container : ContainerId) :
    Answers (FaithfulWith catalog labels) (devicesOf catalog container)
      (catalog.visibleDevices container) :=
  Answers.visitContainer (respectsNotes_faithfulWith catalog labels) fun _ _ => Answers.pure _

theorem answers_deviceNamed? (container : ContainerId) (name : String) :
    Answers (FaithfulWith catalog labels) (deviceNamed? catalog container name)
      (catalog.visibleDeviceNamed? container name) :=
  (answers_devicesOf container).bind (Answers.pure _)

theorem answers_attachmentsOf (device : DeviceId) :
    Answers (FaithfulWith catalog labels) (attachmentsOf catalog device)
      (catalog.deviceAttachments device) :=
  Answers.of_notes_eq (respectsNotes_faithfulWith catalog labels) (fun _ _ => rfl)
    (fun _ _ => rfl) fun _ => rfl

theorem answers_attachmentsAskedBy (logicalDevice : LogicalDeviceId) :
    Answers (FaithfulWith catalog labels) (attachmentsAskedBy catalog logicalDevice)
      (catalog.logicalDeviceAttachments logicalDevice) :=
  Answers.of_notes_eq (respectsNotes_faithfulWith catalog labels) (fun _ _ => rfl)
    (fun _ _ => rfl) fun _ => rfl

theorem answers_logicalDevicesOf (capability : CapabilityId) :
    Answers (FaithfulWith catalog labels) (logicalDevicesOf catalog capability)
      (catalog.visibleLogicalDevices capability) :=
  Answers.visitCapability (respectsNotes_faithfulWith catalog labels) fun _ _ => Answers.pure _

/-- Noting plain answers about a container keeps the notes faithful. -/
theorem answers_noteContainer {id : ContainerId} {update : ContainerNotes → ContainerNotes}
    (habsolute : ∀ notes noted, (update notes).absolute = some noted →
      notes.absolute = some noted ∨ noted = catalog.absolute id)
    (hreduced : ∀ notes noted, (update notes).reduced = some noted →
      notes.reduced = some noted ∨ catalog.reduced id = .ok noted) :
    Answers (FaithfulWith catalog labels) (noteContainer id update) () := by
  intro session hfaithful
  have hnotes := fun other => @containerNotes_noteContainer session id other update
  refine ⟨rfl, ⟨fun other noted hnoted => ?_, fun other noted hnoted => ?_,
    hfaithful.requirements, hfaithful.hints, hfaithful.inherited⟩, hfaithful.variants⟩
  · rw [hnotes] at hnoted
    by_cases hsame : other = id
    · subst hsame
      rw [if_pos rfl] at hnoted
      exact (habsolute _ noted hnoted).elim (hfaithful.absolute other noted) id
    · rw [if_neg hsame] at hnoted
      exact hfaithful.absolute other noted hnoted
  · rw [hnotes] at hnoted
    by_cases hsame : other = id
    · subst hsame
      rw [if_pos rfl] at hnoted
      exact (hreduced _ noted hnoted).elim (hfaithful.reduced other noted) id
    · rw [if_neg hsame] at hnoted
      exact hfaithful.reduced other noted hnoted

/-- Noting the plain requirements of a capability type keeps the notes faithful, once those of
its parent are noted. -/
theorem FaithfulWith.noteRequirements {session : Session}
    (hfaithful : FaithfulWith catalog labels session) {id : CapabilityId}
    {requirements : Requirements} {hints : List Warning}
    (hplain : catalog.requirements id = .ok (requirements, hints))
    (hparent : ∀ parent, catalog.parent? id = some parent →
      (session.capabilityNotes parent).requirements.isSome) :
    FaithfulWith catalog labels ((noteCapability id fun notes =>
      { notes with requirements := some requirements, hints }).run session).2 := by
  have hnotes := fun other => @capabilityNotes_noteCapability session id other
    fun notes => { notes with requirements := some requirements, hints }
  refine ⟨⟨hfaithful.absolute, hfaithful.reduced, fun other noted hnoted => ?_,
    fun other hnoted => ?_, fun other parent hnoted hother => ?_⟩, fun other => ?_⟩
  · rw [hnotes] at hnoted ⊢
    by_cases hsame : other = id
    · subst hsame
      simp only [if_true, Option.some.injEq] at hnoted ⊢
      rw [← hnoted, hplain]
    · simp only [if_neg hsame] at hnoted ⊢
      exact hfaithful.requirements other noted hnoted
  · rw [hnotes] at hnoted ⊢
    by_cases hsame : other = id
    · simp [hsame] at hnoted
    · simp only [if_neg hsame] at hnoted ⊢
      exact hfaithful.hints other hnoted
  · rw [hnotes] at hnoted ⊢
    by_cases hsame : parent = id
    · simp [hsame]
    · rw [if_neg hsame]
      by_cases hchild : other = id
      · exact hparent parent (hchild ▸ hother)
      · rw [if_neg hchild] at hnoted
        exact hfaithful.inherited other parent hnoted hother
  · rw [hnotes, ← hfaithful.variants]
    by_cases hsame : other = id <;> simp [hsame]

/-! ## Wirings, bindings and requirements -/

def inheritedWiring (catalog : Catalog) (container : ContainerId) :
    StateM Session (Option Wiring) :=
  match catalog.parent? container with
  | some parent => some <$> absoluteWiring catalog parent
  | none => pure none

/-- The absolute wiring of a container and its warnings, before they are noted. -/
def settledWiring (catalog : Catalog) (container : ContainerId) :
    StateM Session (Wiring × List Warning) := do
  match ← inheritedWiring catalog container with
  | none => return (catalog.ownWiring container, [])
  | some inherited =>
    if (catalog.container container).devices.isEmpty then return (inherited, [])
    else if catalog.declaresLinks container then return (catalog.ownWiring container, [])
    else
      let devices ← devicesOf catalog container
      return (catalog.movedWiring inherited devices, catalog.takeoverWarnings container inherited)

def recallAbsolute (catalog : Catalog) (container : ContainerId) (notes : ContainerNotes) :
    StateM Session Wiring :=
  match notes.absolute with
  | some noted => return noted.1
  | none => do
    let noted ← settledWiring catalog container
    noteContainer container fun notes => { notes with absolute := some noted }
    return noted.1

theorem absoluteWiring_eq (container : ContainerId) :
    absoluteWiring catalog container =
      visitContainer container >>= recallAbsolute catalog container := by
  rw [absoluteWiring]
  congr 1
  funext notes
  rw [recallAbsolute, settledWiring, inheritedWiring, Catalog.parent?, Catalog.parents]
  cases notes.absolute with
  | some noted => rfl
  | none =>
    cases (catalog.container container).parents.head? with
    | none => rfl
    | some parent =>
      by_cases hlt : parent.index < container.index
      · simp only [if_pos hlt, bind_assoc]
        apply bind_congr
        intro inherited
        cases inherited with
        | none => rfl
        | some inherited =>
          by_cases hempty : (catalog.container container).devices.isEmpty
          · simp only [if_pos hempty]
          · by_cases hdeclares : catalog.declaresLinks container
            · simp only [if_neg hempty, if_pos hdeclares]
            · simp only [if_neg hempty, if_neg hdeclares, bind_assoc]
      · dsimp only
        simp only [if_neg hlt]
        rfl

theorem answers_settledWiring {container : ContainerId}
    (hparents : ∀ parent, catalog.parent? container = some parent →
      Answers (FaithfulWith catalog labels) (absoluteWiring catalog parent)
        (catalog.absolute parent).1) :
    Answers (FaithfulWith catalog labels) (settledWiring catalog container)
      (catalog.absolute container) := by
  have hinherited : Answers (FaithfulWith catalog labels) (inheritedWiring catalog container)
      ((catalog.parent? container).map fun parent => (catalog.absolute parent).1) := by
    rw [inheritedWiring]
    cases hparent : catalog.parent? container with
    | none => exact Answers.pure none
    | some parent => exact (hparents parent hparent).map some
  rw [catalog.absolute_eq container]
  apply hinherited.bind
  cases (catalog.parent? container).map fun parent => (catalog.absolute parent).1 with
  | none => exact Answers.pure _
  | some inherited =>
    rw [Catalog.settleWiring]
    by_cases hempty : (catalog.container container).devices.isEmpty
    · simp only [if_pos hempty]
      exact Answers.pure _
    · by_cases hdeclares : catalog.declaresLinks container
      · simp only [if_neg hempty, if_pos hdeclares]
        exact Answers.pure _
      · simp only [if_neg hempty, if_neg hdeclares]
        exact (answers_devicesOf container).bind (Answers.pure _)

theorem answers_noteAbsolute (container : ContainerId) :
    Answers (FaithfulWith catalog labels) (noteContainer container fun notes =>
      { notes with absolute := some (catalog.absolute container) }) () := by
  apply answers_noteContainer
  · intro _ noted hnoted
    exact Or.inr (Option.some.inj hnoted).symm
  · intro _ _ hreduced
    exact Or.inl hreduced

/-- Notes or not, the absolute wiring is the plain one. -/
theorem answers_absoluteWiring (container : ContainerId) :
    Answers (FaithfulWith catalog labels) (absoluteWiring catalog container)
      (catalog.absolute container).1 := by
  induction container using catalog.parent_induction with
  | step container ih =>
    rw [absoluteWiring_eq]
    apply Answers.visitContainer (respectsNotes_faithfulWith catalog labels)
    intro session hfaithful
    rw [recallAbsolute]
    cases hnoted : (session.containerNotes container).absolute with
    | some noted =>
      rw [← hfaithful.absolute container noted hnoted]
      exact Answers.pure noted.1
    | none =>
      apply (answers_settledWiring ih).bind
      exact (answers_noteAbsolute container).bind (Answers.pure _)

/-- Once the absolute wiring was asked for, it is noted. -/
theorem absolute_noted {session : Session} (container : ContainerId)
    (hfaithful : FaithfulWith catalog labels session) :
    (((absoluteWiring catalog container).run session).2.containerNotes container).absolute =
      some (catalog.absolute container) := by
  have hvisited : FaithfulWith catalog labels ((visitContainer container).run session).2 :=
    respectsNotes_faithfulWith catalog labels session _ (containerNotes_visitContainer container)
      (fun _ => rfl) hfaithful
  rw [absoluteWiring_eq]
  change (((recallAbsolute catalog container (session.containerNotes container)).run
    ((visitContainer container).run session).2).2.containerNotes container).absolute = _
  rw [recallAbsolute]
  cases hnoted : (session.containerNotes container).absolute with
  | some noted =>
    change (((visitContainer container).run session).2.containerNotes container).absolute = _
    rw [containerNotes_visitContainer, hnoted, hfaithful.absolute container noted hnoted]
  | none =>
    obtain ⟨hsettled, -⟩ := answers_settledWiring
      (fun parent _ => answers_absoluteWiring parent) _ hvisited
    rw [← hsettled]
    let settled := (settledWiring catalog container).run ((visitContainer container).run session).2
    change (((noteContainer container fun notes => { notes with absolute := some settled.1 }).run
      settled.2).2.containerNotes container).absolute = some settled.1
    rw [containerNotes_noteContainer, if_pos rfl]

theorem answers_activeBinding (container : ContainerId) (device : DeviceId) (attr : String) :
    Answers (FaithfulWith catalog labels) (activeBinding catalog container device attr)
      (catalog.activeBinding container device attr) := by
  rw [activeBinding, Catalog.activeBinding]
  cases catalog.declaredBinding? device attr with
  | none => exact Answers.pure none
  | some declared => exact (answers_deviceNamed? container _).bind (Answers.pure _)

/-- The requirements of a capability type, given those of its parent, and noted. -/
def fillRequirements (catalog : Catalog) (capability : CapabilityId) (inherited : Requirements) :
    Resolving ResolveError Requirements := do
  let logicalDevices ← logicalDevicesOf catalog capability
  let noted ← ((catalog.requirementsFor capability inherited logicalDevices.entries).mapError
    ResolveError.connection : Except _ _)
  noteCapability capability fun notes =>
    { notes with requirements := some noted.1, hints := noted.2 }
  return noted.1

/-- What filling in the requirements does to a session. -/
theorem run_fillRequirements (capability : CapabilityId) (inherited : Requirements)
    (session : Session) :
    (fillRequirements catalog capability inherited).run.run session =
      let visited := ((visitCapability capability).run session).2
      match catalog.ownRequirements capability inherited with
      | .error reason => (.error reason, visited)
      | .ok noted => (.ok noted.1, ((noteCapability capability fun notes =>
          { notes with requirements := some noted.1, hints := noted.2 }).run visited).2) := by
  -- visiting the capability type is the only step before the requirements are computed
  change ((liftM (catalog.ownRequirements capability inherited) >>= fun noted => do
      noteCapability capability fun notes =>
        { notes with requirements := some noted.1, hints := noted.2 }
      return noted.1 : Resolving ResolveError Requirements)).run.run
        ((visitCapability capability).run session).2 = _
  cases catalog.ownRequirements capability inherited <;> rfl

def inheritedRequirements (catalog : Catalog) (capability : CapabilityId) :
    Resolving ResolveError Requirements :=
  match catalog.parent? capability with
  | some parent => requirementsOf catalog parent
  | none => pure SortedMap.empty

theorem requirementsOf_eq (capability : CapabilityId) :
    requirementsOf catalog capability = (do
      let notes ← visitCapability capability
      match notes.requirements with
      | some requirements => return requirements
      | none => inheritedRequirements catalog capability >>=
          fillRequirements catalog capability) := by
  rw [requirementsOf]
  apply bind_congr
  intro notes
  dsimp only
  rw [inheritedRequirements, Catalog.parent?, Catalog.parents]
  cases notes.requirements with
  | some requirements => rfl
  | none =>
    cases (catalog.capability capability).parents.head? with
    | none => rfl
    | some parent => by_cases hlt : parent.index < capability.index <;> simp [hlt] <;> rfl

/-- A run that gives the plain requirements of the capability type, and leaves them noted. -/
structure Settles (catalog : Catalog) (labels : Labels) (capability : CapabilityId)
    (result : Except ResolveError Requirements × Session) : Prop where
  answer : result.1 = Prod.fst <$> catalog.requirements capability
  faithful : FaithfulWith catalog labels result.2
  noted : ∀ requirements, result.1 = .ok requirements →
    (result.2.capabilityNotes capability).requirements = some requirements

theorem FaithfulWith.visitCapability {session : Session}
    (hfaithful : FaithfulWith catalog labels session) (capability : CapabilityId) :
    FaithfulWith catalog labels ((Session.visitCapability capability).run session).2 :=
  respectsNotes_faithfulWith catalog labels session _ (fun _ => rfl)
    (capabilityNotes_visitCapability capability) hfaithful

theorem settles_fillRequirements {capability : CapabilityId} {inherited : Requirements}
    (hinherited : catalog.inheritedRequirements capability = .ok inherited) {session : Session}
    (hfaithful : FaithfulWith catalog labels session)
    (hparent : ∀ parent, catalog.parent? capability = some parent →
      (session.capabilityNotes parent).requirements.isSome) :
    Settles catalog labels capability
      ((fillRequirements catalog capability inherited).run.run session) := by
  have hplain := catalog.requirements_eq capability
  rw [hinherited] at hplain
  have hvisited := hfaithful.visitCapability capability
  rw [run_fillRequirements]
  cases hown : catalog.ownRequirements capability inherited with
  | error reason =>
    have hfails : catalog.requirements capability = .error reason := hplain.trans hown
    refine ⟨?_, hvisited, fun _ hanswer => by cases hanswer⟩
    rw [hfails]
    rfl
  | ok noted =>
    have hresolved : catalog.requirements capability = .ok noted := hplain.trans hown
    refine ⟨?_, hvisited.noteRequirements hresolved ?_, fun requirements hanswer => ?_⟩
    · rw [hresolved]
      rfl
    · intro parent habove
      rw [capabilityNotes_visitCapability]
      exact hparent parent habove
    · cases hanswer
      dsimp only
      rw [capabilityNotes_noteCapability, if_pos rfl]

/-- Asking for requirements gives the plain ones and notes them with their hints. -/
theorem settles_requirementsOf (capability : CapabilityId) {session : Session}
    (hfaithful : FaithfulWith catalog labels session) :
    Settles catalog labels capability ((requirementsOf catalog capability).run.run session) := by
  induction capability using catalog.parent_induction generalizing session with
  | step capability ih =>
    have hvisited := hfaithful.visitCapability capability
    rw [requirementsOf_eq, run_visitCapability_bind]
    cases hnoted : (session.capabilityNotes capability).requirements with
    | some noted =>
      refine ⟨?_, hvisited, fun requirements hanswer => ?_⟩
      · rw [hfaithful.requirements capability noted hnoted]
        rfl
      · cases hanswer
        change (((visitCapability capability).run session).2.capabilityNotes
          capability).requirements = some noted
        rw [capabilityNotes_visitCapability, hnoted]
    | none =>
      cases hparent : catalog.parent? capability with
      | none =>
        have hinherited : catalog.inheritedRequirements capability = .ok SortedMap.empty := by
          rw [Catalog.inheritedRequirements, hparent]
        have hfilled := settles_fillRequirements hinherited hvisited fun parent hsome => by
          rw [hparent] at hsome
          cases hsome
        rw [inheritedRequirements, hparent]
        exact hfilled
      | some parent =>
        have hsettled := ih parent hparent hvisited
        rw [inheritedRequirements, hparent, run_bind]
        dsimp only
        generalize (requirementsOf catalog parent).run.run
          ((visitCapability capability).run session).2 = result at hsettled ⊢
        obtain ⟨outcome, after⟩ := result
        have hinherited : catalog.inheritedRequirements capability = outcome := by
          rw [Catalog.inheritedRequirements, hparent]
          exact hsettled.answer.symm
        cases outcome with
        | error reason =>
          refine ⟨?_, hsettled.faithful, fun _ hanswer => by cases hanswer⟩
          rw [catalog.requirements_eq, hinherited]
          rfl
        | ok inherited =>
          apply settles_fillRequirements hinherited hsettled.faithful
          intro above habove
          rw [hparent] at habove
          rw [← Option.some.inj habove, hsettled.noted inherited rfl]
          rfl

/-- Notes or not, the requirements are the plain ones. -/
theorem resolves_requirementsOf (capability : CapabilityId) :
    Resolves (FaithfulWith catalog labels) (requirementsOf catalog capability)
      (Prod.fst <$> catalog.requirements capability) := by
  intro session hfaithful
  have hsettled := settles_requirementsOf capability hfaithful
  exact ⟨hsettled.answer, hsettled.faithful⟩

theorem resolves_reduceByAttachment (container : ContainerId) (device : DeviceId)
    (reduced : ReducedWiring) (attachment : String × AttachmentId) :
    Resolves (FaithfulWith catalog labels)
      (reduceByAttachment catalog container device reduced attachment)
      (catalog.reduceBy container device reduced attachment) := by
  rw [reduceByAttachment, Catalog.reduceBy]
  apply Resolves.bindState (answers_activeBinding container device attachment.1)
  cases catalog.activeBinding container device attachment.1 with
  | none => exact Resolves.pure reduced
  | some binding =>
    apply Resolves.bind (resolves_requirementsOf (catalog.attachment attachment.2).capability)
    intro requirements _
    cases requirements.get? binding.logicalDevice with
    | none => exact Resolves.pure reduced
    | some requirement => exact Resolves.bindExcept fun _ _ => Resolves.pure _

theorem resolves_reduceByDevice (container : ContainerId) (reduced : ReducedWiring)
    (device : DeviceId) :
    Resolves (FaithfulWith catalog labels) (reduceByDevice catalog container reduced device)
      ((catalog.deviceAttachments device).entries.foldlM
        (catalog.reduceBy container device) reduced) :=
  Resolves.bindState (answers_attachmentsOf device)
    (Resolves.foldlM (resolves_reduceByAttachment container device) _ reduced)

theorem answers_noteReduced {container : ContainerId} {reduced : ReducedWiring}
    (hplain : catalog.reduced container = .ok reduced) :
    Answers (FaithfulWith catalog labels) (noteContainer container fun notes =>
      { notes with reduced := some reduced }) () := by
  apply answers_noteContainer
  · intro _ _ habsolute
    exact Or.inl habsolute
  · intro _ noted hnoted
    rw [← Option.some.inj hnoted]
    exact Or.inr hplain

/-- The given links of a container, reduced and noted. -/
def fillReduced (catalog : Catalog) (container : ContainerId) (links : Wiring)
    (notes : ContainerNotes) : Resolving ResolveError ReducedWiring := do
  let devices ← devicesOf catalog container
  let reduced ← devices.foldlM (reduceByDevice catalog container)
    ⟨links, (notes.absolute.map Prod.snd).getD []⟩
  noteContainer container fun notes => { notes with reduced := some reduced }
  return reduced

theorem resolves_fillReduced {container : ContainerId} {links : Wiring} {notes : ContainerNotes}
    (hexpand : (catalog.absolute container).1.expand = .ok links)
    (hnotes : notes.absolute = some (catalog.absolute container)) :
    Resolves (FaithfulWith catalog labels) (fillReduced catalog container links notes)
      (catalog.reduced container) := by
  have hreduced : catalog.reduced container = catalog.reduceLinks container links := by
    rw [Catalog.reduced, hexpand]
    rfl
  rw [fillReduced, hnotes]
  apply Resolves.bindState (answers_devicesOf container)
  rw [hreduced, ← bind_pure (catalog.reduceLinks container links)]
  apply Resolves.bind
  · exact Resolves.foldlM (resolves_reduceByDevice container) _ _
  · intro reduced hplain
    exact Resolves.bindState (answers_noteReduced (hreduced.trans hplain)) (Resolves.pure reduced)

/-- Notes or not, the reduced wiring is the plain one. -/
theorem resolves_reducedWiring (container : ContainerId) :
    Resolves (FaithfulWith catalog labels) (reducedWiring catalog container)
      (catalog.reduced container) := by
  rw [reducedWiring]
  apply Resolves.visitContainer (respectsNotes_faithfulWith catalog labels)
  intro session hfaithful
  cases hnoted : (session.containerNotes container).reduced with
  | some noted =>
    rw [hfaithful.reduced container noted hnoted]
    exact Resolves.pure noted
  | none =>
    dsimp only
    cases hexpand : (catalog.absolute container).1.expand with
    | error error =>
      have hfails : catalog.reduced container = .error (.connection error) := by
        rw [Catalog.reduced, hexpand]
        rfl
      rw [hfails]
      apply Resolves.bindState (answers_absoluteWiring container)
      rw [hexpand]
      exact Answers.pure _
    | ok links =>
      -- The notes are read again here, so the session after the first step matters.
      intro session hfaithful
      obtain ⟨hanswer, hmiddle⟩ := answers_absoluteWiring container session hfaithful
      have hnoted := absolute_noted container hfaithful
      have hvisited := respectsNotes_faithfulWith catalog labels _
        ((visitContainer container).run ((absoluteWiring catalog container).run session).2).2
        (containerNotes_visitContainer container) (fun _ => rfl) hmiddle
      have hfilled := resolves_fillReduced hexpand hnoted _ hvisited
      let reread (absolute : Wiring) : Resolving ResolveError ReducedWiring :=
        liftM (absolute.expand.mapError ResolveError.connection) >>= fun links =>
          liftM (visitContainer container) >>= fillReduced catalog container links
      change ((reread ((absoluteWiring catalog container).run session).1).run _).1 = _ ∧
        FaithfulWith catalog labels
          ((reread ((absoluteWiring catalog container).run session).1).run _).2
      simp only [reread, hanswer, hexpand]
      exact hfilled

end LabMatch.Session
