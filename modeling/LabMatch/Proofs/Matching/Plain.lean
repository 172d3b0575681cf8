import LabMatch.Matching.Pair
import LabMatch.Proofs.Session.Hierarchy

/-!
# Matching without notes

A scenario and a setup are matched in the same steps as by a session, with every
question answered from the catalogue alone.  A session gives the same outcome.
-/

namespace LabMatch

namespace Catalog

variable (catalog : Catalog)

def openServices (placed : DeviceId × DeviceId) : Except ResolveError (List Service) :=
  (catalog.deviceAttachments placed.1).entries.mapM
    (catalog.openService placed.1 placed.2 (catalog.deviceAttachments placed.2).values)

def settleBinding (scenario setup : ContainerId) (placement : Placement) (service : Service) :
    Except ResolveError Service := do
  let binding ← catalog.agreedBinding placement service
    (catalog.activeBinding scenario service.scenarioDevice service.attr)
    (catalog.activeBinding setup service.device (catalog.attachment service.implementation).attr)
  return { service with binding }

def checkBoundDevice (service : Service) : Except ResolveError Unit :=
  match service.binding with
  | none => .ok ()
  | some binding =>
    let capability := (catalog.attachment service.implementation).capability
    match (catalog.visibleLogicalDevices capability).get? binding.logicalDevice with
    | none => .ok ()
    | some logicalDevice =>
      catalog.implementsAll binding.target (catalog.deviceAttachments binding.target).values
        (catalog.logicalDeviceAttachments logicalDevice).values

def settleAvailable (placement : Placement) (setup : Wiring) (deliveries : List Delivery)
    (service : Service) : Except ResolveError Service :=
  match service.binding with
  | none => .ok service
  | some binding => do
    let requirements ←
      Prod.fst <$> catalog.requirements (catalog.attachment service.implementation).capability
    match requirements.get? binding.logicalDevice with
    | none => return service
    | some requirement =>
      let found ← availableTo placement setup deliveries service binding.target
      match found.filter fun available => available.compatible requirement with
      | some available => return { service with available := some available }
      | none =>
        throw (.unsuitableConnection (catalog.attachmentPath service.implementation)
          (catalog.devicePath service.device) (catalog.devicePath binding.target)
          requirement.text)

def checkPlacement (scenario setup : ContainerId) (scenarioWiring setupWiring : Wiring)
    (placement : Placement) : Except ResolveError Variation := do
  let opened ← placement.entries.mapM catalog.openServices
  let bound ← opened.flatten.mapM (catalog.settleBinding scenario setup placement)
  bound.forM catalog.checkBoundDevice
  let deliveries ← catalog.deliverAll placement scenarioWiring setupWiring
  let services ← bound.mapM (catalog.settleAvailable placement setupWiring deliveries)
  return ⟨scenario, setup, placement, deliveries, services⟩

def recordPlacement (scenario setup : ContainerId) (scenarioWiring setupWiring : Wiring)
    (outcome : PairOutcome) (placement : Placement) : PairOutcome :=
  match catalog.checkPlacement scenario setup scenarioWiring setupWiring placement with
  | .ok variation => { outcome with applicable := outcome.applicable ++ [variation] }
  | .error reason =>
    { outcome with discarded := outcome.discarded ++ [⟨placement, reason⟩] }

def reducedPair (scenario setup : ContainerId) : Except ResolveError (Wiring × Wiring) := do
  let scenarioWiring ← catalog.reduced scenario
  let setupWiring ← catalog.reduced setup
  return (scenarioWiring.links, setupWiring.links)

def matchPair (scenario setup : ContainerId) : PairOutcome :=
  match catalog.reducedPair scenario setup with
  | .error error => ⟨scenario, setup, [], [], some error⟩
  | .ok wirings =>
    (placements (catalog.visibleDevices scenario) (catalog.visibleDevices setup)).foldl
      (catalog.recordPlacement scenario setup wirings.1 wirings.2)
      ⟨scenario, setup, [], [], none⟩

def matchAll : Except HierarchyError (List PairOutcome) := do
  catalog.hierarchy
  let pairs := (catalog.containersOfKind .scenario).flatMap fun scenario =>
    (catalog.containersOfKind .setup).map fun setup => (scenario, setup)
  return pairs.map fun pair => catalog.matchPair pair.1 pair.2

end Catalog

namespace Session

variable {catalog : Catalog} {labels : Labels}

section Placement

variable (scenario setup : ContainerId) (placement : Placement)

theorem resolves_openServices (placed : DeviceId × DeviceId) :
    Resolves (FaithfulWith catalog labels) (openServices catalog placed)
      (catalog.openServices placed) := by
  rw [openServices]
  apply Resolves.bindState (answers_attachmentsOf placed.2)
  apply Resolves.bindState (answers_attachmentsOf placed.1)
  exact Resolves.liftExcept _

theorem resolves_settleBinding (service : Service) :
    Resolves (FaithfulWith catalog labels) (settleBinding catalog scenario setup placement service)
      (catalog.settleBinding scenario setup placement service) := by
  rw [settleBinding, Catalog.settleBinding]
  apply Resolves.bindState (answers_activeBinding scenario service.scenarioDevice service.attr)
  apply Resolves.bindState (answers_activeBinding setup service.device _)
  apply Resolves.bindExcept
  exact fun binding _ => Resolves.pure _

theorem resolves_checkBoundDevice (service : Service) :
    Resolves (FaithfulWith catalog labels) (checkBoundDevice catalog service)
      (catalog.checkBoundDevice service) := by
  rw [checkBoundDevice, Catalog.checkBoundDevice]
  cases service.binding with
  | none => exact Resolves.pure ()
  | some binding =>
    dsimp only
    apply Resolves.bindState (answers_logicalDevicesOf _)
    cases (catalog.visibleLogicalDevices
        (catalog.attachment service.implementation).capability).get? binding.logicalDevice with
    | none => exact Resolves.pure ()
    | some logicalDevice =>
      apply Resolves.bindState (answers_attachmentsOf binding.target)
      apply Resolves.bindState (answers_attachmentsAskedBy logicalDevice)
      exact Resolves.liftExcept _

theorem resolves_settleAvailable (wiring : Wiring) (deliveries : List Delivery)
    (service : Service) :
    Resolves (FaithfulWith catalog labels)
      (settleAvailable catalog placement wiring deliveries service)
      (catalog.settleAvailable placement wiring deliveries service) := by
  rw [settleAvailable, Catalog.settleAvailable]
  cases service.binding with
  | none => exact Resolves.pure service
  | some binding =>
    apply Resolves.bind (resolves_requirementsOf _)
    intro requirements _
    cases requirements.get? binding.logicalDevice with
    | none => exact Resolves.pure service
    | some requirement =>
      apply Resolves.bindExcept
      intro found _
      cases found.filter fun available => available.compatible requirement with
      | none => exact Resolves.throw _
      | some available => exact Resolves.pure _

theorem resolves_checkPlacement (scenarioWiring setupWiring : Wiring) :
    Resolves (FaithfulWith catalog labels)
      (checkPlacement catalog scenario setup scenarioWiring setupWiring placement)
      (catalog.checkPlacement scenario setup scenarioWiring setupWiring placement) := by
  rw [checkPlacement, Catalog.checkPlacement]
  apply (Resolves.mapM resolves_openServices _).bind
  intro opened _
  apply (Resolves.mapM (resolves_settleBinding scenario setup placement) _).bind
  intro bound _
  apply (Resolves.forM resolves_checkBoundDevice _).bind
  intro _ _
  apply Resolves.bindExcept
  intro deliveries _
  apply (Resolves.mapM (resolves_settleAvailable placement setupWiring deliveries) _).bind
  exact fun services _ => Resolves.pure _

end Placement

theorem resolves_reducedPair (scenario setup : ContainerId) :
    Resolves (FaithfulWith catalog labels) (reducedPair catalog scenario setup)
      (catalog.reducedPair scenario setup) := by
  rw [reducedPair, Catalog.reducedPair]
  apply (resolves_reducedWiring scenario).bind
  intro scenarioWiring _
  apply (resolves_reducedWiring setup).bind
  exact fun setupWiring _ => Resolves.pure _

/-- A pair of containers is matched alike in every session. -/
theorem answers_matchPair (scenario setup : ContainerId) :
    Answers (FaithfulWith catalog labels) (matchPair catalog scenario setup)
      (catalog.matchPair scenario setup) := by
  rw [matchPair, Catalog.matchPair]
  apply Answers.bind (resolves_reducedPair scenario setup)
  cases catalog.reducedPair scenario setup with
  | error reason => exact Answers.pure _
  | ok wirings =>
    apply (answers_devicesOf scenario).bind
    apply (answers_devicesOf setup).bind
    apply Answers.foldlM
    intro outcome placement
    rw [recordPlacement, Catalog.recordPlacement]
    apply Answers.bind (resolves_checkPlacement scenario setup placement wirings.1 wirings.2)
    cases catalog.checkPlacement scenario setup wirings.1 wirings.2 placement with
    | error reason => exact Answers.pure _
    | ok variation => exact Answers.pure _

/-- All pairs are matched alike in every session. -/
theorem resolves_matchAll (catalog : Catalog) :
    Resolves (FaithfulWith catalog labels) (matchAll catalog) catalog.matchAll := by
  rw [matchAll, Catalog.matchAll]
  apply (resolves_checkHierarchy catalog).bind
  intro _ _
  dsimp only
  rw [← List.mapM_pure]
  apply Resolves.mapM
  exact fun pair => Resolves.liftState (answers_matchPair pair.1 pair.2)

end Session

end LabMatch
