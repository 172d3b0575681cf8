import LabMatch.Proofs.Catalog.Hierarchy
import LabMatch.Proofs.Session.Resolved

/-!
# The hierarchy check gives the plain answer

Checking the hierarchy looks at entities but reads none of their notes.
-/

namespace LabMatch.Session

variable {catalog : Catalog} {labels : Labels}

theorem resolves_checkContainer (id : ContainerId) :
    Resolves (FaithfulWith catalog labels) (checkContainer catalog id)
      (catalog.containerRule id) := by
  rw [checkContainer, Catalog.containerRule]
  cases (catalog.container id).parents.head? with
  | none => exact Resolves.pure ()
  | some parent =>
    by_cases hempty : (catalog.container id).devices.isEmpty
    · simp only [if_pos hempty]
      exact Resolves.pure ()
    · simp only [if_neg hempty]
      apply Resolves.bindState (answers_devicesOf parent)
      exact Resolves.forM (fun device => Resolves.liftExcept _) _

theorem resolves_checkCapability (id : CapabilityId) :
    Resolves (FaithfulWith catalog labels) (checkCapability catalog id)
      (catalog.capabilityRule id) := by
  rw [checkCapability, Catalog.capabilityRule]
  cases (catalog.capability id).parents.head? with
  | none => exact Resolves.pure ()
  | some parent =>
    by_cases hempty : (catalog.capability id).logicalDevices.isEmpty
    · simp only [if_pos hempty]
      exact Resolves.pure ()
    · simp only [if_neg hempty]
      apply Resolves.bindState (answers_logicalDevicesOf parent)
      exact Resolves.forM (fun entry => Resolves.liftExcept _) _

theorem resolves_checkDevice (id : DeviceId) :
    Resolves (FaithfulWith catalog labels) (checkDevice catalog id) (catalog.deviceRule id) := by
  rw [checkDevice, Catalog.deviceRule]
  cases (catalog.device id).parents.head? with
  | none => exact Resolves.pure ()
  | some parent =>
    apply Resolves.bindState (answers_attachmentsOf id)
    apply Resolves.bindState (answers_attachmentsOf parent)
    exact Resolves.forM (fun declared => Resolves.liftExcept _) _

theorem resolves_checkLogicalDevice (id : LogicalDeviceId) :
    Resolves (FaithfulWith catalog labels) (checkLogicalDevice catalog id)
      (catalog.logicalDeviceRule id) := by
  rw [checkLogicalDevice, Catalog.logicalDeviceRule]
  cases (catalog.logicalDevice id).parents.head? with
  | none => exact Resolves.pure ()
  | some parent =>
    apply Resolves.bindState (answers_attachmentsAskedBy id)
    apply Resolves.bindState (answers_attachmentsAskedBy parent)
    exact Resolves.forM (fun declared => Resolves.liftExcept _) _

theorem resolves_checkHierarchy (catalog : Catalog) :
    Resolves (FaithfulWith catalog labels) (checkHierarchy catalog) catalog.hierarchy := by
  rw [checkHierarchy, Catalog.hierarchy, Catalog.overrideRules]
  apply Resolves.bindExcept
  intro _ _
  apply (Resolves.forM resolves_checkContainer _).bind
  intro _ _
  apply (Resolves.forM resolves_checkCapability _).bind
  intro _ _
  apply (Resolves.forM resolves_checkDevice _).bind
  intro _ _
  exact Resolves.forM resolves_checkLogicalDevice _

end LabMatch.Session
