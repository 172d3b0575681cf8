import LabMatch.Proofs.Capability.Bound
import LabMatch.Proofs.Catalog.WellFormed
import LabMatch.Proofs.Wiring.Inherited

/-!
# Targets of bindings

A binding is declared between two devices of one container.  On a container that
inherits it, it targets the visible device with the name of the declared target.  A
device can also inherit a binding from a device of an unrelated container, where this
name means nothing.  The binding then keeps its declared target, which is not visible
on the container.
-/

namespace LabMatch

namespace Catalog

variable {catalog : Catalog} {container : ContainerId} {device carrier : DeviceId}
  {attr : String} {declared binding : Binding}

def Binds (catalog : Catalog) (device : DeviceId) (attr : String) (binding : Binding) : Prop :=
  ∃ attachment ∈ (catalog.device device).attachments,
    (catalog.attachment attachment).attr = attr ∧
      (catalog.attachment attachment).binding = some binding

/-- A device binds to another device of its own container. -/
theorem Declared.of_binds (hdeclared : Declared catalog)
    (hbinds : catalog.Binds carrier attr declared) :
    carrier ≠ declared.target ∧
      (catalog.device declared.target).owner = (catalog.device carrier).owner ∧
      carrier ∈ (catalog.container (catalog.device carrier).owner).devices ∧
      declared.target ∈ (catalog.container (catalog.device carrier).owner).devices := by
  obtain ⟨attachment, hattachment, -, hbinding⟩ := hbinds
  have howner : (catalog.attachment attachment).owner = .device carrier :=
    (hdeclared.registered.attachmentRoster.mem_iff.mp hattachment).2
  obtain ⟨found, hfound, hne, hsame⟩ := hdeclared.wellFormed.bindings attachment declared hbinding
  obtain rfl : carrier = found := by
    rw [howner] at hfound
    cases hfound
    rfl
  have hcarrier : carrier.index < catalog.devices.length :=
    lt_length_of_mem (rfl : (default : Device).attachments = []) hattachment
  have htarget : declared.target.index < catalog.devices.length :=
    hdeclared.lt_count_of_stores (.target hbinding)
  have hlisted := hdeclared.wellLaidOut.listed
  exact ⟨hne, hsame.symm, hlisted carrier hcarrier, hsame ▸ hlisted declared.target htarget⟩

/-- The binding in effect is the declared one but for its target, which is a namesake of the
declared target. -/
theorem activeBinding_eq_some_iff :
    catalog.activeBinding container device attr = some binding ↔
      ∃ declared, catalog.declaredBinding? device attr = some declared ∧
        binding = { declared with target := catalog.namesake container declared.target } := by
  rw [activeBinding, Option.map_eq_some_iff]
  exact exists_congr fun declared => and_congr_right fun _ => eq_comm

/-- Where the binding is declared by a device of the container or of an ancestor, its target
is visible. -/
theorem Declared.hasNamesake_of_binds (hdeclared : Declared catalog)
    (hbinds : catalog.Binds carrier attr declared)
    (howner : (catalog.device carrier).owner ∈ catalog.ancestry container) :
    catalog.HasNamesake container declared.target := by
  obtain ⟨-, -, -, hlisted⟩ := hdeclared.of_binds hbinds
  exact hasNamesake_of_mem_ancestry howner hlisted

end Catalog

namespace Session

open Catalog

variable {catalog : Catalog}

/-- A binding in effect on a container was declared by a device of the ancestry, between two
devices of one container.  Its target is visible on the container exactly if a visible device
has the name of the declared target.  This is so if the container of the device that declares
the binding is in the ancestry of the container; otherwise the binding may be left with its
declared target, which is not visible. -/
theorem activeBinding_target_visible_iff (hbuilt : Built catalog)
    {questions : List Question} {container : ContainerId} {device : DeviceId} {attr : String}
    {binding : Binding}
    (hbinding : ((activeBinding catalog container device attr).run
      (afterAsking catalog questions)).1 = some binding) :
    ∃ carrier ∈ catalog.ancestry device, ∃ declared,
      catalog.declaredBinding? device attr = some declared ∧
      catalog.Binds carrier attr declared ∧
      (catalog.device declared.target).owner = (catalog.device carrier).owner ∧
      binding.logicalDevice = declared.logicalDevice ∧
      (binding.target ∈ catalog.visibleDevices container ↔
        catalog.HasNamesake container declared.target) ∧
      ((catalog.device carrier).owner ∈ catalog.ancestry container →
        binding.target ∈ catalog.visibleDevices container) ∧
      (binding.target ∉ catalog.visibleDevices container → binding.target = declared.target) := by
  rw [run_afterAsking (fun _ => answers_activeBinding container device attr),
    activeBinding_eq_some_iff] at hbinding
  obtain ⟨declared, hdeclared, rfl⟩ := hbinding
  obtain ⟨carrier, hcarrier, hbinds⟩ := exists_of_declaredBinding? hdeclared
  have hvisible : catalog.namesake container declared.target ∈ catalog.visibleDevices container ↔
      catalog.HasNamesake container declared.target := namesake_mem_visibleDevices_iff
  refine ⟨carrier, hcarrier, declared, hdeclared, hbinds,
    (hbuilt.declared.of_binds hbinds).2.1, rfl, hvisible, ?_, ?_⟩
  · intro howner
    exact hvisible.mpr (hbuilt.declared.hasNamesake_of_binds hbinds howner)
  · intro hescaped
    exact namesake_of_not_hasNamesake fun hnamesake => hescaped (hvisible.mpr hnamesake)

/-- The binding of the site, between its host and its board, targets the board of the room. -/
theorem activeBinding_target_visible_layeredLab :
    ((activeBinding layeredLab ⟨2⟩ ⟨2⟩ "net").run (afterAsking layeredLab [])).1 =
      some ⟨"peer", ⟨3⟩⟩ ∧
    ∃ declared, layeredLab.declaredBinding? ⟨2⟩ "net" = some declared ∧
      ((⟨3⟩ : DeviceId) ∈ layeredLab.visibleDevices ⟨2⟩ ↔
        layeredLab.HasNamesake ⟨2⟩ declared.target) := by
  have hbinding : ((activeBinding layeredLab ⟨2⟩ ⟨2⟩ "net").run
      (afterAsking layeredLab [])).1 = some ⟨"peer", ⟨3⟩⟩ := by decide +kernel
  obtain ⟨-, -, declared, hdeclared, -, -, -, hvisible, -⟩ :=
    activeBinding_target_visible_iff built_layeredLab hbinding
  exact ⟨hbinding, declared, hdeclared, hvisible⟩

/-- A phone that is bound to the hub of the home, and a laptop away that extends the phone. -/
def awayDeclarations : List Declaration :=
  [.capability "Sync", .logicalDevice ⟨0⟩ "peer",
    .container .setup "Home", .device ⟨0⟩ "Phone", .device ⟨0⟩ "Hub",
    .attach (.device ⟨0⟩) "sync" ⟨0⟩, .bind ⟨0⟩ "peer" ⟨1⟩,
    .container .setup "Away", .device ⟨1⟩ "Laptop", .extendDevice ⟨2⟩ ⟨0⟩]

def awayLab : Catalog := (declareAll awayDeclarations).toOption.getD empty

theorem built_awayLab : Built awayLab := by
  apply built_of_declareAll
  · decide +kernel
  · decide +kernel

/-- The laptop is bound to the hub, which is not away. -/
theorem activeBinding_target_escapes_awayLab :
    Built awayLab ∧
    ((checkHierarchy awayLab).run.run (afterAsking awayLab [])).1 = .ok () ∧
    (⟨2⟩ : DeviceId) ∈ awayLab.visibleDevices ⟨1⟩ ∧
    (awayLab.deviceAttachments ⟨2⟩).get? "sync" = some ⟨0⟩ ∧
    ((activeBinding awayLab ⟨1⟩ ⟨2⟩ "sync").run (afterAsking awayLab [])).1 =
      some ⟨"peer", ⟨1⟩⟩ ∧
    (⟨1⟩ : DeviceId) ∉ awayLab.visibleDevices ⟨1⟩ := by
  have hok : ((checkHierarchy awayLab).run.run (afterAsking awayLab [])).1.isOk = true := by
    decide +kernel
  obtain ⟨nothing, haccepted⟩ := exists_of_isOk hok
  exact ⟨built_awayLab, haccepted, by decide +kernel, by decide +kernel, by decide +kernel,
    by decide +kernel⟩

end Session

end LabMatch
