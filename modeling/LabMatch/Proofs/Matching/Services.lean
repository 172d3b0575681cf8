import LabMatch.Proofs.Matching.Applicability
import LabMatch.Proofs.Matching.Plain

/-!
# What the checks of a placement accept

One statement for each of the checks on services: which services it opens, which
binding it settles, and when the bound device passes.
-/

namespace LabMatch.Catalog

variable {catalog : Catalog} {placement : Placement} {service : Service}

/-! ## Implementations -/

theorem nodup_deviceAttachments (catalog : Catalog) (device : DeviceId) :
    (catalog.deviceAttachments device).values.Nodup :=
  nodup_values_nearest

theorem eq_singleton_iff_of_nodup {Item : Type} {items : List Item} (hitems : items.Nodup)
    {only : Item} : items = [only] ↔ ∀ item, item ∈ items ↔ item = only := by
  constructor
  · intro hsame
    simp [hsame]
  · intro hmem
    apply List.perm_singleton.mp
    rw [List.perm_ext_iff_of_nodup hitems (List.nodup_singleton only)]
    simpa using hmem

/-- The only implementation is found. -/
theorem implementation_eq_ok_iff {device : DeviceId} {offered : List AttachmentId}
    (hoffered : offered.Nodup) {capability : CapabilityId} {only : AttachmentId} :
    catalog.implementation device offered capability = .ok only ↔
      ∀ candidate, candidate ∈ offered ∧
        catalog.isSubtype (catalog.attachment candidate).capability capability ↔
          candidate = only := by
  have hfilter : catalog.implementation device offered capability = .ok only ↔
      (offered.filter fun attachment => catalog.implements attachment capability) = [only] := by
    rw [implementation]
    split
    · simp [*]
    · simp [*]
    · rename_i hsingle
      simp only [reduceCtorEq, false_iff]
      exact hsingle only
  rw [hfilter, eq_singleton_iff_of_nodup (hoffered.filter _)]
  simp only [List.mem_filter, implements]

theorem openService_eq_ok_iff {device place : DeviceId} {offered : List AttachmentId}
    {wanted : String × AttachmentId} :
    catalog.openService device place offered wanted = .ok service ↔
      catalog.implementation place offered (catalog.attachment wanted.2).capability =
        .ok service.implementation ∧
      service = ⟨device, wanted.1, wanted.2, service.implementation, place, none, none⟩ := by
  rw [openService]
  cases catalog.implementation place offered (catalog.attachment wanted.2).capability with
  | error reason => simp
  | ok found =>
    constructor
    · intro hopened
      cases hopened
      exact ⟨rfl, rfl⟩
    · intro hservice
      obtain ⟨hfound, hservice⟩ := hservice
      rw [hservice, Except.ok.inj hfound]
      rfl

/-- The service is opened for some capability of a placed device. -/
def Opens (catalog : Catalog) (placement : Placement) (service : Service) : Prop :=
  ∃ placed ∈ placement.entries, ∃ wanted ∈ (catalog.deviceAttachments placed.1).entries,
    catalog.openService placed.1 placed.2 (catalog.deviceAttachments placed.2).values wanted =
      .ok service

/-- The opened services are the candidates without a rival. -/
theorem opens_iff :
    catalog.Opens placement service ↔
      catalog.Candidate placement service ∧
      (∀ rival ∈ (catalog.deviceAttachments service.device).values,
        catalog.isSubtype (catalog.attachment rival).capability
          (catalog.attachment service.scenarioAttachment).capability →
            rival = service.implementation) ∧
      service.binding = none ∧ service.available = none := by
  constructor
  · intro hopens
    obtain ⟨⟨device, place⟩, hplaced, ⟨attr, wanted⟩, hwanted, hopened⟩ := hopens
    obtain ⟨hfound, hservice⟩ := openService_eq_ok_iff.mp hopened
    rw [implementation_eq_ok_iff (nodup_deviceAttachments _ _)] at hfound
    obtain ⟨hoffered, himplements⟩ := (hfound service.implementation).mpr rfl
    rw [hservice]
    exact ⟨⟨(SortedMap.get?_eq_some_iff _ _ _).mpr hplaced,
      (SortedMap.get?_eq_some_iff _ _ _).mpr hwanted, hoffered, himplements⟩,
      fun rival hrival hsubtype => (hfound rival).mp ⟨hrival, hsubtype⟩, rfl, rfl⟩
  · intro hcandidate
    obtain ⟨hcandidate, honly, hbinding, havailable⟩ := hcandidate
    refine ⟨(service.scenarioDevice, service.device),
      (SortedMap.get?_eq_some_iff _ _ _).mp hcandidate.placed,
      (service.attr, service.scenarioAttachment),
      (SortedMap.get?_eq_some_iff _ _ _).mp hcandidate.wanted, ?_⟩
    rw [openService_eq_ok_iff, implementation_eq_ok_iff (nodup_deviceAttachments _ _)]
    constructor
    · intro candidate
      constructor
      · intro hoffered
        exact honly candidate hoffered.1 hoffered.2
      · intro hsame
        exact hsame ▸ ⟨hcandidate.offered, hcandidate.implements⟩
    · rw [← hbinding, ← havailable]

/-- Services are opened for all capabilities if each has exactly one implementation. -/
theorem forall_openService_iff :
    (∀ placed ∈ placement.entries, ∀ wanted ∈ (catalog.deviceAttachments placed.1).entries,
      ∃ service, catalog.openService placed.1 placed.2
        (catalog.deviceAttachments placed.2).values wanted = .ok service) ↔
    catalog.Implemented placement := by
  have hone : ∀ {device place attr wanted}, (∃ service,
      catalog.openService device place (catalog.deviceAttachments place).values (attr, wanted) =
        .ok service) ↔
      ∃! implementation, implementation ∈ (catalog.deviceAttachments place).values ∧
        catalog.isSubtype (catalog.attachment implementation).capability
          (catalog.attachment wanted).capability := by
    intro device place attr wanted
    simp only [openService_eq_ok_iff, implementation_eq_ok_iff (nodup_deviceAttachments _ _)]
    constructor
    · intro hopened
      obtain ⟨service, hfound, -⟩ := hopened
      exact ⟨service.implementation, (hfound _).mpr rfl,
        fun other hother => (hfound other).mp hother⟩
    · intro hunique
      obtain ⟨only, honly, hrivals⟩ := hunique
      refine ⟨⟨device, attr, wanted, only, place, none, none⟩, fun candidate => ?_, rfl⟩
      exact ⟨hrivals candidate, fun hsame => hsame ▸ honly⟩
  simp only [Implemented, Prod.forall, ← SortedMap.get?_eq_some_iff, hone]

/-! ## Bindings -/

theorem activeBinding_fresh (container : ContainerId) (device : DeviceId) (attr : String) :
    ((Session.activeBinding catalog container device attr).run Session.fresh).1 =
      catalog.activeBinding container device attr :=
  (Session.answers_activeBinding container device attr _ (Session.faithfulWith_fresh catalog)).1

/-- The check of both bindings gives exactly the one that they agree on. -/
theorem agreedBinding_eq_ok_iff {wanted own effective : Option Binding} :
    catalog.agreedBinding placement service wanted own = .ok effective ↔
      placement.Agrees wanted own effective := by
  cases wanted with
  | none => simp [agreedBinding, Placement.Agrees, eq_comm]
  | some wanted =>
    rw [agreedBinding, Placement.Agrees]
    cases placement.get? wanted.target with
    | none => simp
    | some target =>
      cases own with
      | none => simp [eq_comm]
      | some own =>
        by_cases hsame : own = ⟨wanted.logicalDevice, target⟩
        · simp [hsame, eq_comm]
        · simp [hsame]

/-- Settling a binding succeeds exactly with the one in effect. -/
theorem settleBinding_eq_ok_iff {scenario setup : ContainerId} {settled : Service} :
    catalog.settleBinding scenario setup placement service = .ok settled ↔
      ∃ effective, catalog.BindsTo scenario setup placement service effective ∧
        settled = { service with binding := effective } := by
  simp only [BindsTo, activeBinding_fresh, ← @agreedBinding_eq_ok_iff catalog placement service]
  rw [settleBinding]
  cases catalog.agreedBinding placement service
      (catalog.activeBinding scenario service.scenarioDevice service.attr)
      (catalog.activeBinding setup service.device
        (catalog.attachment service.implementation).attr) with
  | error reason => simp
  | ok effective =>
    change Except.ok { service with binding := effective } = Except.ok settled ↔ _
    simp [eq_comm]

/-! ## Bound devices -/

theorem implementsAll_eq_ok_iff {device : DeviceId} {offered asked : List AttachmentId} :
    catalog.implementsAll device offered asked = .ok () ↔
      ∀ attachment ∈ asked, ∃ candidate ∈ offered,
        catalog.isSubtype (catalog.attachment candidate).capability
          (catalog.attachment attachment).capability := by
  rw [implementsAll, forM_eq_ok_iff]
  apply forall₂_congr
  intro attachment _
  have hany : (offered.any fun candidate =>
      catalog.implements candidate (catalog.attachment attachment).capability) = true ↔
        ∃ candidate ∈ offered, catalog.isSubtype (catalog.attachment candidate).capability
          (catalog.attachment attachment).capability :=
    List.any_eq_true
  rw [← hany]
  dsimp only
  split
  · simp [*]
  · simp [*]

/-- A bound device passes if it offers what the logical device asks for. -/
theorem checkBoundDevice_eq_ok_iff {binding : Binding} (hbinding : service.binding = some binding)
    (hvisible : ((catalog.visibleLogicalDevices
      (catalog.attachment service.implementation).capability).get?
        binding.logicalDevice).isSome) :
    catalog.checkBoundDevice service = .ok () ↔ catalog.Equips service binding := by
  obtain ⟨logicalDevice, hlogicalDevice⟩ := Option.isSome_iff_exists.mp hvisible
  rw [checkBoundDevice, hbinding, Equips]
  simp only [hlogicalDevice, implementsAll_eq_ok_iff, Option.some.injEq, exists_eq_left']

end LabMatch.Catalog
