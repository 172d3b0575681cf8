import LabMatch.Proofs.Matching.Outcome
import LabMatch.Proofs.Wiring.Grown

/-!
# Later declarations leave pairs alone

A pair is matched by looking up what is visible on its two containers, what is attached
and bound there, and what the capability types require.  All of this stays as it was when
a catalogue grows, although the new entities may specialise the old ones.  So every check
of a placement gives the same result, and the pair the same outcome: the applicable
placements with their deliveries and services, and the discarded ones with the reasons.
-/

namespace LabMatch

namespace Catalog

variable {catalog later : Catalog} {scenario setup : ContainerId} {placement : Placement}
variable {service : Service}

/-- The devices and attachments of the service, and the device that it is bound to, belong
to the catalogue. -/
structure HasParts (catalog : Catalog) (service : Service) : Prop where
  scenarioDevice : catalog.Has service.scenarioDevice
  scenarioAttachment : catalog.Has service.scenarioAttachment
  device : catalog.Has service.device
  implementation : catalog.Has service.implementation
  bound : ∀ binding, service.binding = some binding → catalog.Has binding.target

namespace Declared

variable (hdeclared : Declared catalog)

include hdeclared

theorem has_of_mem_offered {device : DeviceId} {attachment : AttachmentId}
    (hoffered : attachment ∈ (catalog.deviceAttachments device).values) :
    catalog.Has attachment := by
  obtain ⟨found, hfound, rfl⟩ := List.mem_map.mp hoffered
  exact hdeclared.has_of_mem_deviceAttachments hfound

theorem has_of_mem_asked {logicalDevice : LogicalDeviceId} {attachment : AttachmentId}
    (hasked : attachment ∈ (catalog.logicalDeviceAttachments logicalDevice).values) :
    catalog.Has attachment := by
  obtain ⟨found, hfound, rfl⟩ := List.mem_map.mp hasked
  exact hdeclared.has_of_mem_logicalDeviceAttachments hfound

variable (hplaces : placement.Places (catalog.visibleDevices scenario)
  (catalog.visibleDevices setup))

include hplaces

theorem has_of_placed {device place : DeviceId} (hplaced : placement.get? device = some place) :
    catalog.Has device ∧ catalog.Has place := by
  have hdevice := (hplaces.total device).mp (Option.isSome_iff_exists.mpr ⟨place, hplaced⟩)
  exact ⟨hdeclared.has_of_mem_visibleDevices hdevice,
    hdeclared.has_of_mem_visibleDevices (hplaces.within device place hplaced)⟩

/-- A binding in effect leads to a device of the catalogue. -/
theorem has_of_bindsTo {binding : Binding}
    (hbinds : catalog.BindsTo scenario setup placement service (some binding)) :
    catalog.Has binding.target := by
  rcases bindsTo_some_cases hbinds with ⟨wanted, -, hplaced, -⟩ | ⟨-, hown⟩
  · exact (hdeclared.has_of_placed hplaces hplaced).2
  · exact hdeclared.has_of_activeBinding hown

theorem hasParts_of_candidate (hcandidate : catalog.Candidate placement service)
    (hbound : ∀ binding, service.binding = some binding → catalog.Has binding.target) :
    catalog.HasParts service where
  scenarioDevice := (hdeclared.has_of_placed hplaces hcandidate.placed).1
  scenarioAttachment := hdeclared.has_of_mem_deviceAttachments
    ((SortedMap.get?_eq_some_iff _ _ _).mp hcandidate.wanted)
  device := (hdeclared.has_of_placed hplaces hcandidate.placed).2
  implementation := hdeclared.has_of_mem_offered hcandidate.offered
  bound := hbound

theorem hasParts_of_opens (hopens : catalog.Opens placement service) :
    catalog.HasParts service := by
  obtain ⟨hcandidate, -, hunbound, -⟩ := opens_iff.mp hopens
  apply hdeclared.hasParts_of_candidate hplaces hcandidate
  intro binding hbinding
  rw [hunbound] at hbinding
  cases hbinding

theorem hasParts_of_settled (hsettled : catalog.Settled scenario setup placement service) :
    catalog.HasParts service := by
  apply hdeclared.hasParts_of_candidate hplaces hsettled.candidate
  intro binding hbinding
  exact hdeclared.has_of_bindsTo hplaces (hbinding ▸ hsettled.binds)

end Declared

namespace GrowsInto

variable (hgrows : catalog.GrowsInto later) (hdeclared : Declared catalog)

include hgrows hdeclared

/-! ## Implementations -/

theorem implements_eq {attachment : AttachmentId} (hattachment : catalog.Has attachment)
    (capability : CapabilityId) :
    later.implements attachment capability = catalog.implements attachment capability := by
  rw [implements, implements, hgrows.attachment_eq hattachment,
    hgrows.isSubtype_eq (hdeclared.has_capability hattachment)]

theorem implementation_eq {device : DeviceId} (hdevice : catalog.Has device)
    {offered : List AttachmentId} (hoffered : ∀ attachment ∈ offered, catalog.Has attachment)
    {capability : CapabilityId} (hcapability : catalog.Has capability) :
    later.implementation device offered capability =
      catalog.implementation device offered capability := by
  have hfilter : (offered.filter fun attachment => later.implements attachment capability) =
      offered.filter fun attachment => catalog.implements attachment capability :=
    List.filter_congr fun attachment hattachment =>
      hgrows.implements_eq hdeclared (hoffered attachment hattachment) capability
  have hpaths : (offered.filter fun attachment => catalog.implements attachment capability).map
      later.attachmentPath =
        (offered.filter fun attachment => catalog.implements attachment capability).map
          catalog.attachmentPath :=
    List.map_congr_left fun attachment hattachment =>
      hgrows.attachmentPath_eq hdeclared (hoffered attachment (List.mem_of_mem_filter hattachment))
  rw [implementation, implementation, hfilter, hgrows.devicePath_eq hdeclared hdevice,
    hgrows.capability_eq hcapability]
  split
  · rfl
  · rfl
  · rw [hpaths]

theorem openServices_eq {placed : DeviceId × DeviceId} (hdevice : catalog.Has placed.1)
    (hplace : catalog.Has placed.2) :
    later.openServices placed = catalog.openServices placed := by
  rw [openServices, openServices, hgrows.deviceAttachments_eq hdeclared hdevice,
    hgrows.deviceAttachments_eq hdeclared hplace]
  apply mapM_congr
  intro wanted hwanted
  have hattachment := hdeclared.has_of_mem_deviceAttachments hwanted
  rw [openService, openService, hgrows.attachment_eq hattachment,
    hgrows.implementation_eq hdeclared hplace
      (fun attachment hoffered => hdeclared.has_of_mem_offered hoffered)
      (hdeclared.has_capability hattachment)]

/-! ## Bindings -/

theorem bindingText_eq {binding : Binding} (htarget : catalog.Has binding.target) :
    later.bindingText binding = catalog.bindingText binding := by
  rw [bindingText, bindingText, hgrows.devicePath_eq hdeclared htarget]

theorem agreedBinding_eq (hservice : catalog.HasParts service)
    (hplaced : ∀ device place, placement.get? device = some place → catalog.Has place)
    (wanted : Option Binding) {own : Option Binding}
    (hown : ∀ binding, own = some binding → catalog.Has binding.target) :
    later.agreedBinding placement service wanted own =
      catalog.agreedBinding placement service wanted own := by
  cases wanted with
  | none => rfl
  | some wanted =>
    rw [agreedBinding, agreedBinding,
      hgrows.attachmentPath_eq hdeclared hservice.scenarioAttachment]
    cases hplace : placement.get? wanted.target with
    | none => rfl
    | some target =>
      cases own with
      | none => rfl
      | some own =>
        have hagreed : catalog.Has (Binding.mk wanted.logicalDevice target).target :=
          hplaced _ _ hplace
        dsimp only
        rw [hgrows.bindingText_eq hdeclared (hown own rfl),
          hgrows.bindingText_eq hdeclared hagreed,
          hgrows.attachmentPath_eq hdeclared hservice.implementation]

theorem settleBinding_eq (hscenario : catalog.Has scenario) (hsetup : catalog.Has setup)
    (hservice : catalog.HasParts service)
    (hplaced : ∀ device place, placement.get? device = some place → catalog.Has place) :
    later.settleBinding scenario setup placement service =
      catalog.settleBinding scenario setup placement service := by
  rw [settleBinding, settleBinding,
    hgrows.activeBinding_eq hdeclared hscenario hservice.scenarioDevice,
    hgrows.attachment_eq hservice.implementation,
    hgrows.activeBinding_eq hdeclared hsetup hservice.device,
    hgrows.agreedBinding_eq hdeclared hservice hplaced _ fun binding hown =>
      hdeclared.has_of_activeBinding hown]

/-! ## Bound devices -/

theorem implementsAll_eq {device : DeviceId} (hdevice : catalog.Has device)
    {offered asked : List AttachmentId} (hoffered : ∀ attachment ∈ offered, catalog.Has attachment)
    (hasked : ∀ attachment ∈ asked, catalog.Has attachment) :
    later.implementsAll device offered asked = catalog.implementsAll device offered asked := by
  rw [implementsAll, implementsAll]
  apply forM_congr
  intro attachment hattachment
  have hany : ∀ capability,
      (offered.any fun candidate => later.implements candidate capability) =
        offered.any fun candidate => catalog.implements candidate capability :=
    fun capability => any_congr fun candidate hcandidate =>
      hgrows.implements_eq hdeclared (hoffered candidate hcandidate) capability
  dsimp only
  rw [hgrows.attachment_eq (hasked attachment hattachment), hany,
    hgrows.devicePath_eq hdeclared hdevice,
    hgrows.capability_eq (hdeclared.has_capability (hasked attachment hattachment))]

theorem checkBoundDevice_eq (hservice : catalog.HasParts service) :
    later.checkBoundDevice service = catalog.checkBoundDevice service := by
  have hcapability := hdeclared.has_capability hservice.implementation
  rw [checkBoundDevice, checkBoundDevice]
  cases hbinding : service.binding with
  | none => rfl
  | some binding =>
    have htarget := hservice.bound binding hbinding
    dsimp only
    rw [hgrows.attachment_eq hservice.implementation,
      hgrows.visibleLogicalDevices_eq hdeclared hcapability]
    cases hvisible : (catalog.visibleLogicalDevices
        (catalog.attachment service.implementation).capability).get? binding.logicalDevice with
    | none => rfl
    | some logicalDevice =>
      have hlogicalDevice : catalog.Has logicalDevice :=
        hdeclared.has_of_mem_visibleLogicalDevices ((SortedMap.get?_eq_some_iff _ _ _).mp hvisible)
      dsimp only
      rw [hgrows.deviceAttachments_eq hdeclared htarget,
        hgrows.logicalDeviceAttachments_eq hdeclared hlogicalDevice]
      apply hgrows.implementsAll_eq hdeclared htarget
      · exact fun attachment hoffered => hdeclared.has_of_mem_offered hoffered
      · exact fun attachment hasked => hdeclared.has_of_mem_asked hasked

/-! ## Deliveries -/

/-- A delivery only looks at the catalogue to write the endpoints that it lacks a route
between. -/
theorem deliver_eq (setupWiring : Wiring) {entry : Span × List Connection} {ends : Span}
    {bothWays : Bool} (hends : deliveryEnds entry.1 entry.2 = (ends, bothWays))
    (hsource : catalog.Has ends.source.device) (htarget : catalog.Has ends.target.device) :
    later.deliver placement setupWiring entry = catalog.deliver placement setupWiring entry := by
  rw [deliver, deliver, hends]
  dsimp only
  rw [hgrows.endpointPath_eq hdeclared hsource, hgrows.endpointPath_eq hdeclared htarget]

theorem deliverAll_eq {scenarioWiring : Wiring}
    (hwithin : scenarioWiring.IsWithin (catalog.visibleDevices scenario))
    (hshares : scenarioWiring.SharesAnchors) (setupWiring : Wiring) :
    later.deliverAll placement scenarioWiring setupWiring =
      catalog.deliverAll placement scenarioWiring setupWiring := by
  rw [Catalog.deliverAll_eq, Catalog.deliverAll_eq]
  congr 1
  apply mapM_congr
  intro entry hentry
  obtain ⟨hlinks, hne, -⟩ := Wiring.of_mem_linkEntries hentry
  obtain ⟨⟨ends, bothWays⟩, hends⟩ : ∃ ends, deliveryEnds entry.1 entry.2 = ends := ⟨_, rfl⟩
  obtain ⟨hlinked, -⟩ := Wiring.linked_deliveryEnds hwithin.isMirrored hshares hne (hlinks ▸ hends)
  apply hgrows.deliver_eq hdeclared setupWiring hends
  · exact hdeclared.has_of_mentions hwithin (Wiring.mentions_source hlinked.1)
  · exact hdeclared.has_of_mentions hwithin (Wiring.mentions_target hlinked.1)

/-! ## Available connections -/

theorem settleAvailable_eq (setupWiring : Wiring) (deliveries : List Delivery)
    (hservice : catalog.HasParts service) :
    later.settleAvailable placement setupWiring deliveries service =
      catalog.settleAvailable placement setupWiring deliveries service := by
  rw [settleAvailable, settleAvailable]
  cases hbinding : service.binding with
  | none => rfl
  | some binding =>
    dsimp only
    rw [hgrows.attachment_eq hservice.implementation,
      hgrows.requirements_eq hdeclared (hdeclared.has_capability hservice.implementation),
      hgrows.attachmentPath_eq hdeclared hservice.implementation,
      hgrows.devicePath_eq hdeclared hservice.device,
      hgrows.devicePath_eq hdeclared (hservice.bound binding hbinding)]

/-! ## Pairs -/

section Pair

variable (hscenario : catalog.Has scenario) (hsetup : catalog.Has setup)

include hscenario hsetup

theorem checkPlacement_eq {scenarioWiring : Wiring}
    (hwithin : scenarioWiring.IsWithin (catalog.visibleDevices scenario))
    (hshares : scenarioWiring.SharesAnchors) (setupWiring : Wiring)
    (hplaces : placement.Places (catalog.visibleDevices scenario)
      (catalog.visibleDevices setup)) :
    later.checkPlacement scenario setup scenarioWiring setupWiring placement =
      catalog.checkPlacement scenario setup scenarioWiring setupWiring placement := by
  have hplaced : ∀ {device place}, placement.get? device = some place →
      catalog.Has device ∧ catalog.Has place :=
    fun hplaced => hdeclared.has_of_placed hplaces hplaced
  have hopen : placement.entries.mapM later.openServices =
      placement.entries.mapM catalog.openServices := by
    apply mapM_congr
    intro placed hmem
    obtain ⟨hdevice, hplace⟩ := hplaced ((SortedMap.get?_eq_some_iff _ _ _).mpr hmem)
    exact hgrows.openServices_eq hdeclared hdevice hplace
  rw [checkPlacement, checkPlacement, hopen,
    hgrows.deliverAll_eq hdeclared hwithin hshares setupWiring]
  -- Each check works on the services that the ones before it gave.
  apply bind_congr_of_eq_ok
  intro opened hopened
  have hsettle : opened.flatten.mapM (later.settleBinding scenario setup placement) =
      opened.flatten.mapM (catalog.settleBinding scenario setup placement) := by
    apply mapM_congr
    intro service hservice
    have hservice := hdeclared.hasParts_of_opens hplaces
      ((mem_flatten_openServices hopened).mp hservice)
    exact hgrows.settleBinding_eq hdeclared hscenario hsetup hservice
      fun _ _ hget => (hplaced hget).2
  rw [hsettle]
  apply bind_congr_of_eq_ok
  intro bound hbound
  have hparts : ∀ service ∈ bound, catalog.HasParts service := fun service hservice =>
    hdeclared.hasParts_of_settled hplaces ((mem_bound_iff hopened hbound).mp hservice)
  rw [forM_congr fun service hservice =>
    hgrows.checkBoundDevice_eq hdeclared (hparts service hservice)]
  apply bind_congr_of_eq_ok
  intro _ _
  apply bind_congr_of_eq_ok
  intro deliveries _
  rw [mapM_congr fun service hservice =>
    hgrows.settleAvailable_eq hdeclared setupWiring deliveries (hparts service hservice)]

/-- Later declarations make no difference to the reduced links of a pair. -/
theorem reducedPair_eq :
    later.reducedPair scenario setup = catalog.reducedPair scenario setup := by
  rw [reducedPair, reducedPair, hgrows.reduced_eq hdeclared hscenario,
    hgrows.reduced_eq hdeclared hsetup]

/-- Later declarations make no difference to how a pair is matched. -/
theorem matchPair_eq : later.matchPair scenario setup = catalog.matchPair scenario setup := by
  rw [matchPair, matchPair, hgrows.reducedPair_eq hdeclared hscenario hsetup]
  cases hpair : catalog.reducedPair scenario setup with
  | error reason => rfl
  | ok wirings =>
    obtain ⟨reduced, hreduced, hrest⟩ := exists_of_bind_eq_ok hpair
    obtain ⟨_, -, hwirings⟩ := exists_of_bind_eq_ok hrest
    cases hwirings
    dsimp only
    rw [hgrows.visibleDevices_eq hdeclared hscenario, hgrows.visibleDevices_eq hdeclared hsetup]
    apply List.foldl_ext
    intro outcome placement hplacement
    have hplaces := ((nodup_and_mem_iff_of_perm (List.Perm.refl _)).2 placement).mp hplacement
    rw [recordPlacement, recordPlacement,
      hgrows.checkPlacement_eq hdeclared hscenario hsetup
        (isWithin_reduced hdeclared.wellLaidOut hreduced)
        (sharesAnchors_reduced hdeclared.wellLaidOut hreduced) _ hplaces]

end Pair

end GrowsInto

end Catalog

namespace Session

open Catalog

/-- Later declarations leave pairs alone.  Declarations were tried, accepted or refused,
and others after them that add nothing to the entities there were, although they may
specialise them, carry them or be bound to them.  Whatever was asked before in either
catalogue, every earlier container has the same absolute wiring and the same reduced
wiring, with the same warnings or the same error, and every earlier pair of containers
matches with the same outcome. -/
theorem pairs_isolated_from_later_declarations {declarations continuation : List Declaration}
    (hbeyond : ∀ declaration ∈ continuation, (afterTrying declarations).IsBeyond declaration)
    (questions questions' : List Question) :
    let catalog := afterTrying declarations
    let later := afterTrying (declarations ++ continuation)
    let session := afterAsking catalog questions
    let session' := afterAsking later questions'
    (∀ container, catalog.Has container →
      ((absoluteWiring later container).run session').1 =
        ((absoluteWiring catalog container).run session).1 ∧
      ((reducedWiring later container).run.run session').1 =
        ((reducedWiring catalog container).run.run session).1) ∧
    ∀ scenario setup, catalog.Has scenario → catalog.Has setup →
      ((matchPair later scenario setup).run session').1 =
        ((matchPair catalog scenario setup).run session).1 := by
  have hgrows := growsInto_afterTrying declarations hbeyond
  have hdeclared := declared_afterTrying declarations
  intro catalog later session session'
  constructor
  · intro container hcontainer
    rw [run_afterAsking fun _ => answers_absoluteWiring container,
      run_afterAsking fun _ => answers_absoluteWiring container,
      hgrows.absolute_eq hdeclared hcontainer]
    refine ⟨rfl, ?_⟩
    have hreduced : ∀ catalog questions, ((reducedWiring catalog container).run.run
        (afterAsking catalog questions)).1 = catalog.reduced container :=
      fun _ => run_afterAsking fun _ => resolves_reducedWiring container
    rw [hreduced, hreduced, hgrows.reduced_eq hdeclared hcontainer]
  · intro scenario setup hscenario hsetup
    rw [run_afterAsking fun _ => answers_matchPair scenario setup,
      run_afterAsking fun _ => answers_matchPair scenario setup,
      hgrows.matchPair_eq hdeclared hscenario hsetup]

/-- Declarations on top of the bench and the rack: an echo is a special ping, and an annex
takes over the rack with an echoing host.  The last one is refused, since the rack has its
name already. -/
def echoDeclarations : List Declaration :=
  [.capability "Echo", .extendCapability ⟨2⟩ ⟨1⟩,
    .container .setup "Annex", .extendContainer ⟨2⟩ ⟨1⟩,
    .device ⟨2⟩ "Host", .extendDevice ⟨4⟩ ⟨2⟩, .device ⟨2⟩ "Board", .extendDevice ⟨5⟩ ⟨3⟩,
    .attach (.device ⟨4⟩) "icmp" ⟨2⟩, .bind ⟨4⟩ "peer" ⟨5⟩,
    .connect ⟨⟨4⟩, "n0"⟩ ⟨⟨5⟩, "n0"⟩ (Connection.ofTags (TagSet.ofList ["lan"])) false,
    .container .setup "Rack"]

/-- The bench and the rack match as before, although an echo and an annex were declared. -/
theorem pairs_isolated_from_echoDeclarations :
    let catalog := afterTrying benchDeclarations
    let later := afterTrying (benchDeclarations ++ echoDeclarations)
    let outcome := ((matchPair later ⟨0⟩ ⟨1⟩).run (afterAsking later [.everything])).1
    (∀ declaration ∈ echoDeclarations, catalog.IsBeyond declaration) ∧
      catalog.Has (⟨0⟩ : ContainerId) ∧ catalog.Has (⟨1⟩ : ContainerId) ∧
      later.attachments.length = catalog.attachments.length + 1 ∧
      outcome = ((matchPair catalog ⟨0⟩ ⟨1⟩).run (afterAsking catalog [])).1 ∧
      straightPlacement ∈ outcome.applicable.map Variation.placement := by
  have hbeyond : ∀ declaration ∈ echoDeclarations,
      (afterTrying benchDeclarations).IsBeyond declaration := by
    decide +kernel
  have hbench : (afterTrying benchDeclarations).Has (⟨0⟩ : ContainerId) := by decide +kernel
  have hrack : (afterTrying benchDeclarations).Has (⟨1⟩ : ContainerId) := by decide +kernel
  have hisolated := pairs_isolated_from_later_declarations hbeyond [] [.everything]
  exact ⟨hbeyond, hbench, hrack, by decide +kernel, hisolated.2 ⟨0⟩ ⟨1⟩ hbench hrack,
    by decide +kernel⟩

end Session

end LabMatch
