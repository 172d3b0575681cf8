import LabMatch.Capability.Binding
import LabMatch.Capability.Requirement
import LabMatch.Wiring.Absolute

/-!
# Reduced wiring of a container

The absolute wiring is split into single links.  Every bound capability then
drops the links between its device and its bound device that its requirement
is not compatible with: links that neither lie within the requirement nor
contain it.  At most one node pair of the two devices may stay usable, and at
least one has to.
-/

namespace LabMatch

/-- What a bound capability asks for between two devices. -/
structure PairDemand where
  capability : String
  source : DeviceId
  target : DeviceId
  requirement : Connection

namespace Wiring

/-- The links of a node pair that a requirement is compatible with. -/
def usable (wiring : Wiring) (requirement : Connection) (span : Span) : List Connection :=
  (wiring.get span).filter fun link => link.compatible requirement

/-- Drops what the requirement is not compatible with from one node pair.  The
answer tells whether nothing is left of a node pair that had links. -/
def restrict (wiring : Wiring) (requirement : Connection) (span : Span) : Wiring × Bool :=
  let kept := wiring.usable requirement span
  if kept.length = (wiring.get span).length then (wiring, false)
  else (wiring.putBoth span kept, kept.isEmpty)

end Wiring

namespace Catalog

variable (catalog : Catalog)

/-- What is said when all links of a node pair are dropped. -/
def removalWarning (demand : PairDemand) (span : Span) : Warning :=
  ⟨catalog.devicePath demand.source ++ " <-> " ++ catalog.devicePath demand.target,
    "connection " ++ span.source.text ++ " <-> " ++ span.target.text
      ++ " removed: incompatible with `" ++ demand.requirement.text ++ "` required by "
      ++ demand.capability⟩

/-- Drops all links between the two devices that the demand is not compatible
with. -/
def reducePair (wiring : Wiring) (demand : PairDemand) :
    Except ResolveError (Wiring × List Warning) :=
  let spans := wiring.nodePairs demand.source demand.target
  if spans.isEmpty then .ok (wiring, [])
  else
    let source := catalog.devicePath demand.source
    let target := catalog.devicePath demand.target
    let matching := (spans.filter fun span =>
      !(wiring.usable demand.requirement span).isEmpty).length
    if 1 < matching then
      .error (.unclearConnection demand.capability source target demand.requirement.text matching)
    else if matching = 0 then
      .error (.unsuitableConnection demand.capability source target demand.requirement.text)
    else
      .ok (spans.foldl
        (fun reduced span =>
          let (wiring, removed) := reduced.1.restrict demand.requirement span
          (wiring, if removed then reduced.2 ++ [catalog.removalWarning demand span]
            else reduced.2))
        (wiring, []))

end Catalog

namespace Session

/-- Reduces the wiring by one attachment of a device, if it is bound. -/
def reduceByAttachment (catalog : Catalog) (container : ContainerId) (device : DeviceId)
    (reduced : ReducedWiring) (attachment : String × AttachmentId) :
    Resolving ResolveError ReducedWiring := do
  match ← activeBinding catalog container device attachment.1 with
  | none => return reduced
  | some binding =>
    let requirements ← requirementsOf catalog (catalog.attachment attachment.2).capability
    match requirements.get? binding.logicalDevice with
    | none => return reduced
    | some requirement =>
      let demand : PairDemand :=
        ⟨catalog.devicePath device ++ "." ++ attachment.1, device, binding.target, requirement⟩
      let (links, warnings) ← (catalog.reducePair reduced.links demand : Except _ _)
      return ⟨links, reduced.warnings ++ warnings⟩

def reduceByDevice (catalog : Catalog) (container : ContainerId) (reduced : ReducedWiring)
    (device : DeviceId) : Resolving ResolveError ReducedWiring := do
  let attachments ← attachmentsOf catalog device
  attachments.entries.foldlM (reduceByAttachment catalog container device) reduced

/-- The reduced wiring of a container. -/
def reducedWiring (catalog : Catalog) (container : ContainerId) :
    Resolving ResolveError ReducedWiring := do
  let notes ← visitContainer container
  match notes.reduced with
  | some reduced => return reduced
  | none =>
    let absolute ← absoluteWiring catalog container
    let links ← (absolute.expand.mapError ResolveError.connection : Except _ _)
    let notes ← visitContainer container
    let warnings := (notes.absolute.map Prod.snd).getD []
    let devices ← devicesOf catalog container
    let reduced ← devices.foldlM (reduceByDevice catalog container) ⟨links, warnings⟩
    noteContainer container fun notes => { notes with reduced := some reduced }
    return reduced

end Session

end LabMatch
