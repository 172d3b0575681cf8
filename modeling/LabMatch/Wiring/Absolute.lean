import LabMatch.Session.Basic

/-!
# Absolute wiring of a container

The absolute wiring holds what is connected before any capability is
considered.  A container without devices of its own inherits the wiring of its
parent.  One that declares devices again but no links takes over the parent's
links, moved to the devices of the same names.  Every other container has
exactly the links declared on its devices.
-/

namespace LabMatch

/-- The connection of a declared link, one-way if the link is. -/
def DeclaredLink.wired (link : DeclaredLink) (span : Span) : Connection :=
  if link.oneWay then link.connection.withAnchor ⟨span, true⟩ else link.connection

namespace Catalog

variable (catalog : Catalog)

/-- The links declared on a device, each with its endpoints. -/
def declaredLinks (device : DeviceId) : List (Span × Connection) :=
  (catalog.device device).links.map fun link =>
    let span : Span := ⟨⟨device, link.node⟩, ⟨link.peer, link.peerNode⟩⟩
    (span, link.wired span)

def ownWiring (container : ContainerId) : Wiring :=
  ((catalog.container container).devices.flatMap catalog.declaredLinks).foldl
    (fun wiring link => wiring.connect link.1 link.2) Wiring.empty

def declaresLinks (container : ContainerId) : Bool :=
  (catalog.container container).devices.any fun device =>
    !(catalog.device device).links.isEmpty

/-- The wiring moved to the devices of the same names among the given ones. -/
def movedWiring (wiring : Wiring) (devices : List DeviceId) : Wiring :=
  wiring.rename fun device =>
    devices.find? fun candidate =>
      (catalog.device candidate).name == (catalog.device device).name

/-- What is said when a container takes over the links of its parent. -/
def takeoverWarnings (container : ContainerId) (inherited : Wiring) : List Warning :=
  if inherited.isEmpty then []
  else [⟨(catalog.container container).name,
    "re-declares devices without connections; copying " ++ toString (inherited.size / 2)
      ++ " parent connection(s) onto same-named devices"⟩]

end Catalog

namespace Session

/-- The absolute wiring of a container. -/
def absoluteWiring (catalog : Catalog) (container : ContainerId) : StateM Session Wiring := do
  let notes ← visitContainer container
  match notes.absolute with
  | some (wiring, _) => return wiring
  | none =>
    let inherited ← match (catalog.container container).parents.head? with
      | some parent =>
        if parent.index < container.index then some <$> absoluteWiring catalog parent
        else pure none
      | none => pure none
    let (wiring, warnings) ← match inherited with
      | none => pure (catalog.ownWiring container, [])
      | some inherited =>
        if (catalog.container container).devices.isEmpty then pure (inherited, [])
        else if catalog.declaresLinks container then pure (catalog.ownWiring container, [])
        else do
          let devices ← devicesOf catalog container
          pure (catalog.movedWiring inherited devices,
            catalog.takeoverWarnings container inherited)
    noteContainer container fun notes => { notes with absolute := some (wiring, warnings) }
    return wiring
termination_by container.index

end Session

end LabMatch
