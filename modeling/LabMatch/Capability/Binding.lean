import LabMatch.Session.Basic

/-!
# Active bindings

The binding in effect for an attribute of a device is the nearest one along the
ancestry of the device.  A binding inherited from another container targets the
visible device of the same name, if there is one.
-/

namespace LabMatch

/-- The binding declared nearest to the device under the attribute. -/
def Catalog.declaredBinding? (catalog : Catalog) (device : DeviceId) (attr : String) :
    Option Binding :=
  (catalog.ancestry device).findSome? fun id =>
    (((catalog.device id).attachments.map catalog.attachment).find? fun attachment =>
      attachment.attr == attr).bind Attachment.binding

/-- The binding in effect for an attribute of a device within a container. -/
def Session.activeBinding (catalog : Catalog) (container : ContainerId) (device : DeviceId)
    (attr : String) : StateM Session (Option Binding) := do
  match catalog.declaredBinding? device attr with
  | none => return none
  | some declared =>
    let sameName ← deviceNamed? catalog container (catalog.device declared.target).name
    return some { declared with target := sameName.getD declared.target }

end LabMatch
