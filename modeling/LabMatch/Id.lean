import LabMatch.Ordered.Key

/-!
# Identifiers

Every family of declared entities is numbered on its own, from zero, in the
order of declaration.  An identifier is such a position together with its
family, so a device can never be taken for a container.
-/

namespace LabMatch

inductive Family
  | container
  | device
  | capability
  | logicalDevice
  | attachment
deriving DecidableEq

def Family.label : Family → String
  | .container => "container"
  | .device => "device"
  | .capability => "capability"
  | .logicalDevice => "logical device"
  | .attachment => "capability instance"

/-- The tag an identifier of the family is written with. -/
def Family.tag : Family → String
  | .container => "container"
  | .device => "device"
  | .capability => "capability"
  | .logicalDevice => "logical-device"
  | .attachment => "instance"

/-- Position of an entity among those of its family. -/
structure Id (family : Family) where
  index : Nat
deriving DecidableEq, Inhabited

abbrev ContainerId := Id .container
abbrev DeviceId := Id .device
abbrev CapabilityId := Id .capability
abbrev LogicalDeviceId := Id .logicalDevice
abbrev AttachmentId := Id .attachment

namespace Id

variable {family : Family}

/-- Identifiers are ordered by declaration. -/
instance : LT (Id family) := ⟨fun left right => left.index < right.index⟩

instance : DecidableLT (Id family) := fun left right =>
  inferInstanceAs (Decidable (left.index < right.index))

instance : KeyOrder (Id family) where
  irrefl key := Nat.lt_irrefl key.index
  trans := Nat.lt_trans
  connected {left right} hleft hright := by
    cases left
    cases right
    exact congrArg Id.mk (Nat.le_antisymm (Nat.le_of_not_lt hright) (Nat.le_of_not_lt hleft))

/-- Written form, such as `device#3`. -/
def text (id : Id family) : String := family.tag ++ "#" ++ toString id.index

end Id

end LabMatch
