import LabMatch.Id

/-!
# Refused declarations

Why a declaration is refused.  Entities are named by their paths, so that a
message can be understood by whoever wrote the declarations.
-/

namespace LabMatch

inductive NamedThing
  | scenario
  | setup
  | device
  | capability
  | logicalDevice
  | variant
  | attr
deriving DecidableEq

def NamedThing.label : NamedThing → String
  | .scenario => "scenario"
  | .setup => "setup"
  | .device => "device"
  | .capability => "capability"
  | .logicalDevice => "logical device"
  | .variant => "variant"
  | .attr => "capability attribute"

inductive DeclarationError
  /-- A scenario specialises a setup, or the other way round. -/
  | kindMismatch (child parent : String)
  /-- A parent was not declared before its child. -/
  | parentOrder (child parent : String)
  | duplicateName (thing : NamedThing) (name scope : String)
  | connectionAcrossContainers (source target : String)
  | connectionToItself (device : String)
  | bindingAcrossContainers (attachment target : String)
  | bindingToItself (attachment : String)
  | bindingOnLogicalDevice (attachment : String)
  | unknownLogicalDevice (capability name : String)
  /-- An identifier that was never handed out. -/
  | unknownId (family : Family) (index : Nat)
  | emptyNodeName (device : String)
deriving DecidableEq

def DeclarationError.message : DeclarationError → String
  | .kindMismatch child parent =>
    child ++ " cannot specialize " ++ parent
      ++ ": scenarios only specialize scenarios and setups only setups"
  | .parentOrder child parent =>
    child ++ " cannot specialize " ++ parent ++ ": the parent is declared after the child"
  | .duplicateName thing name scope =>
    "duplicate " ++ thing.label ++ " `" ++ name ++ "` in " ++ scope
  | .connectionAcrossContainers source target =>
    "cannot connect " ++ source ++ " with " ++ target
      ++ ": devices belong to different containers"
  | .connectionToItself device => "cannot connect " ++ device ++ " with itself"
  | .bindingAcrossContainers attachment target =>
    "cannot bind " ++ attachment ++ " to " ++ target
      ++ ": devices belong to different containers"
  | .bindingToItself attachment => "cannot bind " ++ attachment ++ " to its own device"
  | .bindingOnLogicalDevice attachment =>
    attachment ++ " belongs to a logical device and cannot carry a binding"
  | .unknownLogicalDevice capability name =>
    "capability `" ++ capability ++ "` has no logical device named `" ++ name ++ "`"
  | .unknownId family index =>
    "unknown " ++ family.label ++ " id " ++ family.tag ++ "#" ++ toString index
  | .emptyNodeName device => "empty node name on " ++ device

end LabMatch
