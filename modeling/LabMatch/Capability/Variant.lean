import LabMatch.Capability.Choice
import LabMatch.Session.Basic
import LabMatch.Session.Error

/-!
# Variants of a method

A variant applies when it has a condition for the active logical device that
lies within the connection available to it.  Of the variants that apply, the
one that matched the most specific connection is chosen.  A type without an
applicable variant leaves the choice to its parent.
-/

namespace LabMatch

/-- The conditions of a variant that hold for the logical device. -/
def Variant.holding (variant : Variant) (logicalDevice : String) (available : Connection) :
    List Connection :=
  (variant.conditions.filter fun condition =>
    condition.logicalDevice == logicalDevice && condition.connection.within available).map
      Condition.connection

/-- The variants that apply, each with what it matched. -/
def applicableVariants (logicalDevice : String) (available : Connection) :
    List Variant → Except ConnectionError (List (String × Connection))
  | [] => .ok []
  | variant :: others =>
    match variant.holding logicalDevice available with
    | [] => applicableVariants logicalDevice available others
    | holding => do
      let matched ← Connection.anyOf holding
      let others ← applicableVariants logicalDevice available others
      return (variant.label, matched) :: others

namespace Session

/-- The label of the variant of a method that applies when the logical device is
active and the connection is available to it. -/
def variantFor (catalog : Catalog) (capability : CapabilityId) (method logicalDevice : String)
    (available : Connection) : Resolving ResolveError String := do
  let question : VariantQuestion := ⟨method, logicalDevice, available.signature⟩
  let notes ← visitCapability capability
  match notes.variants.find? fun noted => noted.1 == question with
  | some noted => return noted.2
  | none =>
    let entry := catalog.capability capability
    let unclear := ResolveError.unclearVariant entry.name method logicalDevice
    let candidates ←
      ((applicableVariants logicalDevice available (entry.variantsOf method)).mapError
        ResolveError.connection : Except _ _)
    let label ← match Choice.mostSpecific candidates with
      | .one label _ => pure label
      | .ambiguous labels => throw (unclear labels)
      | .nothing =>
        match entry.parents.head? with
        | some parent =>
          if parent.index < capability.index then
            variantFor catalog parent method logicalDevice available
          else throw (unclear [])
        | none => throw (unclear [])
    noteCapability capability fun notes =>
      { notes with variants := notes.variants ++ [(question, label)] }
    return label
termination_by capability.index

end Session

end LabMatch
