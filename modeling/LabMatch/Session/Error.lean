import LabMatch.Connection.Basic

/-!
# Failed resolutions

Why a scenario cannot be resolved against a setup, as far as it is known before
or while devices are placed.  Such a failure never ends a whole run; it becomes
the reason why a pair or a placement is discarded.
-/

namespace LabMatch

inductive ResolveError
  /-- There is not exactly one most specific variant. -/
  | unclearVariant (capability method logicalDevice : String) (candidates : List String)
  /-- Several parallel connections fit one capability. -/
  | unclearConnection (capability source target requirement : String) (matching : Nat)
  /-- Nothing between two devices serves a capability. -/
  | unsuitableConnection (capability source target requirement : String)
  | missingCapability (device capability : String)
  | ambiguousImplementation (device capability : String) (candidates : List String)
  | bindingMismatch (attachment expected found : String)
  | noRoute (source target requirement : String)
  | unbound (attachment : String)
  | unknownAttribute (device attr : String)
  | connection (error : ConnectionError)
deriving DecidableEq

def ResolveError.message : ResolveError → String
  | .unclearVariant capability method logicalDevice candidates =>
    "unclear variant for " ++ capability ++ "::" ++ method ++ " with active logical device `"
      ++ logicalDevice ++ "`: " ++ toString candidates.length ++ " candidate(s) ["
      ++ ", ".intercalate candidates ++ "]"
  | .unclearConnection capability source target requirement matching =>
    "unclear assignable connection between " ++ source ++ " and " ++ target ++ " for "
      ++ capability ++ ": " ++ toString matching ++ " parallel connections match `"
      ++ requirement ++ "`"
  | .unsuitableConnection capability source target requirement =>
    "connection between " ++ source ++ " and " ++ target ++ " cannot satisfy `" ++ requirement
      ++ "` required by " ++ capability
  | .missingCapability device capability =>
    device ++ " does not implement capability `" ++ capability ++ "`"
  | .ambiguousImplementation device capability candidates =>
    device ++ " implements capability `" ++ capability ++ "` more than once: "
      ++ ", ".intercalate candidates
  | .bindingMismatch attachment expected found =>
    "binding of " ++ attachment ++ " is `" ++ found ++ "` but the scenario requires `"
      ++ expected ++ "`"
  | .noRoute source target requirement =>
    "no route from " ++ source ++ " to " ++ target ++ " satisfies `" ++ requirement ++ "`"
  | .unbound attachment => attachment ++ " has no active binding"
  | .unknownAttribute device attr =>
    device ++ " has no capability attribute `" ++ attr ++ "`"
  | .connection error => error.message

end LabMatch
