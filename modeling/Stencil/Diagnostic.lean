/-!
Diagnostics.

What goes wrong in a render is shown in its place in the output and noted here as well, in the order in which it
happened.
-/

namespace Stencil

/-- How bad something is. -/
inductive Severity where
  | warning
  | error
  deriving DecidableEq, Repr

/-- The word for a severity. -/
def Severity.text : Severity → String
  | .warning => "warning"
  | .error => "error"

/-- Something that went wrong. -/
structure Diagnostic where
  severity : Severity
  message : String
  deriving DecidableEq, Repr

/-- Everything that went wrong, first things first. -/
abbrev Diagnostics := Array Diagnostic

namespace Diagnostics

/-- The diagnostics with a warning at their end. -/
def warn (ds : Diagnostics) (message : String) : Diagnostics := ds.push ⟨.warning, message⟩

/-- The diagnostics with an error at their end. -/
def error (ds : Diagnostics) (message : String) : Diagnostics := ds.push ⟨.error, message⟩

/-- Whether anything was worse than a warning. -/
def hasErrors (ds : Diagnostics) : Bool := ds.any (·.severity == .error)

end Diagnostics

end Stencil
