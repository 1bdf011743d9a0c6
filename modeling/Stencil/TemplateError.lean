import Stencil.Path
import Stencil.Text.Property

/-!
What can go wrong in a render.

No error ends a render. It is turned into a comment at the place of the construct that failed, and into a
diagnostic. What kind of error it is decides about the severity: something that was merely not found is a
warning.
-/

namespace Stencil

/-! ## 1. Errors of helpers -/

/-- Why a helper failed. -/
inductive HelperError where
  /-- The arguments are too few or of the wrong form. -/
  | invalidArguments (message : String)
  /-- Any other reason. -/
  | failed (message : String)
  deriving DecidableEq, Repr

/-- The text of the error. -/
def HelperError.message : HelperError → String
  | .invalidArguments message => message
  | .failed message => message

/-! ## 2. Errors of constructs -/

/-- Why a construct of a template could not be expanded. -/
inductive TemplateError where
  /-- The markup makes no sense. -/
  | malformed (message : String)
  /-- A block with a name that no helper has. -/
  | unknownBlock (name : String)
  /-- A call with arguments and a name that no helper has. -/
  | unknownHelper (name : String)
  /-- A component that was never defined. -/
  | componentNotFound (name : String)
  /-- A component that comes round to itself; the chain of names that leads there. -/
  | circularComponent (chain : List String)
  /-- A component declared under a name that is none. -/
  | invalidComponentName (name : String)
  /-- Too many expansions inside each other. -/
  | depthExceeded (maxDepth : Nat)
  /-- A file that could not be read. -/
  | includeNotFound (path : String)
  /-- A path that was refused. -/
  | refusedPath (error : PathError)
  /-- A helper that failed. -/
  | helper (name : String) (error : HelperError)
  deriving DecidableEq, Repr

namespace TemplateError

/-- The text of the error. -/
def message : TemplateError → String
  | .malformed message => message
  | .unknownBlock name => "unknown block helper: " ++ name
  | .unknownHelper name => "unknown helper: " ++ name
  | .componentNotFound name => "component not found: " ++ name
  | .circularComponent chain => "circular component reference: " ++ " -> ".intercalate chain
  | .invalidComponentName name => "invalid component name: " ++ Text.visiblyQuoted name
  | .depthExceeded maxDepth => "maximum render depth (" ++ toString maxDepth ++ ") exceeded"
  | .includeNotFound path => "include not found: " ++ path
  | .refusedPath error => "path rejected: " ++ error.message
  | .helper name error => "helper '" ++ name ++ "' failed: " ++ error.message

/-- Whether something was merely not found. -/
def isNotFound : TemplateError → Bool
  | .componentNotFound _ | .includeNotFound _ | .refusedPath (.notFound _) => true
  | _ => false

end TemplateError

/-! ## 3. In the output -/

/-- What stands in the output for a call with a lone parenthesis. -/
def unbalancedMarker : String := "<!-- unbalanced subexpression -->"

/-- The comment that reports an error in the output. Two hyphens would end it and are pulled apart. -/
def inlineReport (message : String) : String :=
  "<!-- template error: " ++
    .ofList (Text.replaceAll ['-', '-'] ['-', ' ', '-'] message.toList) ++ " -->"

end Stencil
