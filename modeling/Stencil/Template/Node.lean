import Stencil.Template.Call
import Stencil.Template.Span

/-!
Template trees.

A template is a list of nodes: literal text, expressions, blocks with a body and perhaps a second branch, and
defects, which are the places where the markup made no sense. Expressions and blocks carry the call of their
tag and their place in the source.
-/

namespace Stencil.Template

/-- A place where the markup made no sense, and why. -/
structure Defect where
  message : String
  span : Span
  deriving DecidableEq, Repr, Inhabited

/-- A part of a template. -/
inductive Node where
  /-- Text that is output as it is. -/
  | text (s : String)
  /-- A tag that stands for a value. The span covers the tag. -/
  | expression (call : Call) (span : Span)
  /-- A block: what stands before its other branch, and the other branch when there is one. The first span
  covers the body alone, the second everything from the opening tag to the closing one. -/
  | block (call : Call) (body : List Node) (inverse : Option (List Node)) (bodySpan span : Span)
  /-- A defect, reported where it stands. -/
  | invalid (defect : Defect)
  deriving Inhabited

mutual

/-- The defects of a node. -/
def Node.defects : Node → List Defect
  | .invalid defect => [defect]
  | .block _ body inverse _ _ => listDefects body ++ branchDefects inverse
  | _ => []

/-- The defects of nodes, in the order of the source. -/
def listDefects : List Node → List Defect
  | [] => []
  | node :: nodes => node.defects ++ listDefects nodes

/-- The defects of a second branch. -/
def branchDefects : Option (List Node) → List Defect
  | none => []
  | some nodes => listDefects nodes

end

end Stencil.Template
