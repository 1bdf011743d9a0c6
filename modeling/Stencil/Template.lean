import Stencil.Template.Comment
import Stencil.Template.Nesting

/-!
Templates.

A template is a source without comments and the tree of nodes read from it. The spans of the nodes point into
that source. Parsing never fails; what makes no sense becomes a defect in the tree.
-/

namespace Stencil

open Template

/-- A parsed template. -/
structure Template where
  /-- The source without comments, into which the spans point. -/
  source : String
  nodes : List Node

namespace Template

/-- The template of a source. -/
def parse (text : String) : Template :=
  let source := String.ofList (Comment.strip text.toList)
  ⟨source, nodesOfTokens (tokens source)⟩

/-- Some of a template's nodes as a template over the same source. -/
def fragment (template : Template) (nodes : List Node) : Template := { template with nodes }

/-- Every defect in the template, in the order of the source. -/
def defects (template : Template) : List Defect := listDefects template.nodes

end Template

end Stencil
