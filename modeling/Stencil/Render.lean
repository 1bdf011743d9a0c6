import Stencil.Render.Block

/-!
Rendering.

The nodes of a template are rendered from left to right, so that what is set or defined is there for everything
that follows. Branches of blocks, includes, components and markup from helpers are rendered on the next level of
nesting. The number of levels is fixed when a render starts; rendering is recursion on the levels that are left,
which is why it ends whatever templates include each other.
-/

namespace Stencil

open Template

namespace Render

variable {m : Type → Type} [Monad m]

/-- The text of a node. -/
def node (env : Environment) (inner : Option (Layer m)) (template : Template) : Node → Render m String
  | .text s => return s
  | .expression call span => recover template span (Expand.expression env inner call)
  | .block call body inverse _ span => recover template span (Expand.block env inner ⟨template, body, inverse⟩ call)
  | .invalid defect => do
    warn defect.message
    return inlineReport defect.message

/-- The text of nodes, on the level above `inner`. -/
def layer (env : Environment) (inner : Option (Layer m)) (template : Template) (nodes : List Node) : Render m String :=
  return String.join (← nodes.mapM (node env inner template))

/-- The text of nodes with so many levels of nesting below them. -/
def nodes (env : Environment) : Nat → Template → List Node → Render m String
  | 0, template, list => layer env none template list
  | levels + 1, template, list => layer env (some (nodes env levels)) template list

/-- The level below, when there are so many. -/
def below (env : Environment) : Nat → Option (Layer m)
  | 0 => none
  | levels + 1 => some (nodes env levels)

theorem nodes_eq_layer (env : Environment) (levels : Nat) :
    (nodes env levels : Layer m) = layer env (below env levels) := by
  cases levels <;> rfl

/-- The text of a template that stands `depth` levels deep already. -/
def template (env : Environment) (depth : Nat) (template : Template) : Render m String :=
  nodes env (env.maxDepth - depth) template template.nodes

/-- Whether a node is text of blanks only. -/
def isBlankText : Node → Bool
  | .text s => (Text.trim s.toList).isEmpty
  | _ => false

/-- The value of a template: that of its expression when there is nothing else but blanks around it, and its
text otherwise. -/
def value (env : Environment) (t : Template) : Render m Value := do
  match t.nodes.filter (! isBlankText ·) with
  | [.expression call span] =>
    match ← (Expand.call env (below env env.maxDepth) call).run with
    | .ok outcome => return outcome.value
    | .error e => return .string (← report t span e)
  | _ => return .string (← template env 0 t)

end Render

end Stencil
