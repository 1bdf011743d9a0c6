import Stencil.Render

/-!
Rendering without a second look.

What a registered helper comes to may be markup, which is why the text of an expression is looked at once more. Nothing
else ever comes to markup. Where there are no registered helpers the second look therefore finds nothing to do, and a
render is the plain one that is written down here, in which the result of an expression is turned into text and nothing
is read from it.

That a call comes to no markup is said by an equation: marking its result as final makes no difference to it
(`Settled`). An equation between parts of renders holds whatever monad there is below the state, so it can be used for
accounts of renders too, and it goes through the forms of a call by the laws of monads alone.
-/

namespace Stencil

open Template

variable {m : Type → Type} [Monad m]

/-! ## 1. The plain render -/

/-- The text of an expression, which is not looked at again. -/
def Expand.plainExpression (env : Environment) (inner : Option (Layer m)) (c : Call) : Expand m String := do
  let outcome ← call env inner c
  return outcome.value.text

namespace Render

/-- The text of a node, that of an expression as it is. -/
def plainNode (env : Environment) (inner : Option (Layer m)) (template : Template) : Node → Render m String
  | .expression call span => recover template span (Expand.plainExpression env inner call)
  | n => node env inner template n

/-- The text of nodes, on the level above `inner`. -/
def plainLayer (env : Environment) (inner : Option (Layer m)) : Layer m :=
  fun template nodes => return String.join (← nodes.mapM (plainNode env inner template))

/-- The text of nodes with so many levels of nesting below them, all of them plain. -/
def plainNodes (env : Environment) : Nat → Layer m
  | 0 => plainLayer env none
  | levels + 1 => plainLayer env (some (plainNodes env levels))

/-- The text of a template that stands `depth` levels deep already. -/
def plainTemplate (env : Environment) (depth : Nat) (template : Template) : Render m String :=
  plainNodes env (env.maxDepth - depth) template template.nodes

/-! ## 2. Calls that come to no markup -/

/-- What the call comes to is final already. -/
def Settled (x : Expand m Expand.Outcome) : Prop := (fun outcome => .final outcome.value) <$> x = x

variable [LawfulMonad m]

theorem settled_final (v : Value) : Settled (m := m) (return .final v) := map_pure _ _

theorem settled_throw (e : TemplateError) : Settled (m := m) (throw e) := by
  refine ExceptT.ext ?_
  rw [ExceptT.run_map, ExceptT.run_throw, map_pure]
  rfl

theorem settled_bind {α : Type} (x : Expand m α) {f : α → Expand m Expand.Outcome} (hf : ∀ a, Settled (f a)) :
    Settled (x >>= f) := by
  rw [Settled, map_bind]
  exact bind_congr hf

variable {env : Environment} {inner : Option (Layer m)}

theorem settled_helper {name : String} (hname : env.registry.regular? name = none) (hasArguments : Bool)
    (args : Args) : Settled (Expand.helper (m := m) env name hasArguments args) := by
  unfold Expand.helper
  rw [hname]
  refine settled_bind _ fun setting => settled_bind _ fun _ => ?_
  split
  · exact settled_bind _ settled_final
  · split
    · exact settled_throw _
    · exact settled_final _

theorem settled_named {name : String} (hname : env.registry.regular? name = none) (hasArguments : Bool)
    (args : Args) : Settled (Expand.named env inner name hasArguments args) := by
  unfold Expand.named
  split
  · exact settled_bind _ fun _ => settled_final _
  · exact settled_bind _ fun text => settled_final _
  · exact settled_bind _ fun _ => settled_final _
  · exact settled_bind _ fun _ => settled_bind _ fun text => settled_final _
  · split
    · exact settled_bind _ fun text => settled_final _
    · exact settled_helper hname hasArguments args

theorem settled_call {call : Call} (hname : ∀ name, call.name? = some name → env.registry.regular? name = none) :
    Settled (Expand.call env inner call) := by
  unfold Expand.call Expand.dispatch
  split
  · exact settled_bind _ fun _ => settled_final _
  · split
    · exact settled_bind _ settled_final
    · next name hcall => exact settled_bind _ fun args => settled_named (hname name hcall) _ args

/-- The text of an expression is then the text of what its call comes to. -/
theorem expression_of_settled {call : Call} (h : Settled (Expand.call env inner call)) :
    Expand.expression env inner call = Expand.plainExpression env inner call := by
  rw [Expand.expression, Expand.plainExpression, ← h, bind_map_left, bind_map_left]
  refine bind_congr fun outcome => ?_
  cases outcome.value <;> rfl

/-! ## 3. Both renders -/

/-- Without registered helpers for expressions, a render on some level is plain. -/
theorem layer_eq_plain (hregistry : ∀ name, env.registry.regular? name = none) :
    layer env inner = plainLayer env inner := by
  funext template nodes
  have hnode : node env inner template = plainNode env inner template := by
    funext n
    cases n with
    | expression call span =>
      rw [node, plainNode, expression_of_settled (settled_call fun name _ => hregistry name)]
    | _ => rfl
  rw [layer, plainLayer, hnode]

theorem nodes_eq_plain (hregistry : ∀ name, env.registry.regular? name = none) (levels : Nat) :
    (nodes env levels : Layer m) = plainNodes env levels := by
  induction levels with
  | zero => exact layer_eq_plain hregistry
  | succ levels ih =>
    rw [nodes_eq_layer, below, layer_eq_plain hregistry, ih]
    rfl

theorem template_eq_plain (hregistry : ∀ name, env.registry.regular? name = none) (depth : Nat) (t : Template) :
    (template env depth t : Render m String) = plainTemplate env depth t := by
  rw [template, nodes_eq_plain hregistry]
  rfl

end Render

end Stencil
