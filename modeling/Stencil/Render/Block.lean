import Stencil.Render.Expression

/-!
Blocks.

The name of a block is looked up among registered block helpers first, then among the constructs here, then
among the helpers of logic, and last in the name space of components. Branches are always rendered one level
deeper than their block.
-/

namespace Stencil

open Template

/-! ## 1. Branches -/

/-- The two branches of a block, and the template that they stand in. -/
structure Branches where
  template : Template
  body : List Node
  inverse : Option (List Node)

namespace Branches

variable {m : Type → Type} [Monad m]

/-- Renders the body, or the other branch, which may be missing. -/
def choose (branches : Branches) (layer : Layer m) (condition : Bool) : Render m String :=
  if condition then layer branches.template branches.body
  else
    match branches.inverse with
    | some nodes => layer branches.template nodes
    | none => return ""

/-- Carries out what a block helper does. All its branches are rendered in one copy of the scope, which is
dropped at the end. -/
def carryOut (branches : Branches) (layer : Layer m) : Scope → BlockRun → Render m (HelperResult String)
  | _, .done result => return result
  | own, .body bindings next => do
    let (text, own) ← Render.inScope own (Render.withFrame bindings (layer branches.template branches.body))
    carryOut branches layer own (next text)
  | own, .inverse bindings next => do
    match branches.inverse with
    | none => carryOut branches layer own (next "")
    | some nodes =>
      let (text, own) ← Render.inScope own (Render.withFrame bindings (layer branches.template nodes))
      carryOut branches layer own (next text)

end Branches

/-! ## 2. Loops -/

/-- What a loop passes through: items without keys, or entries with them. -/
def passes : Value → List (Option String × Value)
  | .list items => items.map fun v => (none, v)
  | .map entries => entries.map fun (key, v) => (some key, v)
  | _ => []

/-- The bindings of one pass: the entries of the item, the item itself, and where in the loop it is. -/
def passBindings (size index : Nat) (key : Option String) (item : Value) : Fields Value :=
  let bindings := (item.entries.insert "this" item).insert "@index" (.ofNat index)
  let bindings := (bindings.insert "@first" (.bool (index == 0))).insert "@last" (.bool (index + 1 == size))
  match key with
  | some key => bindings.insert "@key" (.string key)
  | none => bindings

/-- Renders the body for everything that is passed through, or the other branch when there is nothing. -/
def Branches.each {m : Type → Type} [Monad m] (branches : Branches) (layer : Layer m) (target : Value) :
    Render m String := do
  let items := passes target
  if items.isEmpty then branches.choose layer false
  else
    let size := items.length
    let texts ← items.zipIdx.mapM fun ((key, item), index) =>
      Render.withFrame (passBindings size index key item) (layer branches.template branches.body)
    return String.join texts

/-! ## 3. Blocks -/

namespace Expand

variable {m : Type → Type} [Monad m]

/-- Defines the body of a block as a component. -/
def define (branches : Branches) (args : Args) : Expand m String := do
  ofHelper args.name (args.require 1)
  let component ← Component.declare (args.textAt 0) (branches.template.fragment branches.body) args.named
  Render.define (m := m) component
  return ""

/-- A block with a name that no registered helper has. The branches are rendered by `layer`, the level below
this one. -/
def builtinBlock (env : Environment) (layer : Layer m) (branches : Branches) (name : String) (args : Args) :
    Expand m String := do
  match name with
  | "if" => branches.choose layer args.primary.isTruthy
  | "unless" => branches.choose layer (!args.primary.isTruthy)
  | "each" => branches.each layer args.primary
  | "with" =>
    let target := args.primary
    if target.isTruthy then
      Render.withIsolatedFrame (target.entries.insert "this" target) (layer branches.template branches.body)
    else branches.choose layer false
  | "let" =>
    Render.withFrame [] do
      Render.setVariables args
      layer branches.template branches.body
  | "component" => define branches args
  | _ =>
    match Helper.Logic.truth? name args with
    | some result => branches.choose layer (← ofHelper name result)
    | none =>
      match componentName? name with
      | some usage =>
        let content ← layer branches.template branches.body
        component env (some layer) usage args.named (some content)
      | none => throw (.unknownBlock name)

/-- The text of a block. -/
def block (env : Environment) (inner : Option (Layer m)) (branches : Branches) (call : Call) : Expand m String := do
  match call.name? with
  | none => throw (.malformed "block tag without a helper name")
  | some name =>
    if call.hasUnbalanced then
      Render.warn (m := m) "unbalanced subexpression"
      return unbalancedMarker
    let layer ← descend env inner
    let args ← arguments env inner call
    match env.registry.block? name with
    | some run =>
      let scope ← Render.scope (m := m)
      ofHelper name (← branches.carryOut layer scope (run args scope branches.inverse.isSome))
    | none => builtinBlock env layer branches name args

end Expand

end Stencil
