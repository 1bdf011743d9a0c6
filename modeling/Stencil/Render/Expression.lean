import Stencil.Helper.Catalog
import Stencil.Render.State

/-!
Expressions.

A call is looked up in this order: the forms that need the renderer itself (`let`, includes, components),
registered helpers, built-in helpers, and, for a name alone, the scope. Its arguments are evaluated first, from
left to right, and may be calls themselves.

Everything here works on one level of nesting and gets the next one as `inner`; `none` stands below the last.
-/

namespace Stencil

open Template

namespace Expand

variable {m : Type → Type} [Monad m]

/-! ## 1. Forms -/

/-- Renders a file in a frame of the named arguments. -/
def includeFile (env : Environment) (inner : Option (Layer m)) (args : Args) : Expand m String := do
  ofHelper args.name (args.require 1)
  let layer ← descend env inner
  let requested := args.textAt 0
  match ← Render.resolve (m := m) requested with
  | .error (.notFound _) => throw (.includeNotFound requested)
  | .error e => throw (.refusedPath e)
  | .ok place =>
    match ← Render.loadInclude (m := m) env.cacheIncludes place with
    | none => throw (.includeNotFound requested)
    | some template => Render.withFrame args.named (layer template template.nodes)

/-- The parameters of a component with the text between its tags, if it was used as a block. -/
def withContent (parameters : Fields Value) : Option String → Fields Value
  | some text => Fields.insert "content" (.string text) parameters
  | none => parameters

/-- Renders a component with parameters, and with the text between its tags if it was used as a block. -/
def component (env : Environment) (inner : Option (Layer m)) (name : String) (arguments : Fields Value)
    (content : Option String) : Expand m String := do
  match ← Render.component? (m := m) name with
  | none => throw (.componentNotFound name)
  | some component =>
    let parameters := withContent (Component.parameters component.defaults arguments) content
    let text ← expanding component.usageName do
      let layer ← descend env inner
      Render.withFrame parameters (layer component.template component.template.nodes)
    return if Component.isInline component.defaults arguments then Component.collapseBlanks text else text

/-- The name of the component that a name in the name space of components means. -/
def componentName? (name : String) : Option String :=
  match Text.stripPrefix? "components.".toList name.toList with
  | some (c :: cs) => some (.ofList (c :: cs))
  | _ => none

/-! ## 2. Calls -/

/-- What a call comes to. The text of a registered helper may hold markup that is still to be expanded. -/
structure Outcome where
  value : Value
  isMarkup : Bool

/-- A value that is not looked at again. -/
def Outcome.final (v : Value) : Outcome := ⟨v, false⟩

/-- A call of a helper, or a name by itself. -/
def helper (env : Environment) (name : String) (hasArguments : Bool) (args : Args) : Expand m Outcome := do
  match env.registry.regular? name with
  | some run => return ⟨← ofHelper name (run args (← Render.scope (m := m))), true⟩
  | none =>
    let setting ← Render.setting (m := m) env
    Render.abandonIf (m := m) (Helper.overruns args setting)
    match Helper.call? args setting with
    | some result => return .final (← ofHelper name result)
    | none =>
      if hasArguments then throw (.unknownHelper name)
      else return .final ((setting.scope.resolve? name).getD .null)

/-- A call under a name, its arguments evaluated. -/
def named (env : Environment) (inner : Option (Layer m)) (name : String) (hasArguments : Bool) (args : Args) :
    Expand m Outcome := do
  match name with
  | "let" =>
    Render.setVariables (m := m) args
    return .final .null
  | "file.include" => return .final (.string (← includeFile env inner args))
  | "file.includeComponents" =>
    discard (includeFile env inner args)
    return .final .null
  | "component" =>
    ofHelper name (args.require 1)
    return .final (.string (← component env inner (args.textAt 0) args.named none))
  | _ =>
    match componentName? name with
    | some usage => return .final (.string (← component env inner usage args.named none))
    | none => helper env name hasArguments args

/-- What a call comes to, with the evaluation of its head and of its arguments. -/
def dispatch (env : Environment) (inner : Option (Layer m)) (call : Call) (head : Expand m Value)
    (arguments : Expand m Args) : Expand m Outcome := do
  if call.hasUnbalanced then
    Render.warn (m := m) "unbalanced subexpression"
    return .final (.string unbalancedMarker)
  match call.name? with
  | none => return .final (← head)
  | some name => named env inner name call.hasArguments (← arguments)

mutual

/-- The value of an argument. -/
def argument (env : Environment) (inner : Option (Layer m)) : Argument → Expand m Value
  | .quoted s => return .string s
  | .bare word => return (← Render.scope (m := m)).coerce word
  | .unbalanced => return .string unbalancedMarker
  | .sub head positional named => do
    let call : Call := ⟨head, positional, named⟩
    let outcome ← dispatch env inner call (argument env inner head) do
      let values ← argumentList env inner positional
      return ⟨call.name?.getD "", values, ← argumentFields env inner [] named⟩
    return outcome.value

/-- The values of positional arguments. -/
def argumentList (env : Environment) (inner : Option (Layer m)) : List Argument → Expand m (List Value)
  | [] => return []
  | a :: as => return (← argument env inner a) :: (← argumentList env inner as)

/-- The values of named arguments, put into the fields so far. -/
def argumentFields (env : Environment) (inner : Option (Layer m)) (fields : Fields Value) :
    List (String × Argument) → Expand m (Fields Value)
  | [] => return fields
  | (key, a) :: as => do
    let v ← argument env inner a
    argumentFields env inner (fields.insert key v) as

end

/-- The evaluated arguments of a call. -/
def arguments (env : Environment) (inner : Option (Layer m)) (call : Call) : Expand m Args := do
  let values ← argumentList env inner call.positional
  return ⟨call.name?.getD "", values, ← argumentFields env inner [] call.named⟩

/-- What a call comes to. -/
def call (env : Environment) (inner : Option (Layer m)) (call : Call) : Expand m Outcome :=
  dispatch env inner call (argument env inner call.head) (arguments env inner call)

/-! ## 3. Expressions in text -/

/-- Whether a text holds a tag. -/
def hasTag (text : String) : Bool := Text.contains ['{', '{'] text.toList

/-- The text of an expression. Markup from a registered helper is expanded once. -/
def expression (env : Environment) (inner : Option (Layer m)) (c : Call) : Expand m String := do
  let outcome ← call env inner c
  match outcome with
  | ⟨.string text, true⟩ =>
    if hasTag text then
      let layer ← descend env inner
      let template := Template.parse text
      layer template template.nodes
    else return text
  | ⟨v, _⟩ => return v.text

end Expand

end Stencil
