import Stencil.Component
import Stencil.Diagnostic
import Stencil.Helper.Registry
import Stencil.Helper.Setting

/-!
The state of a render.

A render carries along the scope, the components defined so far and those being expanded, the diagnostics, and
the files with what was read of them. All of it goes through every nested expansion. What stays the same for the
whole of a render is its environment.

Expanding a construct may fail, rendering never does; the two monads here tell these apart in the types.
Whatever was done to the state before a failure stays done.
-/

namespace Stencil

/-! ## 1. Includes -/

/-- A parsed include, and the modification time of its file when it was read. -/
structure CachedInclude where
  template : Template
  modified : Option Int

/-- The includes that were parsed. -/
abbrev IncludeCache := Fields CachedInclude Location

/-! ## 2. State and environment -/

/-- What changes in the course of a render. An abandoned render reads nothing any more, and what it comes to
counts for nothing. -/
structure RenderState where
  scope : Scope
  components : Components
  chain : CallChain
  diagnostics : Diagnostics
  files : Files
  includes : IncludeCache
  abandoned : Bool

/-- The template at a location, and the state after it was asked for. With the cache on, a template that was parsed
before serves again as long as the modification time of its file is the same. -/
def RenderState.load (state : RenderState) (useCache : Bool) (place : Location) :
    Option Template × RenderState :=
  if state.abandoned then (none, state)
  else
    let modified := state.files.modified? place
    let cached := if useCache then Fields.get? place state.includes else none
    match cached.filter (·.modified == modified) with
    | some entry => (some entry.template, state)
    | none =>
      match state.files.read place with
      | (none, files) => (none, { state with files })
      | (some text, files) =>
        let template := Template.parse text
        let includes := if useCache then state.includes.insert place ⟨template, modified⟩ else state.includes
        (some template, { state with files, includes })

/-- What reading a template can change is what is known of the files. -/
theorem RenderState.load_eq (state : RenderState) (useCache : Bool) (place : Location) :
    ∃ files includes, (state.load useCache place).2 = { state with files, includes } := by
  unfold load
  split
  · exact ⟨_, _, rfl⟩
  · simp only
    split
    · exact ⟨_, _, rfl⟩
    · split
      · exact ⟨_, _, rfl⟩
      · exact ⟨_, _, rfl⟩

/-- What stays the same in a render. -/
structure Environment where
  registry : Registry
  maxDepth : Nat
  cacheIncludes : Bool
  serverZone : Calendar.Zone
  now : Calendar.Instant

/-- A part of a render, which always comes to an end with something. The monad `m` below the state is not made
use of by anything that renders. A render that just runs has nothing there; an account of a render notes there
what it came by. -/
abbrev Render (m : Type → Type) (α : Type) := StateT RenderState m α

/-- The expansion of a construct, which may fail. -/
abbrev Expand (m : Type → Type) (α : Type) := ExceptT TemplateError (StateT RenderState m) α

namespace Render

/-- What a part of a render comes to, and the state after it. -/
def exec {α : Type} (part : Render Id α) (state : RenderState) : α × RenderState := (part.run state).run

variable {m : Type → Type} [Monad m]

/-! ## 3. Steps -/

/-- Notes a warning. -/
def warn (message : String) : Render m Unit :=
  modify fun state => { state with diagnostics := state.diagnostics.warn message }

/-- Notes an error. -/
def error (message : String) : Render m Unit :=
  modify fun state => { state with diagnostics := state.diagnostics.error message }

/-- Gives the render up on a condition. -/
def abandonIf (condition : Bool) : Render m Unit :=
  modify fun state => { state with abandoned := state.abandoned || condition }

/-- The scope. -/
def scope : Render m Scope := return (← get).scope

/-- Changes the scope. -/
def modifyScope (change : Scope → Scope) : Render m Unit :=
  modify fun state => { state with scope := change state.scope }

/-- Does something with one more frame in the scope, and takes the frame away afterwards. -/
def withFrame (bindings : Fields Value) (action : Render m String) : Render m String := do
  modifyScope (·.push bindings)
  let text ← action
  modifyScope Scope.pop
  return text

/-- Does something with one more frame that hides all others, and takes it away afterwards. -/
def withIsolatedFrame (bindings : Fields Value) (action : Render m String) : Render m String := do
  modifyScope (·.pushIsolated bindings)
  let text ← action
  modifyScope Scope.pop
  return text

theorem run_withFrame [LawfulMonad m] (bindings : Fields Value) (action : Render m String) (state : RenderState) :
    (withFrame bindings action).run state = do
      let (text, after) ← action.run { state with scope := state.scope.push bindings }
      return (text, { after with scope := after.scope.pop }) := by
  simp [withFrame, modifyScope]

theorem run_withIsolatedFrame [LawfulMonad m] (bindings : Fields Value) (action : Render m String)
    (state : RenderState) :
    (withIsolatedFrame bindings action).run state = do
      let (text, after) ← action.run { state with scope := state.scope.pushIsolated bindings }
      return (text, { after with scope := after.scope.pop }) := by
  simp [withIsolatedFrame, modifyScope]

/-- Does something in another scope, and goes back to the one before. Comes to the text and what became of the
other scope. -/
def inScope (own : Scope) (action : Render m String) : Render m (String × Scope) := do
  let outer ← scope
  modifyScope fun _ => own
  let text ← action
  let own ← scope
  modifyScope fun _ => outer
  return (text, own)

theorem run_inScope [LawfulMonad m] (own : Scope) (action : Render m String) (state : RenderState) :
    (inScope own action).run state = do
      let (text, after) ← action.run { state with scope := own }
      return ((text, after.scope), { after with scope := state.scope }) := by
  simp [inScope, modifyScope, scope]

/-- The scope with local variables set: the one named by the first argument, when there are two, and the named
ones. -/
def applyLet (args : Args) (scope : Scope) : Scope :=
  let scope := if 2 ≤ args.size then scope.setVar (args.textAt 0) (args.get 1) else scope
  args.named.foldl (fun scope (name, v) => scope.setVar name v) scope

/-- What setting one variable keeps is kept when any number of them is set. -/
theorem applyLet_preserves {kept : Scope → Prop} (hset : ∀ {scope} name v, kept scope → kept (scope.setVar name v))
    (args : Args) {scope : Scope} (h : kept scope) : kept (applyLet args scope) := by
  have hnamed : ∀ (named : Fields Value) {scope : Scope}, kept scope →
      kept (named.foldl (fun scope (name, v) => scope.setVar name v) scope) := by
    intro named
    induction named with
    | nil => exact fun h => h
    | cons field named ih => exact fun h => ih (hset field.1 field.2 h)
  unfold applyLet
  split
  · exact hnamed _ (hset _ _ h)
  · exact hnamed _ h

/-- Sets local variables. -/
def setVariables (args : Args) : Render m Unit := modifyScope (applyLet args)

/-- The component of a name. -/
def component? (name : String) : Render m (Option Component) := return (← get).components.find? name

/-- The name under which components can be seen. -/
def componentsName : String := "components"

/-- Defines a component. -/
def define (component : Component) : Render m Unit :=
  modify fun state => { state with
    components := state.components.define component
    scope := state.scope.setNamespaced componentsName component.usageName component.summary }

/-- What a helper may read at this point. -/
def setting (env : Environment) : Render m Helper.Setting := do
  let state ← get
  return ⟨state.scope, state.files, env.serverZone, env.now⟩

/-- The location that a name in a template stands for. -/
def resolve (requested : String) : Render m (Except PathError Location) :=
  return (← get).files.resolve requested

/-- The template at a location. -/
def loadInclude (useCache : Bool) (place : Location) : Render m (Option Template) :=
  modifyGet (·.load useCache place)

/-- The report of an error at the place of the construct that failed; the span is that of the construct. One that
lies too deep stays as it was written; all others become a comment. -/
def report (template : Template) (span : Span) (e : TemplateError) : Render m String := do
  match e with
  | .depthExceeded _ =>
    error e.message
    return span.slice template.source
  | _ =>
    if e.isNotFound then warn e.message else error e.message
    return inlineReport e.message

/-- An expansion with its failure reported; the span is that of the construct. -/
def recover (template : Template) (span : Span) (expansion : Expand m String) : Render m String := do
  match ← expansion.run with
  | .ok text => return text
  | .error e => report template span e

end Render

namespace Expand

variable {m : Type → Type} [Monad m]

/-- The result of a helper; its failure is that of the construct it was called in. -/
def ofHelper {α : Type} (name : String) (result : HelperResult α) : Expand m α :=
  match result with
  | .ok a => pure a
  | .error e => throw (.helper name e)

/-- Does something as the expansion of a component. The component stands in the chain for as long as that takes,
and it must not stand there yet. -/
def expanding (name : String) (action : Expand m String) : Expand m String := ExceptT.mk do
  match (← get).chain.enter name with
  | .error e => return .error e
  | .ok chain =>
    modify fun state => { state with chain }
    let result ← action.run
    modify fun state => { state with chain := state.chain.leave }
    return result

theorem run_expanding [LawfulMonad m] (name : String) (action : Expand m String) (state : RenderState) :
    (expanding name action).run.run state =
      match state.chain.enter name with
      | .error e => pure (.error e, state)
      | .ok chain => do
        let (result, after) ← action.run.run { state with chain }
        return (result, { after with chain := after.chain.leave }) := by
  simp only [expanding, ExceptT.run_mk, StateT.run_bind, StateT.run_get, pure_bind]
  cases state.chain.enter name with
  | error e => simp
  | ok chain => simp

end Expand

/-! ## 4. Nested expansion -/

/-- How the nodes of a template are rendered, on some level of nesting. -/
abbrev Layer (m : Type → Type) := Template → List Template.Node → Render m String

/-- The next level of nesting, when there is one. -/
def Expand.descend {m : Type → Type} [Monad m] (env : Environment) (inner : Option (Layer m)) :
    Expand m (Layer m) :=
  match inner with
  | some layer => pure layer
  | none => throw (.depthExceeded env.maxDepth)

end Stencil
