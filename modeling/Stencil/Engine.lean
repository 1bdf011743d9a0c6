import Stencil.Render
import Stencil.Request

/-!
The engine.

An engine renders one template after another. It holds what all renders share: the registered helpers, the
configuration in use, the messages, the files, and the includes that were parsed. Each render starts from a fresh
state, and all that it leaves behind is what was read and parsed.
-/

namespace Stencil

/-- What renders share. -/
structure Engine where
  registry : Registry
  snapshot : Snapshot
  locales : Locales
  files : Files
  includes : IncludeCache

namespace Engine

/-- An engine that has rendered nothing yet. -/
def new (registry : Registry) (config : Config) (locales : Locales) (files : Files) : Engine :=
  ⟨registry, .ofConfig config, locales, files, []⟩

/-- What stays the same in a render that starts now. -/
def environment (engine : Engine) (now : Calendar.Instant) : Environment :=
  let settings := engine.snapshot.config.template
  ⟨engine.registry, settings.maxIncludeDepth, settings.cacheIncludes, engine.snapshot.serverZone, now⟩

/-- The state in which a render starts. -/
def start (engine : Engine) (request : Request) (data : Value) : RenderState :=
  let data := request.renderData engine.snapshot engine.locales data
  ⟨.ofValue data, [], [], #[], engine.files, engine.includes, false⟩

/-- The engine after a render. -/
def after (engine : Engine) (state : RenderState) : Engine :=
  { engine with files := state.files, includes := state.includes }

/-- What a render comes to. -/
structure Output where
  text : String
  diagnostics : Diagnostics
  deriving DecidableEq, Repr

/-- What a render comes to, which is nothing when it was abandoned. -/
def outcome? {α : Type} (result : α) (state : RenderState) : Option α :=
  if state.abandoned then none else some result

/-- Renders a source that stands `depth` levels deep already; `none` when the render was abandoned. -/
def render (engine : Engine) (now : Calendar.Instant) (source : String) (request : Request) (data : Value)
    (depth : Nat) : Option Output × Engine :=
  let rendering := Render.template (engine.environment now) depth (.parse source)
  let (text, state) := rendering.exec (engine.start request data)
  (outcome? ⟨text, state.diagnostics⟩ state, engine.after state)

/-- The value of a source, for a request of which nothing is known; `none` when the render was abandoned. -/
def evaluate (engine : Engine) (now : Calendar.Instant) (source : String) (data : Value) :
    Option Value × Engine :=
  let evaluation := Render.value (engine.environment now) (.parse source)
  let (v, state) := evaluation.exec (engine.start {} data)
  (outcome? v state, engine.after state)

/-- Puts another configuration to use. -/
def reload (engine : Engine) (config : Config) : Engine := { engine with snapshot := .ofConfig config }

/-- Forgets a parsed include. -/
def forgetInclude (engine : Engine) (place : Location) : Engine :=
  { engine with includes := engine.includes.erase place }

/-- Forgets all parsed includes. -/
def forgetIncludes (engine : Engine) : Engine := { engine with includes := [] }

/-- Forgets what was read of a file. -/
def forgetFile (engine : Engine) (place : Location) : Engine :=
  { engine with files := engine.files.forget place }

/-- Forgets what was read of all files. -/
def forgetFiles (engine : Engine) : Engine := { engine with files := engine.files.forgetAll }

end Engine

end Stencil
