import Stencil.Engine
import Stencil.Http.Headers
import Stencil.Json.Outline

/-!
The render service.

The service is an engine over template roots on disk that answers requests over HTTP. It starts from a
configuration file, the roots and a folder of messages, and its configuration can be renewed while it runs. A
configuration that cannot be read never takes effect: the service does not start with it, and a service that
runs goes on with the one it has.
-/

namespace Stencil

open Http

/-! ## 1. The service -/

/-- Why the service did not start. -/
inductive ServiceError where
  | config (error : ConfigError)
  /-- A template root is not there. -/
  | missingRoot (name : String)
  /-- The folder of messages, or a file in it, cannot be read. -/
  | locales
  deriving DecidableEq, Repr

/-- A running service. -/
structure Service where
  engine : Engine
  /-- The configuration file, when there is one. -/
  configFile : Option Path
  /-- The names of the template roots. -/
  rootNames : List String

/-- A configuration file and its text, if it can be read. -/
structure ConfigSource where
  file : Path
  content : Option String

namespace Service

/-- The language whose messages a file of this name holds. -/
def localeOf? (file : String) : Option String :=
  match Text.stripPrefix? ".json".toList.reverse file.toList.reverse with
  | some (c :: cs) => some (.ofList (c :: cs).reverse)
  | _ => none

/-- The messages in the files that are directly in a folder. Files that hold no JSON are left out; one that cannot
be read is an error, and so is a folder with the name of such a file. -/
def loadLocales (folder : Root) : Except ServiceError Locales :=
  if folder.hasFolder [] then
    (folder.list []).foldlM (fun locales name =>
      match localeOf? name, (Fields.get? [name] folder.files).bind (·.text?) with
      | none, _ => .ok locales
      | some _, none => .error .locales
      | some language, some text =>
        match Json.ofText? text with
        | some json => .ok (locales.insert language (.ofJson json))
        | none => .ok locales) []
  else .error .locales

/-- Starts the service on a disk, whose roots have the given names. A folder of messages may be left out, but one
that is given must be there. -/
def start (config : Option ConfigSource) (names : List String) (disk : Disk) (locales : Option Root) :
    Except ServiceError Service := do
  let settings ← match config with
    | some source =>
      match Config.ofFile source.file source.content with
      | .ok c => pure c
      | .error e => throw (.config e)
    | none => pure {}
  match (names.zip disk.roots).find? fun (_, root) => !root.has [] with
  | some (name, _) => throw (.missingRoot name)
  | none => pure ()
  let messages ← match locales with
    | none => pure []
    | some folder => loadLocales folder
  return ⟨.new [] settings messages (.disk disk []), config.map (·.file), names⟩

/-! ## 2. Changes -/

/-- What became of an attempt to renew the configuration. -/
inductive Refresh where
  | reloaded
  | failed
  /-- There is no configuration file. -/
  | disabled
  deriving DecidableEq, Repr

/-- Renews the configuration from the text of its file, if that can be read. -/
def refresh (service : Service) (content : Option String) : Refresh × Service :=
  match service.configFile with
  | none => (.disabled, service)
  | some file =>
    match Config.ofFile file content with
    | .ok config => (.reloaded, { service with engine := service.engine.reload config })
    | .error _ => (.failed, service)

/-- Forgets everything about a template file. -/
def invalidate (service : Service) (place : Location) : Service :=
  { service with engine := (service.engine.forgetFile place).forgetInclude place }

/-- Whether a location is inside a template root. -/
def isTemplatePath (service : Service) (place : Location) : Bool :=
  place.root.any (· < service.rootNames.length)

/-! ## 3. Answers -/

/-- An answer: its status and what it says. -/
inductive Response where
  /-- The state of the service. -/
  | health (roots : List String) (helpers files includes : Nat)
  /-- All helpers. -/
  | helpers (registry : Registry)
  /-- A rendered template. -/
  | rendered (text : String)
  /-- A render that was abandoned. -/
  | failed
  /-- A request that cannot be understood. -/
  | refused (reason : String)
  /-- An answer without its body: only its status. -/
  | statusOnly (status : Nat)
  | notFound
  | wrongMethod

namespace Response

/-- The status. -/
def status : Response → Nat
  | .health .. | .helpers _ | .rendered _ => 200
  | .statusOnly status => status
  | .failed => 500
  | .refused _ => 400
  | .notFound => 404
  | .wrongMethod => 405

/-- A registered helper in a list of helpers. -/
def helperJson : (HelperKind × String) × RegisteredHelper → Json
  | ((kind, name), helper) =>
    .map [("name", .string name), ("kind", .string kind.text), ("source", .string helper.source.text),
      ("description", .string helper.description), ("example", .string helper.sample)]

/-- The body as a JSON document; some answers have none. -/
def json? : Response → Option Json
  | .health roots count files includes =>
    some (.map [("status", .string "ok"), ("template_roots", .list (roots.map .string)),
      ("registered_helpers", .integer count), ("cached_files", .integer files),
      ("cached_includes", .integer includes)])
  | .helpers registry =>
    some (.map [("registered", .list (registry.map helperJson)),
      ("builtins", .list (Helper.builtinNames.map .string))])
  | .rendered text => some (.map [("success", .bool true), ("text", .string text)])
  | .failed => some (.map [("success", .bool false), ("error", .string "render failed")])
  | .refused reason => some (.map [("success", .bool false), ("error", .string reason)])
  | .statusOnly _ | .notFound | .wrongMethod => none

/-- The body of an answer without a document. -/
def plainBody : Response → String
  | .notFound => "Not found"
  | _ => ""

end Response

/-- The outline of the body of a render request. -/
def renderOutline : Json.Outline := .settings [("text", .any), ("context", .any)]

/-- The source and the data of a render request; `none` when the body is not one. -/
def readBody? (body : String) : Option (String × Json) := do
  let s ← Json.settings? true ["text", "context"] (← Json.ofOutlinedText? renderOutline body)
  match Fields.get? "text" s with
  | some (.string text) => return (text, (Fields.get? "context" s).getD .null)
  | _ => none

/-- Renders what a request asks for. -/
def render (service : Service) (now : Calendar.Instant) (uri : Uri) (headers : Headers) (body : String) :
    Response × Service :=
  let rendered (source : String) (data : Value) : Response × Service :=
    let (output, engine) := service.engine.render now source (requestOf uri headers) data 0
    (match output with
      | some output => .rendered output.text
      | none => .failed, { service with engine })
  match readBody? body with
  | none => (.refused "invalid request body", service)
  | some (source, .null) => rendered source .null
  | some (source, .map members) => rendered source (.ofJson (.map members))
  | some _ => (.refused "context must be an object", service)

/-- The state of the service. -/
def health (service : Service) : Response :=
  .health service.rootNames service.engine.registry.length service.engine.files.cachedCount
    service.engine.includes.length

/-- The answer to a request, body and all. -/
def answer (service : Service) (now : Calendar.Instant) (method : String) (uri : Uri) (headers : Headers)
    (body : String) : Response × Service :=
  let get (response : Response) : Response × Service :=
    (if method = "GET" ∨ method = "HEAD" then response else .wrongMethod, service)
  match uri.path with
  | "/health" => get service.health
  | "/api/helpers" => get (.helpers service.engine.registry)
  | "/api/render" => if method = "POST" then service.render now uri headers body else (.wrongMethod, service)
  | _ => (.notFound, service)

/-- The answer to a request. One that asks for the head alone gets no body, whatever it asks about. -/
def respond (service : Service) (now : Calendar.Instant) (method : String) (uri : Uri) (headers : Headers)
    (body : String) : Response × Service :=
  let (response, after) := service.answer now method uri headers body
  (if method = "HEAD" then .statusOnly response.status else response, after)

end Service

end Stencil
