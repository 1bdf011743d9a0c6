import Stencil.Calendar.Zone
import Stencil.Filter
import Stencil.Json.Outline
import Stencil.Json.Printer
import Stencil.Path
import Stencil.Toml.Reader
import Stencil.Value.Text

/-!
Configuration.

A configuration document says how the renderer works and carries the data of the site. It is written in JSON or
TOML. All of it may be left out; what is there must be of the right form, and unknown keys mean nothing. A
section may be given as a list of its settings in their order.
-/

namespace Stencil

/-! ## 1. The document -/

/-- What the application is called. -/
structure AppSettings where
  name : String := "trellis"
  version : String := "0.1.0"
  deriving DecidableEq, Repr, Inhabited

/-- The patterns of the filter for the data of a render. -/
structure FilterSettings where
  withAuth : List String := []
  withoutAuth : List String := []
  alwaysAllow : List String := []
  deriving DecidableEq, Repr, Inhabited

/-- How templates are rendered. -/
structure TemplateSettings where
  maxIncludeDepth : Nat := 16
  cacheIncludes : Bool := true
  contextFilter : FilterSettings := {}
  defaultLanguage : String := "en"
  serverTimezone : String := "UTC"
  defaultTheme : String := "default"
  deriving DecidableEq, Repr, Inhabited

/-- A configuration. -/
structure Config where
  app : AppSettings := {}
  template : TemplateSettings := {}
  /-- The data of the site, of any form. -/
  site : Json := .null
  deriving Inhabited

/-- Why there is no configuration. -/
inductive ConfigError where
  /-- The text is no JSON document of the right form. -/
  | json
  /-- The text is no TOML document of the right form. -/
  | toml
  /-- The file cannot be read. -/
  | unreadable
  /-- The name of the file has an ending that means no format. -/
  | unsupportedFormat
  deriving DecidableEq, Repr

namespace Config

open Json

/-! ## 2. Reading settings -/

/-- A setting that is text. -/
def text? : Json → Option String
  | .string s => some s
  | _ => none

/-- A setting that is a switch. -/
def switch? : Json → Option Bool
  | .bool b => some b
  | _ => none

/-- A setting that counts something, in the range of a machine word. -/
def count? : Json → Option Nat
  | .integer i => if 0 ≤ i ∧ i < 2 ^ 64 then some i.toNat else none
  | _ => none

/-- A setting that is a list of texts. -/
def texts? : Json → Option (List String)
  | .list items => items.mapM text?
  | _ => none

/-- The section about the application. -/
def app? (strict : Bool) (json : Json) : Option AppSettings := do
  let s ← settings? strict ["name", "version"] json
  let d : AppSettings := {}
  return ⟨← setting? s "name" text? d.name, ← setting? s "version" text? d.version⟩

/-- The section about the include cache. -/
def cache? (strict : Bool) (json : Json) : Option Bool := do
  setting? (← settings? strict ["enabled"] json) "enabled" switch? true

/-- The section about the filter. -/
def filter? (strict : Bool) (json : Json) : Option FilterSettings := do
  let s ← settings? strict ["withAuth", "withoutAuth", "alwaysAllow"] json
  return ⟨← setting? s "withAuth" texts? [], ← setting? s "withoutAuth" texts? [],
    ← setting? s "alwaysAllow" texts? []⟩

/-- The names of the settings for templates. -/
def templateNames : List String :=
  ["maxIncludeDepth", "cacheIncludes", "contextFilter", "defaultLanguage", "serverTimezone", "defaultTheme"]

/-- The section about templates. -/
def template? (strict : Bool) (json : Json) : Option TemplateSettings := do
  let s ← settings? strict templateNames json
  let d : TemplateSettings := {}
  return {
    maxIncludeDepth := ← setting? s "maxIncludeDepth" count? d.maxIncludeDepth
    cacheIncludes := ← setting? s "cacheIncludes" (cache? strict) d.cacheIncludes
    contextFilter := ← setting? s "contextFilter" (filter? strict) d.contextFilter
    defaultLanguage := ← setting? s "defaultLanguage" text? d.defaultLanguage
    serverTimezone := ← setting? s "serverTimezone" text? d.serverTimezone
    defaultTheme := ← setting? s "defaultTheme" text? d.defaultTheme }

/-- The configuration that a document spells. Strict reading refuses lists with more items than settings. -/
def ofJson? (strict : Bool) (json : Json) : Option Config := do
  let s ← settings? strict ["app", "template", "site"] json
  return ⟨← setting? s "app" (app? strict) {}, ← setting? s "template" (template? strict) {}, ← setting? s "site" some .null⟩

/-! ## 3. Reading text -/

/-- The outline of a configuration. -/
def outline : Json.Outline :=
  .settings [("app", .settings [("name", .any), ("version", .any)]),
    ("template", .settings [("maxIncludeDepth", .any), ("cacheIncludes", .settings [("enabled", .any)]),
      ("contextFilter", .settings [("withAuth", .any), ("withoutAuth", .any), ("alwaysAllow", .any)]),
      ("defaultLanguage", .any), ("serverTimezone", .any), ("defaultTheme", .any)]),
    ("site", .any)]

/-- The configuration in a JSON text. -/
def ofJsonText? (text : String) : Option Config :=
  (Json.ofOutlinedText? outline text).bind (ofJson? true)

/-- The configuration in a TOML text. -/
def ofTomlText? (text : String) : Option Config := ((Toml.ofText? text).map Toml.toJson).bind (ofJson? false)

/-- The ending of the name of a file, in small letters. A dot at the start of the name begins no ending. -/
def ending? (file : Path) : Option String :=
  match file.getLast? with
  | none => none
  | some name =>
    let reversed := name.toList.reverse
    let stem := (reversed.dropWhile (· != '.')).drop 1
    if stem.isEmpty ∨ name = ".." then none
    else some (.ofList ((reversed.takeWhile (· != '.')).reverse.map Char.toLower))

/-- The configuration in a file, which may be missing. -/
def ofFile (file : Path) (content : Option String) : Except ConfigError Config :=
  let read (ofText? : String → Option Config) (e : ConfigError) : Except ConfigError Config :=
    match content with
    | none => .error .unreadable
    | some text =>
      match ofText? text with
      | some config => .ok config
      | none => .error e
  match ending? file with
  | some "toml" => read ofTomlText? .toml
  | some "json" => read ofJsonText? .json
  | _ => .error .unsupportedFormat

/-! ## 4. Writing -/

/-- Texts as a list. -/
def textsJson (texts : List String) : Json := .list (texts.map .string)

/-- The configuration as a document with all settings. -/
def toJson (config : Config) : Json :=
  let t := config.template
  let f := t.contextFilter
  .map [("app", .map [("name", .string config.app.name), ("version", .string config.app.version)]),
    ("template", .map [("maxIncludeDepth", .integer t.maxIncludeDepth),
      ("cacheIncludes", .map [("enabled", .bool t.cacheIncludes)]),
      ("contextFilter", .map [("withAuth", textsJson f.withAuth), ("withoutAuth", textsJson f.withoutAuth),
        ("alwaysAllow", textsJson f.alwaysAllow)]),
      ("defaultLanguage", .string t.defaultLanguage), ("serverTimezone", .string t.serverTimezone),
      ("defaultTheme", .string t.defaultTheme)]),
    ("site", config.site)]

end Config

/-! ## 5. In use -/

/-- A configuration with what is made of it once: the site as a value, the filter, and the time zone. -/
structure Snapshot where
  config : Config
  site : Value
  filter : Filter
  serverZone : Calendar.Zone

/-- The configuration put to use. A time zone that does not exist becomes universal time. -/
def Snapshot.ofConfig (config : Config) : Snapshot :=
  let f := config.template.contextFilter
  ⟨config, .ofJson config.site, .ofTexts f.withAuth f.withoutAuth f.alwaysAllow,
    .named config.template.serverTimezone⟩

end Stencil
