import Stencil.Calendar.Zone
import Stencil.Config
import Stencil.Text.Casing
import Stencil.Value.Merge

/-!
What a render is about.

Templates see the configuration, the user and the address of the request, and its language, theme and time zone.
What a client asks for is taken only when it is well formed; otherwise the configured default stands. All of
that is filtered for the state of the caller, and then the data given with the render is laid over it, which no
filter touches.
-/

namespace Stencil

open Text

/-! ## 1. Requests -/

/-- A user who is signed in. -/
structure User where
  id : String
  username : String
  displayName : String
  email : Option String
  roles : List String
  deriving DecidableEq, Repr

/-- The address of a request. -/
structure Address where
  path : String
  query : String
  host : String
  protocol : String
  deriving DecidableEq, Repr, Inhabited

/-- What is known of a request. -/
structure Request where
  user : Option User := none
  url : Address := default
  language : Option String := none
  theme : Option String := none
  timezone : Option String := none
  deriving DecidableEq, Repr

/-- The address in one text. -/
def Address.href (a : Address) : String :=
  a.protocol ++ "://" ++ a.host ++ a.path ++ (if a.query.isEmpty then "" else "?" ++ a.query)

/-- Whether the user is signed in. -/
def Request.isAuthenticated (request : Request) : Bool := request.user.isSome

/-- The messages of each language. -/
abbrev Locales := Fields Value

namespace Request

/-! ## 2. What clients may ask for -/

/-- Whether a text of one to `most` characters is made of the given ones. -/
def isOf (allowed : Char → Bool) (most : Nat) (text : String) : Bool :=
  let cs := text.toList
  !cs.isEmpty && cs.length ≤ most && cs.all allowed

/-- Whether a text is fit for a language: letters, digits and hyphens of ASCII, sixteen at most. -/
def isLanguage (text : String) : Bool := isOf (fun c => c.isAlphanum || c == '-') 16 text

/-- Whether a text is fit for a theme: letters, digits, low lines and hyphens of ASCII, sixty-four at most. -/
def isTheme (text : String) : Bool := isOf (fun c => c.isAlphanum || c == '_' || c == '-') 64 text

/-- A language tag up to its first hyphen, when it has one. -/
def primaryTag? (tag : String) : Option String :=
  (cutAt? ['-'] tag.toList).map fun (before, _) => .ofList before

/-- The languages to look for, best first: the one asked for, what it is a kind of, and the default. -/
def candidates (request : Request) (default : String) : List String :=
  match request.language.filter isLanguage with
  | some tag => tag :: ((primaryTag? tag).toList ++ [default])
  | none => [default]

/-- The language of the render and its messages: the first that there are messages for, or the default without
any. -/
def chooseLanguage (request : Request) (locales : Locales) (default : String) : String × Value :=
  let found := (request.candidates default).findSome? fun tag =>
    (Fields.get? tag locales).map fun messages => (tag, messages)
  found.getD (default, .map [])

/-! ## 3. What templates see -/

/-- A role as a name: its words with capital letters and nothing between them. -/
def roleName (role : String) : String :=
  let parts := (splitOn (fun c => !isAlphanumeric c) role.toList).filter (! ·.isEmpty)
  .ofList (parts.flatMap capitalized)

/-- The user as templates see it. -/
def userValue : Option User → Value
  | none => .map [("authenticated", .bool false), ("roles", .list [])]
  | some user =>
    let entries : Fields Value :=
      [("authenticated", .bool true), ("id", .string user.id), ("username", .string user.username),
        ("displayName", .string user.displayName), ("email", .ofString? user.email),
        ("roles", .list (user.roles.map .string))]
    .map (user.roles.foldl (fun entries role => Fields.insert ("is" ++ roleName role) (.bool true) entries) entries)

/-- The address as templates see it. -/
def addressValue (a : Address) : Value :=
  .map [("path", .string a.path), ("query", .string a.query), ("host", .string a.host),
    ("protocol", .string a.protocol), ("href", .string a.href)]

/-- Everything that templates see of the configuration and the request. -/
def build (request : Request) (snapshot : Snapshot) (locales : Locales) : Value :=
  let settings := snapshot.config.template
  let app := snapshot.config.app
  let (language, messages) := request.chooseLanguage locales settings.defaultLanguage
  let theme := (request.theme.filter isTheme).getD settings.defaultTheme
  let timezone := (request.timezone.filter Calendar.Zone.isName).getD snapshot.serverZone.name
  .map [("app", .map [("name", .string app.name), ("version", .string app.version)]),
    ("config", snapshot.site), ("user", userValue request.user), ("url", addressValue request.url),
    ("i18n", messages), ("language", .string language), ("theme", .string theme),
    ("timezone", .string timezone)]

/-- What the caller may see of it. -/
def buildFiltered (request : Request) (snapshot : Snapshot) (locales : Locales) : Value :=
  snapshot.filter.apply request.isAuthenticated (request.build snapshot locales)

/-- The data of a render: what the caller may see, with the given data on it. -/
def renderData (request : Request) (snapshot : Snapshot) (locales : Locales) (data : Value) : Value :=
  (request.buildFiltered snapshot locales).merge data

end Request

end Stencil
