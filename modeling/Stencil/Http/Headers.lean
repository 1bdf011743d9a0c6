import Stencil.Http.Language
import Stencil.Http.Uri
import Stencil.Request

/-!
Requests over HTTP.

What a render is about is taken from the target of the request and from its headers. Names of headers do not
depend on letter case, and of repeated headers the first counts. Nothing is checked here but that a value is
plain text, since whatever is made of it checks for itself. Such requests are never those of a user.
-/

namespace Stencil.Http

/-- The headers of a request in their order. -/
abbrev Headers := List (String × String)

/-- A name in small letters. -/
def smallLetters (name : String) : String := .ofList (name.toList.map Char.toLower)

/-- Whether a header value is plain text: visible characters of ASCII, spaces and tabs. -/
def isPlainText (value : String) : Bool :=
  value.toList.all fun c => c == '\t' || (32 ≤ c.toNat && c.toNat < 127)

/-- The value of a header without the blanks around it. A blank value is none. -/
def Headers.text? (headers : Headers) (name : String) : Option String :=
  let found := headers.find? fun (n, _) => smallLetters n == name
  let value := (found.filter fun (_, v) => isPlainText v).map fun (_, v) => Text.trimmed v
  value.filter (!·.isEmpty)

/-- The header of the client's theme. -/
def themeHeader : String := "x-trellis-theme"

/-- The header of the client's time zone. -/
def timezoneHeader : String := "x-trellis-timezone"

/-- What a render is about when it is asked for over HTTP. -/
def requestOf (uri : Uri) (headers : Headers) : Request :=
  let authority := if uri.authority.isEmpty then none else some uri.authority
  { user := none
    url :=
      { path := uri.path
        query := uri.query.getD ""
        host := ((headers.text? "host").or authority).getD ""
        protocol := ((headers.text? "x-forwarded-proto").or uri.scheme).getD "http" }
    language := (headers.text? "accept-language").bind preferredLanguage?
    theme := headers.text? themeHeader
    timezone := headers.text? timezoneHeader }

end Stencil.Http
