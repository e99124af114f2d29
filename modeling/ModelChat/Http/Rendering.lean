import ModelChat.Http.Header
import ModelChat.Json.Printer
import ModelChat.Json.Reader
import ModelChat.Text.Lines

/-! Requests and responses as text for the operator, without credentials. -/
namespace ModelChat.Http
open Text

/-- Shows no authorization and of a cookie only the name. -/
def redact (name value : String) : String :=
  let key := lowerCase name
  if key = "authorization" then "[...]"
  else if key = "cookie" ∨ key = "set-cookie" then
    String.ofList (value.toList.takeWhile (· ≠ '=')) ++ "=..."
  else value

def indented (line : String) : String :=
  "    " ++ line ++ "\n"

def headerLine (h : Header) : String :=
  indented (h.key ++ ": " ++ redact h.key (Utf8.decodeLossy h.value))

/-- A JSON body is laid out anew; any other is shown as it is. -/
def bodyText (body : Bytes) : String :=
  match Json.parse body with
  | .ok v => v.canonical.pretty
  | .error _ => Utf8.decodeLossy body

def renderBody (body : Bytes) : String :=
  String.join ((lines (bodyText body)).map indented)

/-- A first line, the header lines by name, and the lines of the body. -/
def render (start : String) (headers : List Header) (body : Bytes) : String :=
  start ++ "\n  Headers:\n" ++ String.join ((Header.grouped headers).map headerLine)
    ++ "  Body:\n" ++ renderBody body

def Response.render (r : Response) : String :=
  Http.render ("Response: status_code=" ++ toString r.status) r.headers r.body

end ModelChat.Http
