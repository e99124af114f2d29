import ModelChat.Http.Base64
import ModelChat.Http.Rendering
import ModelChat.Http.Url

/-! Requests before they are sent. -/
namespace ModelChat.Http
open Text

structure HttpRequest where
  method : String
  url : Url
  headers : List Header
  body : Option Bytes
  deriving DecidableEq, Repr

/-- Why a request cannot be built or sent. -/
inductive BuildFault where
  /-- The address is malformed, or a header value has a control character. -/
  | malformed
  /-- The address does not lead to a server of this protocol. -/
  | badAddress (url : String)
  deriving DecidableEq, Repr

def BuildFault.message : BuildFault → String
  | malformed => "builder error"
  | badAddress url => "builder error for url (" ++ url ++ ")"

/-- The user and password of an address, decoded, if there are any. -/
def credentials? (u : Url) : Option (String × Option String) := do
  let decoded (s : String) : Option String := Utf8.decode? (Percent.decode (Utf8.encode s))
  let a ← u.authority
  let user ← decoded a.user
  let password := a.password.bind decoded
  if user.isEmpty ∧ password.isNone then none else some (user, password)

/-- The header value for a user and a password. -/
def basicAuthorization (user : String) (password : Option String) : Bytes :=
  Utf8.encode "Basic " ++
    Utf8.encodeChars (Base64.encode (Utf8.encode (user ++ ":" ++ password.getD "")))

/-- Whether a header may have this value: no control characters but the tab. -/
def isHeaderValue (value : Bytes) : Bool :=
  value.all fun b => b = 9 || (32 ≤ b && b ≠ 127)

namespace HttpRequest

/-- Takes the credentials out of the address into a header of its own, which `merge` puts together
with the given ones. -/
def build (merge : List Header → List Header → List Header) (method url : String)
    (headers : List Header) (body : Option Bytes) : Except BuildFault HttpRequest :=
  match Url.parse? url with
  | none => .error .malformed
  | some u =>
    if !u.hasHost then .error (.badAddress u.text)
    else if !headers.all (isHeaderValue ·.value) then .error .malformed
    else match credentials? u with
      | none => .ok ⟨method, u, headers, body⟩
      | some (user, password) =>
        let own : Header := ⟨"authorization", basicAuthorization user password⟩
        .ok ⟨method, u.withoutUser, merge [own] headers, body⟩

def render (r : HttpRequest) : String :=
  Http.render ("Request: " ++ r.method ++ " " ++ r.url.text) r.headers (r.body.getD [])

end HttpRequest
end ModelChat.Http
