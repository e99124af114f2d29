import ModelChat.Http.Header
import ModelChat.Json.Printer
import ModelChat.Json.Reader
import ModelChat.Log

/-! Completions, and why there may be none. -/
namespace ModelChat
open Text Http

/-- The first choice a server offers. -/
structure Completion where
  content : String
  finishReason : Option String
  deriving DecidableEq, Repr

/-- Why a request got no complete response. -/
inductive ConnectionFault where
  /-- There is no way to the server. -/
  | unreachable (url : String)
  /-- The server closed the connection before its answer. -/
  | closed (url : String)
  /-- The time ran out. -/
  | timedOut (url : String)
  /-- The server kept sending the client elsewhere. -/
  | tooManyRedirects (url : String)
  /-- The body ended too early. -/
  | cutShort
  deriving DecidableEq, Repr

namespace ConnectionFault

def message : ConnectionFault → String
  | unreachable url => "error sending request for url (" ++ url ++ ")"
  | closed url => "error sending request for url (" ++ url ++ ")"
  | timedOut url => "error sending request for url (" ++ url ++ ")"
  | tooManyRedirects url => "error following redirect for url (" ++ url ++ ")"
  | cutShort => "error decoding response body"

/-- The causes below the message, each one the cause of the one before. -/
def causes : ConnectionFault → List String
  | unreachable _ =>
    ["client error (Connect)", "tcp connect error", "Network is unreachable (os error 101)"]
  | closed _ => ["client error (SendRequest)", "connection closed before message completed"]
  | timedOut _ => ["operation timed out"]
  | tooManyRedirects _ => ["too many redirects"]
  | cutShort =>
    ["error reading a body from connection", "end of file before message length reached"]

end ConnectionFault

/-- Every way in which a call to a model can fail. -/
inductive Failure where
  | connection (fault : ConnectionFault)
  | rateLimited (retryAfter : Option String)
  | status (code : Nat) (body : String)
  | invalidResponse (reason : String)
  | invalidRequest (reason : String)
  deriving DecidableEq, Repr

def Failure.message : Failure → String
  | connection fault => "Connection to model server failed: " ++ fault.message
  | rateLimited retryAfter =>
    "Rate limited by model server (retry after: " ++ retryAfter.getD "unknown" ++ ")"
  | status code body => "Model server returned HTTP " ++ toString code ++ ": " ++ body
  | invalidResponse reason => "Invalid response from model server: " ++ reason
  | invalidRequest reason => "Invalid request: " ++ reason

/-- The result of a call to a model. -/
abbrev Outcome := Except Failure Completion

namespace Completion

/-- The first choice in a response body. Everything else in the body is ignored. -/
def ofJson (v : Json) : Outcome :=
  let choice := (v.member? "choices").bind (Json.item? 0)
  let content := ((choice.bind (Json.member? "message")).bind (Json.member? "content")).bind
    Json.string?
  match content with
  | some text => .ok ⟨text, (choice.bind (Json.member? "finish_reason")).bind Json.string?⟩
  | none => .error (.invalidResponse ("No message received. Resp: " ++ v.canonical.compact))

def ofBody (body : Bytes) : Outcome :=
  match Json.parse body with
  | .ok v => ofJson v
  | .error fault => .error (.invalidResponse ("Body is not JSON: " ++ fault.message body))

/-- What a complete response means. -/
def ofResponse (r : Response) : Outcome :=
  if r.status = 429 then
    .error (.rateLimited ((Header.valuesOf "retry-after" r.headers).head?.bind Header.plainText?))
  else if r.status < 200 ∨ 300 ≤ r.status then
    .error (.status r.status (Utf8.decodeLossy r.body))
  else ofBody r.body

/-- Only a success is noted. -/
def events : Outcome → List Event
  | .ok c => [.completed c.finishReason]
  | .error _ => []

end Completion
end ModelChat
