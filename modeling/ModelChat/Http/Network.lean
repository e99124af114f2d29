import ModelChat.Completion
import ModelChat.Http.Request

/-! The network between a client and a server that follows a script. -/
namespace ModelChat.Http
open Text

/-- What the server does with one request. -/
inductive Delivery where
  /-- Sends a response that a client can read. With a length, the body is read up to it; without
  one, up to the end of the connection. Headers that would tell of a length are not among those of
  the response. -/
  | response (response : Response) (length : Option Nat)
  /-- Closes the connection without a response. -/
  | close
  /-- Never answers. -/
  | hang
  deriving DecidableEq, Repr

/-- Why a request that has been built gets no response. -/
inductive SendFault where
  /-- No request can be made for an address, the first one or one that a redirection leads to. -/
  | builder (fault : BuildFault)
  | connection (fault : ConnectionFault)
  deriving DecidableEq, Repr

/-- A value without blanks around it. -/
def trimmed (value : Bytes) : Bytes :=
  let isBlank (b : UInt8) : Bool := b = 32 || b = 9
  ((value.dropWhile isBlank).reverse.dropWhile isBlank).reverse

/-- What a client makes of a location. -/
inductive Redirection where
  /-- It is passed over. -/
  | ignored
  /-- It leads to an address that requests are sent to. -/
  | onward (u : Url) (sendable : u.isSendable = true)
  /-- No request can be made for it. -/
  | refused (fault : BuildFault)

/-- Reads a location, which may be relative to the address of the request. -/
def Redirection.read (asked : Url) (location : Bytes) : Redirection :=
  match (Utf8.decode? location).bind asked.join? with
  | none => .ignored
  | some u =>
    if !u.fitsRequest then .ignored
    else if sendable : u.isSendable = true then .onward u sendable
    else .refused (.badAddress u.text)

/-- What lies between a client and a server. How locations are read is not settled here. -/
structure Route where
  reachable : Bool
  locate : Url → Bytes → Redirection

namespace Route

/-- A way to the server. -/
def direct : Route := ⟨true, Redirection.read⟩

/-- No way to any server. -/
def blocked : Route := ⟨false, Redirection.read⟩

def isRedirect (status : Nat) : Bool :=
  [301, 302, 303, 307, 308].contains status

/-- Where a response to a request sends the client, if anywhere. -/
def redirection (route : Route) (asked : Url) (response : Response) : Redirection :=
  match (Header.valuesOf "location" response.headers).head? with
  | some location =>
    if isRedirect response.status then route.locate asked (trimmed location) else .ignored
  | none => .ignored

end Route

/-- The way to the server, what the server is going to do, and the requests it has got so far. -/
structure Network where
  route : Route
  script : List Delivery
  seen : List HttpRequest

namespace Network

/-- The response as the client reads it; `none` if the body ends too early. Some responses have no
body at all. -/
def receive (r : Response) (length : Option Nat) : Option Response :=
  let headers := r.headers.map fun h => { h with value := trimmed h.value }
  let headers := match length with
    | some n => ⟨"content-length", Utf8.encode (toString n)⟩ :: headers
    | none => headers
  if [101, 204, 304].contains r.status then some { r with headers, body := [] }
  else match length with
    | some n => if r.body.length < n then none else some { r with headers, body := r.body.take n }
    | none => some { r with headers }

/-- Whether another response has to follow. -/
def isInterim (status : Nat) : Bool :=
  100 ≤ status && status < 200 && status ≠ 101

/-- What comes of a request: a response, with the length of its body if that is told. An interim
one has no body, and the other one does not follow. -/
def answer (url : String) : Delivery → Except ConnectionFault (Response × Option Nat)
  | .response response length =>
    if isInterim response.status then .error (.closed url) else .ok (response, length)
  | .close => .error (.closed url)
  | .hang => .error (.timedOut url)

/-- One request and what comes of it. After the script the server closes every connection. -/
def deliver (n : Network) (r : HttpRequest) :
    Except ConnectionFault (Response × Option Nat) × Network :=
  if !n.route.reachable then (.error (.unreachable r.url.text), n)
  else
    let item := n.script.head?.getD .close
    (answer r.url.text item,
      { n with script := n.script.tail, seen := if item = .hang then n.seen else n.seen ++ [r] })

/-- Whether two addresses lead to the same server. -/
def sameServer (u v : Url) : Bool :=
  u.authority.map Authority.host = v.authority.map Authority.host && u.port? = v.port?

/-- The request that follows a redirection. Only two kinds repeat the request as it was; another
server gets no authorization. -/
def redirected (r : HttpRequest) (status : Nat) (u : Url) : HttpRequest :=
  let headers := if sameServer r.url u then r.headers
    else r.headers.filter (·.key ≠ "authorization")
  if status = 307 ∨ status = 308 then { r with url := u, headers }
  else ⟨"GET", u, headers.filter (·.key ≠ "content-type"), none⟩

/-- What a delivery comes to. -/
inductive Step where
  /-- The end, with a response or without. -/
  | ended (result : Except ConnectionFault Response)
  | refused (fault : BuildFault)
  | sentOn (next : HttpRequest)

/-- Reads what was delivered for a request. -/
def step (route : Route) (r : HttpRequest) :
    Except ConnectionFault (Response × Option Nat) → Step
  | .error fault => .ended (.error fault)
  | .ok (response, length) =>
    match route.redirection r.url response with
    | .ignored =>
      match receive response length with
      | some received => .ended (.ok received)
      | none => .ended (.error .cutShort)
    | .refused fault => .refused fault
    | .onward u _ => .sentOn (redirected r response.status u)

/-- Sends a request and follows at most `redirects` redirections. -/
def follow : (redirects : Nat) → Network → HttpRequest → Except SendFault Response × Network
  | redirects, n, r =>
    let (delivered, n) := n.deliver r
    match step n.route r delivered, redirects with
    | .ended result, _ => (result.mapError .connection, n)
    | _, 0 => (.error (.connection (.tooManyRedirects r.url.text)), n)
    | .refused fault, _ + 1 => (.error (.builder fault), n)
    | .sentOn next, redirects + 1 => follow redirects n next

def maxRedirects : Nat := 10

/-- Sends a request, if its address leads to a network, and reads the final response. What the
server does takes it no time, or all the time there is; without any time nothing comes in time. -/
def exchange (n : Network) (timeoutSecs : Nat) (r : HttpRequest) :
    Except SendFault Response × Network :=
  let url := r.url.text
  if !r.url.isSendable then (.error (.builder (.badAddress url)), n)
  else if timeoutSecs = 0 ∧ n.route.reachable then (.error (.connection (.timedOut url)), n)
  else follow maxRedirects n r

end Network
end ModelChat.Http
