import ModelChat.Http.Network
import ModelChat.Session

/-! A model behind a server. -/
namespace ModelChat
open Text Http

structure Client where
  apiBaseUrl : String
  apiKey : String
  /-- How long a call may take. -/
  timeoutSecs : Nat
  deriving DecidableEq, Repr

/-- The network as one client leaves it, and the exchanges as text for an observer. -/
structure Link where
  network : Network
  observed : List String

/-- A request that cannot be made is the caller's fault, everything else that of the connection. -/
def Failure.ofSendFault : SendFault → Failure
  | .builder fault => .invalidRequest fault.message
  | .connection fault => .connection fault

namespace Client

/-- The address of the service: the base without slashes at its end, and a fixed path. -/
def endpoint (c : Client) : String :=
  let base := (c.apiBaseUrl.toList.reverse.dropWhile (· = '/')).reverse
  String.ofList base ++ "/chat/completions"

def headers (c : Client) : List Header := [
  ⟨"authorization", Utf8.encode ("Bearer " ++ c.apiKey)⟩,
  ⟨"content-type", Utf8.encode "application/json"⟩]

/-- The request for a call. Credentials in the base address do not replace the key. -/
def build (c : Client) (r : Request) : Except BuildFault HttpRequest :=
  HttpRequest.build (· ++ ·) "POST" c.endpoint c.headers (some (Utf8.encode r.text))

/-- The result of a call. -/
structure Call where
  outcome : Outcome
  events : List Event
  observed : List String
  network : Network

/-- Sends a built request. -/
def send (c : Client) (network : Network) (r : HttpRequest) : Call :=
  match network.exchange c.timeoutSecs r with
  | (.error fault, network) => ⟨.error (.ofSendFault fault), [], [], network⟩
  | (.ok response, network) =>
    let outcome := Completion.ofResponse response
    ⟨outcome, Completion.events outcome, [response.render], network⟩

/-- Builds the request, sends it and reads the response. Each side is shown to the observer. -/
def call (c : Client) (network : Network) (r : Request) : Call :=
  match c.build r with
  | .error fault => ⟨.error (.ofSendFault (.builder fault)), [], [], network⟩
  | .ok built =>
    let sent := c.send network built
    { sent with
      events := .requesting built.url.text r.messages.length :: sent.events
      observed := built.render :: sent.observed }

/-- Calls one after another over the same network. -/
def calls (c : Client) (network : Network) : List Request → List Call
  | [] => []
  | r :: rs =>
    let call := c.call network r
    call :: c.calls call.network rs

/-- The client as a model. -/
def model (c : Client) : Model Link where
  complete link r :=
    let call := c.call link.network r
    ⟨call.outcome, call.events, ⟨call.network, link.observed ++ call.observed⟩⟩

end Client
end ModelChat
