import ModelChat.Client

/-! Observers of exchanges. They are shown every request before it is sent and every response after
it has been read, and cannot change either. -/
namespace ModelChat
open Http

/-- What looks at exchanges and takes notes. A hook that is not given notes nothing. -/
structure Observer (ω : Type) where
  beforeSend : ω → HttpRequest → ω := fun notes _ => notes
  afterReceive : ω → Response → ω := fun notes _ => notes

namespace Observer

/-- Notes both sides as text. -/
def recording : Observer (List String) where
  beforeSend notes q := notes ++ [q.render]
  afterReceive notes r := notes ++ [r.render]

/-- Has the default hooks. -/
def blind {ω : Type} : Observer ω := {}

end Observer

namespace Client

/-- What comes of calls that an observer may follow. -/
structure Watched (ω α : Type) where
  result : α
  notes : ω
  network : Network

/-- A call with the hooks in their places. The result comes with what is logged. -/
def watch {ω : Type} (c : Client) (observer : Option (Observer ω)) (notes : ω) (network : Network)
    (r : Request) : Watched ω (Outcome × List Event) :=
  match c.build r with
  | .error fault => ⟨(.error (.ofSendFault (.builder fault)), []), notes, network⟩
  | .ok built =>
    let asking := Event.requesting built.url.text r.messages.length
    let notes := observer.elim notes (·.beforeSend notes built)
    match network.exchange c.timeoutSecs built with
    | (.error fault, network) => ⟨(.error (.ofSendFault fault), [asking]), notes, network⟩
    | (.ok response, network) =>
      let notes := observer.elim notes (·.afterReceive notes response)
      let outcome := Completion.ofResponse response
      ⟨(outcome, asking :: Completion.events outcome), notes, network⟩

/-- Calls one after another over the same network, with one observer. -/
def watchAll {ω : Type} (c : Client) (observer : Option (Observer ω)) (notes : ω)
    (network : Network) : List Request → Watched ω (List (Outcome × List Event))
  | [] => ⟨[], notes, network⟩
  | r :: rs =>
    let first := c.watch observer notes network r
    let rest := c.watchAll observer first.notes first.network rs
    { rest with result := first.result :: rest.result }

end Client
end ModelChat
