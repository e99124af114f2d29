import ModelChat.Session

/-! The chat loop between the operator, the model and the screen. -/
namespace ModelChat

/-- What the operator's terminal gives. -/
inductive Line where
  | text (line : String)
  | endOfInput
  | failure (reason : String)
  deriving DecidableEq, Repr

/-- Where replies are shown. It may refuse to write, or to flush, after a number of flushes. -/
structure Screen where
  refuseWrites : Option Nat
  refuseFlushes : Option Nat
  written : String
  flushes : Nat
  deriving DecidableEq, Repr

namespace Screen

def blank (refuseWrites refuseFlushes : Option Nat) : Screen :=
  ⟨refuseWrites, refuseFlushes, "", 0⟩

/-- Whether a number of flushes has been reached. -/
def reached (s : Screen) (after : Option Nat) : Bool :=
  after.any (· ≤ s.flushes)

/-- Writes a line and flushes it; gives why it failed, if it did. -/
def display (s : Screen) (line : String) : Option String × Screen :=
  if s.reached s.refuseWrites then (some "write refused", s)
  else
    let s := { s with written := s.written ++ line ++ "\n" }
    if s.reached s.refuseFlushes then (some "flush refused", s)
    else (none, { s with flushes := s.flushes + 1 })

end Screen

namespace Conversation

/-- The model asked when none is named. -/
def defaultModel : String := "mistral"

/-- Shown before the first line and before every other one. -/
def systemPrompt : String := "Enter system prompt >>> "
def userPrompt : String := ">>> "

/-- How a conversation ends. -/
inductive Ending where
  | endOfInput
  | session (error : SessionError)
  | screen (reason : String)
  | terminal (reason : String)
  deriving DecidableEq, Repr

/-- A conversation after it has ended. -/
structure Record (σ : Type) where
  ending : Ending
  session : Session
  screen : Screen
  state : σ
  prompts : List String
  requests : List Request
  events : List Event

/-- Puts what one turn showed and noted before the rest. -/
def Record.after {σ : Type} (r : Record σ) (prompts : List String) (requests : List Request)
    (events : List Event) : Record σ :=
  { r with
    prompts := prompts ++ r.prompts
    requests := requests ++ r.requests
    events := events ++ r.events }

/-- A conversation that ends here. -/
def stop {σ : Type} (ending : Ending) (session : Session) (screen : Screen) (state : σ) :
    Record σ :=
  ⟨ending, session, screen, state, [], [], []⟩

/-- The end of input; the length of the transcript is noted. -/
def finish {σ : Type} (session : Session) (screen : Screen) (state : σ) : Record σ :=
  { stop .endOfInput session screen state with
    events := [.chatEnded session.transcript.messages.length] }

/-- Answers line after line until the input ends or something fails. -/
def answer {σ : Type} (model : Model σ) (session : Session) (screen : Screen) (state : σ) :
    List Line → Record σ
  | [] => (finish session screen state).after [userPrompt] [] []
  | .endOfInput :: _ => (finish session screen state).after [userPrompt] [] []
  | .failure reason :: _ =>
    (stop (.terminal reason) session screen state).after [userPrompt] [] []
  | .text line :: rest =>
    let turn := session.turn model state line
    let record := match turn.step.result with
      | .error e => stop (.session e) turn.step.session screen turn.state
      | .ok reply =>
        match screen.display reply.display with
        | (some reason, screen) => stop (.screen reason) turn.step.session screen turn.state
        | (none, screen) => answer model turn.step.session screen turn.state rest
    record.after [userPrompt] [turn.request] turn.step.events

/-- Asks for the system prompt once, then answers. -/
def run {σ : Type} (model : Model σ) (session : Session) (screen : Screen) (state : σ) :
    List Line → Record σ
  | [] => (stop .endOfInput session screen state).after [systemPrompt] [] []
  | .endOfInput :: _ => (stop .endOfInput session screen state).after [systemPrompt] [] []
  | .failure reason :: _ =>
    (stop (.terminal reason) session screen state).after [systemPrompt] [] []
  | .text prompt :: rest =>
    let step := session.setSystemPrompt prompt
    let record := match step.result with
      | .error e => stop (.session e) step.session screen state
      | .ok _ => answer model step.session screen state rest
    record.after [systemPrompt] [] step.events

end Conversation
end ModelChat
