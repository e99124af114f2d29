import ModelChat.Completion
import ModelChat.Reply
import ModelChat.Request
import ModelChat.Transcript

/-! A conversation with a model, turn by turn. -/
namespace ModelChat

/-- What a model gives for a request. -/
structure Answer (σ : Type) where
  outcome : Outcome
  events : List Event
  state : σ

/-- Anything that turns a request into an outcome, depending on its own state. -/
structure Model (σ : Type) where
  complete : σ → Request → Answer σ

/-- A model that replays outcomes in order; after the last it fails. -/
def Model.scripted (exhausted : Failure) : Model (List Outcome) where
  complete
    | [], _ => ⟨.error exhausted, [], []⟩
    | outcome :: rest, _ => ⟨outcome, [], rest⟩

inductive SessionError where
  | systemPromptAlreadySet
  | systemPromptAfterFirstTurn
  | completion (failure : Failure)
  deriving DecidableEq, Repr

def SessionError.message : SessionError → String
  | systemPromptAlreadySet => "A system prompt has already been set for this session"
  | systemPromptAfterFirstTurn => "The system prompt must be set before the first turn"
  | completion failure => failure.message

structure Session where
  sampling : Sampling
  transcript : Transcript
  deriving Repr

namespace Session

def start (sampling : Sampling) (limit : Option Limit) : Session :=
  ⟨sampling, (Transcript.empty.withLimit limit).1⟩

/-- The result of a step: what it gives, the session after it, and what it noted. -/
structure Step (α : Type) where
  result : Except SessionError α
  session : Session
  events : List Event

/-- Sets the system prompt, once and before the first turn. An empty one is skipped. -/
def setSystemPrompt (s : Session) (prompt : String) : Step Bool :=
  if prompt.isEmpty then ⟨.ok false, s, []⟩
  else if s.transcript.hasSystem then ⟨.error .systemPromptAlreadySet, s, []⟩
  else if !s.transcript.messages.isEmpty then ⟨.error .systemPromptAfterFirstTurn, s, []⟩
  else
    let (transcript, gone) := s.transcript.push (.ofText .system prompt)
    ⟨.ok true, { s with transcript }, Transcript.events gone⟩

/-- The session after the operator has spoken. -/
def ask (s : Session) (input : String) : Session × List Event :=
  let (transcript, gone) := s.transcript.push (.ofText .user input)
  ({ s with transcript }, Transcript.events gone)

/-- What the model is asked in this state: the settings and all that is kept. -/
def request (s : Session) : Request :=
  ⟨s.sampling, s.transcript.messages⟩

/-- Takes in what the model said. A failure leaves the session as it is. -/
def receive (s : Session) : Outcome → Step Reply
  | .error failure => ⟨.error (.completion failure), s, []⟩
  | .ok completion =>
    let reply := Reply.ofRaw completion.content
    let cut := if reply.isTruncated then
      [Event.cutOff s.sampling.maxTokens completion.finishReason] else []
    let (transcript, gone) := s.transcript.push (.ofText .assistant reply.text)
    ⟨.ok reply, { s with transcript }, cut ++ Transcript.events gone⟩

/-- A turn: the step, what the model was asked, and the model's state after it. -/
structure Turn (σ : Type) where
  step : Step Reply
  request : Request
  state : σ

/-- Records the input, asks the model and records its reply. -/
def turn {σ : Type} (model : Model σ) (state : σ) (s : Session) (input : String) : Turn σ :=
  let (asking, noted) := s.ask input
  let answer := model.complete state asking.request
  let step := asking.receive answer.outcome
  ⟨{ step with events := noted ++ answer.events ++ step.events }, asking.request, answer.state⟩

/-- What can be done with a session. -/
inductive Action where
  | systemPrompt (prompt : String)
  | turn (input : String)
  deriving DecidableEq, Repr

/-- What comes of an action. -/
inductive Gain where
  | systemPrompt (isSet : Bool)
  | reply (reply : Reply)
  deriving DecidableEq, Repr

/-- An action that has been carried out: its result, what the model was asked, and all that it
leaves behind. -/
structure Stage (σ : Type) where
  result : Except SessionError Gain
  requests : List Request
  session : Session
  state : σ
  events : List Event

def act {σ : Type} (model : Model σ) (state : σ) (s : Session) : Action → Stage σ
  | .systemPrompt prompt =>
    let step := s.setSystemPrompt prompt
    ⟨step.result.map .systemPrompt, [], step.session, state, step.events⟩
  | .turn input =>
    let turn := s.turn model state input
    ⟨turn.step.result.map .reply, [turn.request], turn.step.session, turn.state,
      turn.step.events⟩

/-- Carries out actions one after another. -/
def run {σ : Type} (model : Model σ) (state : σ) (s : Session) : List Action → List (Stage σ)
  | [] => []
  | a :: as =>
    let stage := s.act model state a
    stage :: run model stage.state stage.session as

end Session
end ModelChat
