import ModelChat.Conversation
import ModelChat.Proofs.Session.History

/-! Conversations on a screen that never refuses. Main statement: what the operator is asked,
what the model is asked and what is shown are read off the lines and one run of a session. -/
namespace ModelChat.Conversation
open Session
variable {σ : Type}

/-- The lines before the input ends or fails. -/
def inputs : List Line → List String
  | .text line :: rest => line :: inputs rest
  | _ => []

/-- What a session is asked to do by lines: to set a prompt, then to take turns. -/
def actions : List Line → List Action
  | .text prompt :: rest => .systemPrompt prompt :: (inputs rest).map .turn
  | _ => []

/-- How the input ends after those lines. -/
def close : List Line → Ending
  | .text _ :: rest => close rest
  | .failure reason :: _ => .terminal reason
  | _ => .endOfInput

/-- What the model says when actions are carried out, whether it fails in between or not. -/
def outcomes (model : Model σ) (state : σ) (s : Session) (as : List Action) : List Outcome :=
  (s.calls model state as).filterMap Call.outcome?

/-- The replies before the first failure. -/
def replies : List Outcome → List Reply
  | .ok completion :: rest => .ofRaw completion.content :: replies rest
  | _ => []

/-- The first failure. -/
def failure? : List Outcome → Option Failure
  | [] => none
  | .ok _ :: rest => failure? rest
  | .error failure :: _ => some failure

/-- Replies as the operator sees them, each on a line of its own. -/
def text (shown : List Reply) : String :=
  String.join (shown.map fun reply => reply.display ++ "\n")

/-- A screen that has shown these replies and never refuses. -/
def showing (shown : List Reply) : Screen :=
  ⟨none, none, text shown, shown.length⟩

/-- What has come of a conversation when turns were taken until the model failed or the lines
ended. -/
structure Follows (model : Model σ) (state : σ) (s : Session) (earlier : List Reply)
    (lines : List Line) (said : List Outcome) (record : Record σ) : Prop where
  requests : record.requests = (s.run model state
    (((inputs lines).take ((replies said).length + 1)).map .turn)).flatMap (·.requests)
  reached : (record.session, record.state) =
    s.reach model state (((inputs lines).take ((replies said).length + 1)).map .turn)
  screen : record.screen = showing (earlier ++ replies said)
  prompts : record.prompts = List.replicate ((replies said).length + 1) userPrompt
  ending : record.ending = match failure? said with
    | some failure => .session (.completion failure)
    | none => close lines

theorem text_concat (shown : List Reply) (reply : Reply) :
    text (shown ++ [reply]) = text shown ++ reply.display ++ "\n" := by
  simp [text, String.join_append, String.append_assoc]

theorem display_showing (shown : List Reply) (reply : Reply) :
    (showing shown).display reply.display = (none, showing (shown ++ [reply])) := by
  simp [showing, Screen.display, Screen.reached, text_concat]

section Turn
variable (model : Model σ) (s : Session) (state : σ) (line : String)

/-- The model is asked once in a turn, and then in those that follow. -/
theorem outcomes_turn (as : List Action) :
    let turn := s.turn model state line
    outcomes model state s (.turn line :: as) =
      (model.complete state turn.request).outcome ::
        outcomes model turn.state turn.step.session as :=
  rfl

/-- If the model fails in a turn, so does the conversation. -/
theorem answer_failed {failure : Failure}
    (hsaid : (model.complete state (s.turn model state line).request).outcome = .error failure)
    (screen : Screen) (rest : List Line) :
    let turn := s.turn model state line
    answer model s screen state (.text line :: rest) =
      (stop (.session (.completion failure)) turn.step.session screen turn.state).after
        [userPrompt] [turn.request] turn.step.events := by
  simp only [answer, turn_result, hsaid]

variable {completion : Completion}
  (hsaid : (model.complete state (s.turn model state line).request).outcome = .ok completion)
  {screen after : Screen}
include hsaid

/-- When a reply has been shown, the rest of the lines is answered. -/
theorem answer_shown
    (hshown : screen.display (Reply.ofRaw completion.content).display = (none, after))
    (rest : List Line) :
    let turn := s.turn model state line
    answer model s screen state (.text line :: rest) =
      (answer model turn.step.session after turn.state rest).after
        [userPrompt] [turn.request] turn.step.events := by
  simp only [answer, turn_result, hsaid, hshown]

/-- When a reply is refused, the conversation stops; the session has taken it in. -/
theorem answer_refused {reason : String}
    (hshown : screen.display (Reply.ofRaw completion.content).display = (some reason, after))
    (rest : List Line) :
    let turn := s.turn model state line
    answer model s screen state (.text line :: rest) =
      (stop (.screen reason) turn.step.session after turn.state).after
        [userPrompt] [turn.request] turn.step.events := by
  simp only [answer, turn_result, hsaid, hshown]

end Turn

/-- Turn after turn, a conversation keeps to its session. -/
theorem answer_follows (model : Model σ) (state : σ) (s : Session) (earlier : List Reply)
    (lines : List Line) :
    Follows model state s earlier lines (outcomes model state s ((inputs lines).map .turn))
      (answer model s (showing earlier) state lines) := by
  have hstop (earlier : List Reply) : showing earlier = showing (earlier ++ []) :=
    congrArg showing earlier.append_nil.symm
  -- A turn that fails ends the induction early: what follows is said, but neither asked nor shown.
  induction lines generalizing s state earlier with
  | nil => exact ⟨rfl, rfl, hstop earlier, rfl, rfl⟩
  | cons first rest ih =>
    cases first with
    | endOfInput => exact ⟨rfl, rfl, hstop earlier, rfl, rfl⟩
    | failure reason => exact ⟨rfl, rfl, hstop earlier, rfl, rfl⟩
    | text line =>
      let turn := s.turn model state line
      rw [inputs, List.map_cons, outcomes_turn]
      cases hsaid : (model.complete state turn.request).outcome with
      | error failure =>
        rw [answer_failed model s state line hsaid]
        exact ⟨rfl, rfl, hstop earlier, rfl, rfl⟩
      | ok completion =>
        let reply := Reply.ofRaw completion.content
        obtain ⟨hrequests, hreached, hscreen, hprompts, hending⟩ :=
          ih turn.state turn.step.session (earlier ++ [reply])
        rw [answer_shown model s state line hsaid (display_showing earlier reply)]
        rw [List.append_assoc] at hscreen
        exact ⟨congrArg (turn.request :: ·) hrequests, hreached, hscreen,
          congrArg (userPrompt :: ·) hprompts, hending⟩

section Run
variable (model : Model σ) (state : σ) (sampling : Sampling) (limit : Option Limit)

/-- In a new session any first line may be the system prompt; an empty one is skipped. -/
theorem run_text (screen : Screen) (prompt : String) (rest : List Line) :
    let step := (start sampling limit).setSystemPrompt prompt
    run model (start sampling limit) screen state (.text prompt :: rest) =
      (answer model step.session screen state rest).after [systemPrompt] [] step.events := by
  obtain ⟨isSet, hset⟩ := setSystemPrompt_start sampling limit prompt
  simp only [run, hset]

/-- For every script and every model, a conversation with a new session on a screen that never
refuses asks for the system prompt once. Without a first line nothing else happens. With one, the
session and the requests are those of the prompt and of one turn for each line up to the end of the
input or the first failure of the model; the operator is asked before each of these lines and once
for what ends them, and sees each reply on a line of its own, flushed. -/
theorem run_follows_script (lines : List Line) :
    let s := start sampling limit
    let record := run model s (.blank none none) state lines
    match lines with
    | .text prompt :: rest =>
      let said := outcomes model state s (.systemPrompt prompt :: (inputs rest).map .turn)
      let shown := replies said
      let as := .systemPrompt prompt :: ((inputs rest).take (shown.length + 1)).map .turn
      record.requests = (s.run model state as).flatMap (·.requests) ∧
      (record.session, record.state) = s.reach model state as ∧
      record.screen.written = text shown ∧ record.screen.flushes = shown.length ∧
      record.prompts = systemPrompt :: List.replicate (shown.length + 1) userPrompt ∧
      record.ending = match failure? said with
        | some failure => .session (.completion failure)
        | none => close rest
    | _ =>
      record.requests = [] ∧ (record.session, record.state) = (s, state) ∧
      s.transcript.messages = [] ∧ record.screen.written = "" ∧ record.screen.flushes = 0 ∧
      record.prompts = [systemPrompt] ∧ record.ending = close lines := by
  intro s record
  have hempty : s.transcript.messages = [] := start_messages sampling limit
  cases lines with
  | nil => exact ⟨rfl, rfl, hempty, rfl, rfl, rfl, rfl⟩
  | cons first rest =>
    cases first with
    | endOfInput => exact ⟨rfl, rfl, hempty, rfl, rfl, rfl, rfl⟩
    | failure reason => exact ⟨rfl, rfl, hempty, rfl, rfl, rfl, rfl⟩
    | text prompt =>
      let step := s.setSystemPrompt prompt
      obtain ⟨hrequests, hreached, hscreen, hprompts, hending⟩ :=
        answer_follows model state step.session [] rest
      have hrun : record = _ := run_text model state sampling limit (showing []) prompt rest
      rw [hrun]
      exact ⟨hrequests, hreached, congrArg Screen.written hscreen, congrArg Screen.flushes hscreen,
        congrArg (systemPrompt :: ·) hprompts, hending⟩

end Run
end ModelChat.Conversation
