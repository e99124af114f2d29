import ModelChat.Session

/-! Sessions in use: the calls that were made, and where they lead. -/
namespace ModelChat.Session
variable {σ : Type}

/-- An action with what came back: from the session for a prompt, from the model for a turn. -/
inductive Call where
  | systemPrompt (prompt : String) (answer : Except SessionError Bool)
  | turn (input : String) (outcome : Outcome)

/-- The call that an action becomes. -/
def call (model : Model σ) (state : σ) (s : Session) : Action → Call
  | .systemPrompt prompt => .systemPrompt prompt (s.setSystemPrompt prompt).result
  | .turn input =>
    .turn input (model.complete state (s.turn model state input).request).outcome

/-- The calls of actions carried out one after another. -/
def calls (model : Model σ) (state : σ) (s : Session) : List Action → List Call
  | [] => []
  | a :: as =>
    let stage := s.act model state a
    s.call model state a :: stage.session.calls model stage.state as

/-- The session and the state of its model after actions. -/
def reach (model : Model σ) (state : σ) (s : Session) : List Action → Session × σ
  | [] => (s, state)
  | a :: as =>
    let stage := s.act model state a
    stage.session.reach model stage.state as

/-- What the model said in a call, if it was asked. -/
def Call.outcome? : Call → Option Outcome
  | .systemPrompt _ _ => none
  | .turn _ outcome => some outcome

/-- The prompt that a call set. -/
def Call.accepted? : Call → Option String
  | .systemPrompt prompt (.ok true) => some prompt
  | _ => none

/-- What the model adds to the conversation: its reply, unless it failed. -/
def replied : Outcome → List Message
  | .ok completion => [.ofText .assistant (Reply.ofRaw completion.content).text]
  | .error _ => []

/-- What a call adds to the conversation: the input and what the model replied. -/
def Call.spoken : Call → List Message
  | .systemPrompt _ _ => []
  | .turn input outcome => .ofText .user input :: replied outcome

/-- The prompts that were set. -/
def accepted (cs : List Call) : List String :=
  cs.filterMap Call.accepted?

/-- All that was said, however much of it is still kept. -/
def history (cs : List Call) : List Message :=
  cs.flatMap Call.spoken

/-- A turn gives what the model said, as a reply. -/
theorem turn_result (model : Model σ) (state : σ) (s : Session) (input : String) :
    (s.turn model state input).step.result =
      match (model.complete state (s.turn model state input).request).outcome with
      | .ok completion => .ok (.ofRaw completion.content)
      | .error failure => .error (.completion failure) := by
  simp only [turn]
  cases (model.complete state (s.ask input).1.request).outcome <;> rfl

theorem run_append (model : Model σ) (state : σ) (s : Session) (before rest : List Action) :
    s.run model state (before ++ rest) = s.run model state before ++
      (s.reach model state before).1.run model (s.reach model state before).2 rest := by
  induction before generalizing s state with
  | nil => rfl
  | cons a before ih => simp only [List.cons_append, run, reach, ih]

theorem calls_append (model : Model σ) (state : σ) (s : Session) (before rest : List Action) :
    s.calls model state (before ++ rest) = s.calls model state before ++
      (s.reach model state before).1.calls model (s.reach model state before).2 rest := by
  induction before generalizing s state with
  | nil => rfl
  | cons a before ih => simp only [List.cons_append, calls, reach, ih]

/-- One more action after others, seen from the call that it becomes. -/
theorem calls_concat (model : Model σ) (state : σ) (s : Session) (before : List Action)
    (a : Action) :
    s.calls model state (before ++ [a]) = s.calls model state before ++
      [(s.reach model state before).1.call model (s.reach model state before).2 a] := by
  rw [calls_append]
  rfl

/-- A prompt is set exactly if the answer says so. -/
theorem accepted?_systemPrompt (prompt : String) (answer : Except SessionError Bool) :
    (Call.systemPrompt prompt answer).accepted? = none ↔ answer ≠ .ok true := by
  cases answer with
  | error e => simp [Call.accepted?]
  | ok isSet => cases isSet <;> simp [Call.accepted?]

@[simp] theorem accepted_concat (cs : List Call) (c : Call) :
    accepted (cs ++ [c]) = accepted cs ++ c.accepted?.toList := by
  cases h : c.accepted? <;> simp [accepted, h]

@[simp] theorem history_concat (cs : List Call) (c : Call) :
    history (cs ++ [c]) = history cs ++ c.spoken := by
  simp [history]

theorem replied_turns (outcome : Outcome) : ∀ m ∈ replied outcome, m.isTurn := by
  cases outcome with
  | error failure => exact List.forall_mem_nil _
  | ok completion => exact List.forall_mem_singleton.mpr rfl

/-- Nobody but the operator and the model speaks in a conversation. -/
theorem history_turns (cs : List Call) : ∀ m ∈ history cs, m.isTurn := by
  intro m h
  obtain ⟨c, _, hm⟩ := List.mem_flatMap.mp h
  cases c with
  | systemPrompt prompt answer => exact absurd hm List.not_mem_nil
  | turn input outcome =>
    rcases List.mem_cons.mp hm with rfl | hm
    · rfl
    · exact replied_turns outcome m hm

end ModelChat.Session
