import ModelChat.Proofs.Session.Calls
import ModelChat.Proofs.Transcript.Retention

/-! A session keeps the prompt that was set and the end of all that was said.
Main statement: requests and transcripts of every run are read off its history. -/
namespace ModelChat.Session
open Transcript
variable {σ : Type}

/-- Messages from the system. -/
def prompting (prompts : List String) : List Message :=
  prompts.map (.ofText .system)

/-- The session in which these prompts were set and this was said. -/
def holding (sampling : Sampling) (limit : Option Limit) (prompts : List String)
    (said : List Message) : Session :=
  ⟨sampling, prompting prompts ++ recent limit said, limit⟩

/-- The session that calls leave of a new one. -/
def ofCalls (sampling : Sampling) (limit : Option Limit) (cs : List Call) : Session :=
  holding sampling limit (accepted cs) (history cs)

/-- What is answered to a prompt after these prompts and all that was said. -/
def answer (prompts : List String) (said : List Message) (prompt : String) :
    Except SessionError Bool :=
  if prompt = "" then .ok false
  else if prompts ≠ [] then .error .systemPromptAlreadySet
  else if said ≠ [] then .error .systemPromptAfterFirstTurn
  else .ok true

private theorem prompting_system (prompts : List String) :
    ∀ m ∈ prompting prompts, m.isTurn = false := by
  intro m h
  obtain ⟨prompt, _, rfl⟩ := List.mem_map.mp h
  rfl

theorem start_eq (sampling : Sampling) (limit : Option Limit) :
    start sampling limit = ofCalls sampling limit [] := by
  have h : (retain limit []).1 = [] ++ recent limit [] :=
    retain_append limit (List.forall_mem_nil _) (List.forall_mem_nil _)
  simp only [start, withLimit, Transcript.empty, h]
  rfl

theorem start_messages (sampling : Sampling) (limit : Option Limit) :
    (start sampling limit).transcript.messages = [] := by
  rw [start_eq]
  exact recent_eq_nil.mpr rfl

/-- The session after a message has been pushed. -/
private def pushed (s : Session) (m : Message) : Session :=
  { s with transcript := (s.transcript.push m).1 }

private theorem pushed_prompt (sampling : Sampling) (limit : Option Limit) (prompt : String) :
    (holding sampling limit [] []).pushed (.ofText .system prompt) =
      holding sampling limit [prompt] [] := by
  have h := retain_append limit (prompting_system [prompt]) (List.forall_mem_nil _)
  have hnil : recent limit [] = [] := recent_eq_nil.mpr rfl
  rw [hnil, List.append_nil] at h
  simp only [pushed, holding, push, hnil, List.append_nil]
  exact congrArg (fun ms => (⟨sampling, ms, limit⟩ : Session)) h

/-- Which answer is given when. -/
theorem answer_iff (prompts : List String) (said : List Message) (prompt : String) :
    (answer prompts said prompt = .ok false ↔ prompt = "") ∧
    (answer prompts said prompt = .error .systemPromptAlreadySet ↔ prompt ≠ "" ∧ prompts ≠ []) ∧
    (answer prompts said prompt = .error .systemPromptAfterFirstTurn ↔
      prompt ≠ "" ∧ prompts = [] ∧ said ≠ []) ∧
    (answer prompts said prompt = .ok true ↔ prompt ≠ "" ∧ prompts = [] ∧ said = []) := by
  unfold answer
  by_cases hp : prompt = ""
  · simp [hp]
  by_cases hn : prompts = []
  · by_cases hd : said = [] <;> simp [hp, hn, hd]
  · simp [hp, hn]

theorem asked_turns {said : List Message} (hsaid : ∀ m ∈ said, m.isTurn)
    (input : String) : ∀ m ∈ said ++ [.ofText .user input], m.isTurn :=
  List.forall_mem_append.mpr ⟨hsaid, List.forall_mem_singleton.mpr rfl⟩

section Holding
variable (sampling : Sampling) (limit : Option Limit) (prompts : List String)
  {said : List Message} (hsaid : ∀ m ∈ said, m.isTurn)
include hsaid

/-- A message of the conversation joins the end of what was said. -/
private theorem pushed_holding {m : Message} (hm : m.isTurn) :
    (holding sampling limit prompts said).pushed m =
      holding sampling limit prompts (said ++ [m]) := by
  have hkept : ∀ x ∈ recent limit said ++ [m], x.isTurn := by
    intro x hx
    rcases List.mem_append.mp hx with hx | hx
    · exact hsaid x (recent_subset limit said hx)
    · exact List.mem_singleton.mp hx ▸ hm
  have h := retain_append limit (prompting_system prompts) hkept
  simp only [pushed, holding, push, List.append_assoc, h, recent_recent_append]

theorem ask_holding (input : String) :
    ((holding sampling limit prompts said).ask input).1 =
      holding sampling limit prompts (said ++ [.ofText .user input]) :=
  pushed_holding sampling limit prompts hsaid rfl

/-- The request of a turn holds what was said up to its input. -/
theorem turn_request (model : Model σ) (state : σ) (input : String) :
    ((holding sampling limit prompts said).turn model state input).request =
      ⟨sampling, prompting prompts ++ recent limit (said ++ [.ofText .user input])⟩ := by
  simp only [turn, ask_holding sampling limit prompts hsaid]
  rfl

theorem receive_holding (outcome : Outcome) :
    ((holding sampling limit prompts said).receive outcome).session =
      holding sampling limit prompts (said ++ replied outcome) := by
  cases outcome with
  | error failure => simp [receive, replied]
  | ok completion => exact pushed_holding sampling limit prompts hsaid rfl

theorem hasSystem_holding :
    (holding sampling limit prompts said).transcript.hasSystem = true ↔ prompts ≠ [] := by
  cases prompts with
  | cons prompt prompts => simp [hasSystem, holding, prompting, Message.ofText]
  | nil =>
    simp only [hasSystem, holding, prompting, List.map_nil, List.nil_append, ne_eq,
      not_true_eq_false, iff_false, Bool.not_eq_true]
    cases he : recent limit said with
    | nil => rfl
    | cons m ms =>
      have hm := hsaid m (recent_subset limit said (he ▸ List.mem_cons_self))
      simpa [Message.isTurn] using hm

omit hsaid in
theorem isEmpty_holding :
    (holding sampling limit prompts said).transcript.messages.isEmpty = true ↔
      prompts = [] ∧ said = [] := by
  simp [holding, prompting, recent_eq_nil]

/-- The answer is decided by what was set and said; only an accepted prompt leaves a trace. -/
theorem setSystemPrompt_holding (prompt : String) :
    let step := (holding sampling limit prompts said).setSystemPrompt prompt
    step.result = answer prompts said prompt ∧
      step.session = holding sampling limit
        (prompts ++ (Call.systemPrompt prompt step.result).accepted?.toList) said := by
  have hs := hasSystem_holding sampling limit prompts hsaid
  have he : (holding sampling limit prompts said).transcript.messages.isEmpty = true ↔ _ :=
    isEmpty_holding sampling limit prompts
  by_cases hp : prompt = ""
  · simp [setSystemPrompt, answer, hp, Call.accepted?]
  by_cases hn : prompts = []
  · by_cases hd : said = []
    · subst hn hd
      have hpushed := pushed_prompt sampling limit prompt
      simp_all [setSystemPrompt, answer, Call.accepted?, pushed]
    · simp_all [setSystemPrompt, answer, Call.accepted?]
  · simp_all [setSystemPrompt, answer, Call.accepted?]

omit hsaid in
/-- A new session takes any prompt, or skips it. -/
theorem setSystemPrompt_start (prompt : String) :
    ∃ isSet, ((start sampling limit).setSystemPrompt prompt).result = .ok isSet := by
  have hfresh : start sampling limit = holding sampling limit [] [] := start_eq sampling limit
  have h := (setSystemPrompt_holding sampling limit [] (List.forall_mem_nil _) prompt).1
  rw [hfresh, h]
  by_cases hp : prompt = ""
  · exact ⟨false, if_pos hp⟩
  · exact ⟨true, if_neg hp⟩

end Holding

section Run
variable (model : Model σ) (state : σ) (sampling : Sampling) (limit : Option Limit)

theorem turn_session (cs : List Call) (input : String) :
    let s := ofCalls sampling limit cs
    (s.turn model state input).step.session =
      ofCalls sampling limit (cs ++ [s.call model state (.turn input)]) := by
  have hask := ask_holding sampling limit (accepted cs) (history_turns cs) input
  have hasked := asked_turns (history_turns cs) input
  simp only [turn, ofCalls, hask, receive_holding sampling limit (accepted cs) hasked, call]
  simp [Call.accepted?, Call.spoken]

/-- One action takes the session that calls leave to the one that one call more leaves. -/
theorem act_ofCalls (cs : List Call) (a : Action) :
    let s := ofCalls sampling limit cs
    (s.act model state a).session = ofCalls sampling limit (cs ++ [s.call model state a]) := by
  cases a with
  | turn input => exact turn_session model state sampling limit cs input
  | systemPrompt prompt =>
    have h := (setSystemPrompt_holding sampling limit (accepted cs) (history_turns cs) prompt).2
    simpa [act, call, ofCalls, Call.spoken] using h

theorem reach_ofCalls (cs : List Call) (as : List Action) :
    let s := ofCalls sampling limit cs
    (s.reach model state as).1 = ofCalls sampling limit (cs ++ s.calls model state as) := by
  induction as generalizing state cs with
  | nil => simp [reach, calls]
  | cons a as ih =>
    have h := act_ofCalls model state sampling limit cs a
    simp only [reach, calls] at h ⊢
    rw [h, ih, List.append_assoc, List.singleton_append]

/-- However it was used, a session is the one that its calls leave. -/
theorem reach_start (as : List Action) :
    ((start sampling limit).reach model state as).1 =
      ofCalls sampling limit ((start sampling limit).calls model state as) := by
  simpa only [start_eq, List.nil_append] using reach_ofCalls model state sampling limit [] as

private theorem accepted_step (cs : List Call) (a : Action) (h : (accepted cs).length ≤ 1) :
    (accepted (cs ++ [(ofCalls sampling limit cs).call model state a])).length ≤ 1 := by
  cases a with
  | turn input => simpa [call, Call.accepted?] using h
  | systemPrompt prompt =>
    have hr := (setSystemPrompt_holding sampling limit (accepted cs) (history_turns cs) prompt).1
    simp only [call, ofCalls, hr, accepted_concat]
    cases hset :
      (Call.systemPrompt prompt (answer (accepted cs) (history cs) prompt)).accepted? with
    | none => simpa using h
    | some set =>
      have hok : answer (accepted cs) (history cs) prompt = .ok true := by
        refine Classical.byContradiction fun hne => ?_
        rw [(accepted?_systemPrompt prompt _).mpr hne] at hset
        cases hset
      have hfirst := ((answer_iff (accepted cs) (history cs) prompt).2.2.2.mp hok).2.1
      simp [hfirst]

/-- At most one prompt is ever set. -/
theorem accepted_length (as : List Action) :
    (accepted ((start sampling limit).calls model state as)).length ≤ 1 := by
  suffices h : ∀ (as : List Action) (state : σ) (cs : List Call), (accepted cs).length ≤ 1 →
      (accepted (cs ++ (ofCalls sampling limit cs).calls model state as)).length ≤ 1 by
    simpa only [start_eq, List.nil_append] using h as state [] (Nat.zero_le 1)
  intro as
  induction as with
  | nil => intro state cs h; simpa [calls] using h
  | cons a as ih =>
    intro state cs h
    have hstep := accepted_step model state sampling limit cs a h
    have hact := act_ofCalls model state sampling limit cs a
    simp only [calls] at hact ⊢
    rw [hact, List.append_cons]
    exact ih _ _ hstep

end Run

/-- In every run, and whatever the model says, each turn asks the model once: for the prompt that
was set and the end of all that was said. The transcript is read off the history in the same way,
and a failure of the model is passed on as it is. -/
theorem run_follows_history (model : Model σ) (state : σ) (sampling : Sampling)
    (limit : Option Limit) (before : List Action) (a : Action) (rest : List Action) :
    let s := start sampling limit
    let cs := s.calls model state before
    let cs' := s.calls model state (before ++ [a])
    let reached := s.reach model state before
    let stage := reached.1.act model reached.2 a
    s.run model state (before ++ a :: rest) =
      s.run model state before ++ stage :: stage.session.run model stage.state rest ∧
    (accepted cs').length ≤ 1 ∧
    stage.session.transcript.messages = prompting (accepted cs') ++ recent limit (history cs') ∧
    match a with
    | .systemPrompt prompt =>
      stage.requests = [] ∧ stage.state = reached.2 ∧
      ∃ answer, stage.result = answer.map .systemPrompt ∧ cs' = cs ++ [.systemPrompt prompt answer]
    | .turn input =>
      let request : Request :=
        ⟨sampling, prompting (accepted cs) ++ recent limit (history cs ++ [.ofText .user input])⟩
      let said := model.complete reached.2 request
      stage.requests = [request] ∧ stage.state = said.state ∧
      cs' = cs ++ [.turn input said.outcome] ∧
      stage.result = match said.outcome with
        | .ok completion => .ok (.reply (.ofRaw completion.content))
        | .error failure => .error (.completion failure) := by
  intro s cs cs' reached stage
  have hreached : reached.1 = ofCalls sampling limit cs :=
    reach_start model state sampling limit before
  have hcs : cs' = cs ++ [reached.1.call model reached.2 a] :=
    calls_concat model state s before a
  have hstage : stage.session = ofCalls sampling limit cs' := by
    rw [hcs]
    simp only [stage, hreached]
    exact act_ofCalls model reached.2 sampling limit cs a
  refine ⟨?_, accepted_length model state sampling limit (before ++ [a]), ?_, ?_⟩
  · rw [run_append]
    rfl
  · rw [hstage]
    rfl
  · cases a with
    | systemPrompt prompt => exact ⟨rfl, rfl, _, rfl, hcs⟩
    | turn input =>
      let request : Request :=
        ⟨sampling, prompting (accepted cs) ++ recent limit (history cs ++ [.ofText .user input])⟩
      let said := model.complete reached.2 request
      have hrequest : (reached.1.turn model reached.2 input).request = request := by
        rw [hreached]
        exact turn_request sampling limit (accepted cs) (history_turns cs) model reached.2 input
      have hsaid : model.complete reached.2 (reached.1.turn model reached.2 input).request = said :=
        congrArg _ hrequest
      refine ⟨congrArg (fun r => [r]) hrequest, congrArg Answer.state hsaid, ?_, ?_⟩
      · rw [hcs, call, hsaid]
      · have hresult : stage.result =
            (reached.1.turn model reached.2 input).step.result.map .reply := rfl
        rw [hresult, turn_result, hsaid]
        cases said.outcome <;> rfl

end ModelChat.Session
