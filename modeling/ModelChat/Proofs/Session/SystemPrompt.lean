import ModelChat.Proofs.Session.History

/-! The system prompt of a session: set at most once, before anything is said, and never lost.
Main statement: what was called before decides every answer, however much was dropped. -/
namespace ModelChat.Session
open Transcript
variable {σ : Type}

/-- The messages begin with the prompt that was set, if any, and hold no other from the system. -/
def Headed (prompt? : Option String) (ms : List Message) : Prop :=
  (∀ prompt, prompt? = some prompt → ms.head? = some (.ofText .system prompt)) ∧
  ∀ i m, ms[i]? = some m → m.role = .system →
    i = 0 ∧ ∃ prompt, prompt? = some prompt ∧ m = .ofText .system prompt

private theorem headed_append {prompts : List String} (hone : prompts.length ≤ 1)
    {said : List Message} (hsaid : ∀ m ∈ said, m.isTurn) :
    Headed prompts.head? (prompting prompts ++ said) := by
  have hturn : ∀ (i : Nat) (m : Message), said[i]? = some m → m.role ≠ .system := by
    intro i m hm
    simpa [Message.isTurn] using hsaid m (List.mem_of_getElem? hm)
  cases prompts with
  | nil =>
    refine ⟨?_, ?_⟩
    · intro _ h
      cases h
    · intro i m hm hrole
      exact absurd hrole (hturn i m hm)
  | cons prompt prompts =>
    obtain rfl : prompts = [] := List.eq_nil_of_length_eq_zero (by simpa using hone)
    refine ⟨?_, ?_⟩
    · intro _ he
      obtain rfl := Option.some.inj he
      rfl
    · intro i m hm hrole
      cases i with
      | zero => exact ⟨rfl, prompt, rfl, (Option.some.inj hm).symm⟩
      | succ i => exact absurd hrole (hturn i m hm)

private theorem recent_turns (limit : Option Limit) {said : List Message}
    (hsaid : ∀ m ∈ said, m.isTurn) : ∀ m ∈ recent limit said, m.isTurn :=
  fun m hm => hsaid m (recent_subset limit said hm)

private theorem accepted_eq_none (model : Model σ) (state : σ) (s : Session) (a : Action) :
    (s.call model state a).accepted? = none ↔
      (s.act model state a).result ≠ .ok (.systemPrompt true) := by
  cases a with
  | systemPrompt prompt =>
    rw [call, accepted?_systemPrompt]
    simp only [act]
    cases (s.setSystemPrompt prompt).result <;> simp [Except.map]
  | turn input =>
    simp only [call, act]
    cases (s.turn model state input).step.result <;> simp [Call.accepted?, Except.map]

/-- A prompt was set exactly if an action gave so. -/
theorem accepted_calls_eq_nil (model : Model σ) (state : σ) (s : Session) (as : List Action) :
    accepted (s.calls model state as) = [] ↔
      ¬ ∃ stage ∈ s.run model state as, stage.result = .ok (.systemPrompt true) := by
  induction as generalizing s state with
  | nil => simp [calls, run, accepted]
  | cons a as ih =>
    have hcons : accepted (s.calls model state (a :: as)) = [] ↔
        (s.call model state a).accepted? = none ∧
          accepted ((s.act model state a).session.calls model (s.act model state a).state as) =
            [] := by
      simp [calls, accepted]
    rw [hcons, accepted_eq_none, ih, run]
    simp

/-- Something was said exactly if there was a turn, whatever came of it. -/
theorem history_calls_eq_nil (model : Model σ) (state : σ) (s : Session) (as : List Action) :
    history (s.calls model state as) = [] ↔ ¬ ∃ input, Action.turn input ∈ as := by
  induction as generalizing s state with
  | nil => simp [calls, history]
  | cons a as ih =>
    cases a with
    | systemPrompt prompt => simpa [calls, history, call, Call.spoken] using ih ..
    | turn input => simp [calls, history, call, Call.spoken]

/-- In every run, and whatever the model says, what was called before decides the answer to a
prompt; any answer but acceptance changes nothing. A prompt once accepted stays in front of the
transcript and of all requests, which hold no other message from the system. -/
theorem systemPrompt_settled_by_history (model : Model σ) (state : σ) (sampling : Sampling)
    (limit : Option Limit) (before : List Action) (a : Action) (rest : List Action) :
    let s := start sampling limit
    let reached := s.reach model state before
    let stage := reached.1.act model reached.2 a
    let prompts := accepted (s.calls model state before)
    let isSet := ∃ earlier ∈ s.run model state before, earlier.result = .ok (.systemPrompt true)
    let isSpoken := ∃ input, Action.turn input ∈ before
    s.run model state (before ++ a :: rest) =
      s.run model state before ++ stage :: stage.session.run model stage.state rest ∧
    (∀ prompt, a = .systemPrompt prompt →
      (stage.result = .ok (.systemPrompt false) ↔ prompt = "") ∧
      (stage.result = .error .systemPromptAlreadySet ↔ prompt ≠ "" ∧ isSet) ∧
      (stage.result = .error .systemPromptAfterFirstTurn ↔ prompt ≠ "" ∧ ¬ isSet ∧ isSpoken) ∧
      (stage.result = .ok (.systemPrompt true) ↔ prompt ≠ "" ∧ ¬ isSet ∧ ¬ isSpoken) ∧
      (stage.result ≠ .ok (.systemPrompt true) → stage.session = reached.1)) ∧
    (prompts = [] ↔ ¬ isSet) ∧ prompts.length ≤ 1 ∧
    Headed prompts.head? reached.1.transcript.messages ∧
    ∀ request ∈ stage.requests, Headed prompts.head? request.messages := by
  intro s reached stage prompts isSet isSpoken
  let said := history (s.calls model state before)
  have hreached : reached.1 = holding sampling limit prompts said :=
    reach_start model state sampling limit before
  have hsaid : ∀ m ∈ said, m.isTurn := history_turns _
  have hone : prompts.length ≤ 1 := accepted_length model state sampling limit before
  have hset : prompts = [] ↔ ¬ isSet := accepted_calls_eq_nil model state s before
  have hspoken : said = [] ↔ ¬ isSpoken := history_calls_eq_nil model state s before
  refine ⟨?_, ?_, hset, hone, ?_, ?_⟩
  · rw [run_append]
    rfl
  · rintro prompt rfl
    obtain ⟨hanswer, hsession⟩ := setSystemPrompt_holding sampling limit prompts hsaid prompt
    have hgain : ∀ r : Except SessionError Bool, stage.result = r.map .systemPrompt ↔
        answer prompts said prompt = r := by
      intro r
      simp only [stage, act, hreached, hanswer]
      cases answer prompts said prompt <;> cases r <;> simp [Except.map]
    have hcases := answer_iff prompts said prompt
    simp only [ne_eq, hset, hspoken, Classical.not_not] at hcases
    obtain ⟨hskipped, hagain, hlate, htaken⟩ := hcases
    refine ⟨(hgain (.ok false)).trans hskipped, (hgain (.error _)).trans hagain,
      (hgain (.error _)).trans hlate, (hgain (.ok true)).trans htaken, ?_⟩
    intro hne
    have hno := (accepted?_systemPrompt prompt _).mpr (mt (hgain (.ok true)).mpr hne)
    simp only [stage, act, hreached, hsession, hanswer, hno]
    simp
  · rw [hreached]
    exact headed_append hone (recent_turns limit hsaid)
  · cases a with
    | systemPrompt prompt => exact List.forall_mem_nil _
    | turn input =>
      refine List.forall_mem_singleton.mpr ?_
      rw [hreached, turn_request sampling limit prompts hsaid]
      exact headed_append hone (recent_turns limit (asked_turns hsaid input))

end ModelChat.Session
