import ModelChat.Proofs.Conversation.Script

/-! Conversations on a screen that refuses a reply. Main statement: until then nothing differs from
a screen that never refuses, and the session has taken in the reply that could not be shown. -/
namespace ModelChat.Conversation
open Session
variable {σ : Type}

/-- What a screen refuses. -/
inductive Refusal where
  | writes
  | flushes

namespace Refusal

/-- The screen that refuses after a number of flushes. -/
def on (r : Refusal) (n : Nat) (screen : Screen) : Screen :=
  match r with
  | writes => { screen with refuseWrites := some n }
  | flushes => { screen with refuseFlushes := some n }

def reason : Refusal → String
  | writes => "write refused"
  | flushes => "flush refused"

/-- How many replies have been written when the one after the given number is refused. What cannot
be flushed has been written. -/
def written : Refusal → Nat → Nat
  | writes, n => n
  | flushes, n => n + 1

/-- The screen that has refused the reply after the given number. -/
def final (r : Refusal) (n : Nat) (shown : List Reply) : Screen :=
  r.on n ⟨none, none, text (shown.take (r.written n)), n⟩

/-- Before the refusal a reply is shown as ever. -/
theorem display_before (r : Refusal) {n : Nat} {earlier : List Reply} (h : earlier.length < n)
    (reply : Reply) : (r.on n (showing earlier)).display reply.display =
      (none, r.on n (showing (earlier ++ [reply]))) := by
  have hn : ¬ n ≤ earlier.length := Nat.not_le_of_lt h
  cases r <;> simp [on, showing, Screen.display, Screen.reached, text_concat, hn]

/-- The reply at which the screen refuses, whatever was to come after it. -/
theorem display_refused (r : Refusal) (earlier : List Reply) (reply : Reply) (later : List Reply) :
    (r.on earlier.length (showing earlier)).display reply.display =
      (some r.reason, r.final earlier.length (earlier ++ reply :: later)) := by
  cases r with
  | writes => simp [on, final, written, reason, showing, Screen.display, Screen.reached]
  | flushes =>
    have htake : (earlier ++ reply :: later).take (earlier.length + 1) = earlier ++ [reply] := by
      rw [List.take_length_add_append]
      rfl
    simp [on, final, written, reason, showing, Screen.display, Screen.reached, htake, text_concat]

end Refusal

section Answer
variable (model : Model σ) (r : Refusal) (n : Nat)

/-- A screen that is to refuse later than the last reply makes no difference. -/
theorem answer_unaffected (state : σ) (s : Session) (earlier : List Reply) (lines : List Line)
    (h : (earlier ++ replies (outcomes model state s ((inputs lines).map .turn))).length ≤ n) :
    let full := answer model s (showing earlier) state lines
    answer model s (r.on n (showing earlier)) state lines =
      { full with screen := r.on n full.screen } := by
  induction lines generalizing s state earlier with
  | nil => rfl
  | cons first rest ih =>
    cases first with
    | endOfInput => rfl
    | failure reason => rfl
    | text line =>
      let turn := s.turn model state line
      rw [inputs, List.map_cons, outcomes_turn] at h
      cases hsaid : (model.complete state turn.request).outcome with
      | error failure =>
        simp only [answer_failed model s state line hsaid]
        rfl
      | ok completion =>
        let reply := Reply.ofRaw completion.content
        rw [hsaid, replies, List.append_cons] at h
        have hlt : earlier.length < n := by
          simp only [List.length_append, List.length_singleton] at h
          omega
        have hrest := ih turn.state turn.step.session (earlier ++ [reply]) h
        simp only [answer_shown model s state line hsaid (display_showing earlier reply),
          answer_shown model s state line hsaid (r.display_before hlt reply)]
        exact congrArg (·.after [userPrompt] [turn.request] turn.step.events) hrest

/-- What is left of a conversation whose screen refuses the reply after as many as given. -/
structure Cut (state : σ) (s : Session) (lines : List Line) (shown : List Reply) (left : Nat)
    (full cut : Record σ) : Prop where
  ending : cut.ending = .screen r.reason
  requests : cut.requests = full.requests.take (left + 1)
  prompts : cut.prompts = full.prompts.take (left + 1)
  reached : (cut.session, cut.state) =
    s.reach model state (((inputs lines).take (left + 1)).map .turn)
  screen : cut.screen = r.final n shown

/-- Up to the reply that is refused, turn after turn is the same. -/
theorem answer_cut (state : σ) (s : Session) (earlier : List Reply) (left : Nat)
    (lines : List Line) (hleft : n = earlier.length + left)
    (h : left < (replies (outcomes model state s ((inputs lines).map .turn))).length) :
    Cut model r n state s lines
      (earlier ++ replies (outcomes model state s ((inputs lines).map .turn))) left
      (answer model s (showing earlier) state lines)
      (answer model s (r.on n (showing earlier)) state lines) := by
  -- Only a turn with a reply can be the one that is refused; all lines before it use up `left`.
  induction lines generalizing s state earlier left with
  | nil => exact absurd h (Nat.not_lt_zero left)
  | cons first rest ih =>
    cases first with
    | endOfInput => exact absurd h (Nat.not_lt_zero left)
    | failure reason => exact absurd h (Nat.not_lt_zero left)
    | text line =>
      let turn := s.turn model state line
      rw [inputs, List.map_cons, outcomes_turn] at h ⊢
      cases hsaid : (model.complete state turn.request).outcome with
      | error failure =>
        rw [hsaid] at h
        exact absurd h (Nat.not_lt_zero left)
      | ok completion =>
        let reply := Reply.ofRaw completion.content
        rw [hsaid] at h
        rw [answer_shown model s state line hsaid (display_showing earlier reply)]
        cases left with
        | zero =>
          obtain rfl : n = earlier.length := hleft
          rw [answer_refused model s state line hsaid (r.display_refused earlier reply _)]
          exact ⟨rfl, rfl, rfl, rfl, rfl⟩
        | succ left =>
          have hlt : earlier.length < n := by omega
          have hnext : n = (earlier ++ [reply]).length + left := by
            rw [List.length_append, List.length_singleton]
            omega
          obtain ⟨hending, hrequests, hprompts, hreached, hscreen⟩ :=
            ih turn.state turn.step.session (earlier ++ [reply]) left hnext
              (Nat.lt_of_succ_lt_succ h)
          rw [answer_shown model s state line hsaid (r.display_before hlt reply)]
          rw [List.append_assoc] at hscreen
          exact ⟨hending, congrArg (turn.request :: ·) hrequests,
            congrArg (userPrompt :: ·) hprompts, hreached, hscreen⟩

end Answer

/-- For every script and every model, the conversation whose screen refuses after `n` flushes is
the one whose screen never refuses, if there are not more replies to show. Otherwise it ends with
the refusal in the turn of the reply after those: the operator and the model have been asked as
often as that takes, and the session is the one that took in this reply too. -/
theorem run_cut_by_refusal (model : Model σ) (state : σ) (sampling : Sampling)
    (limit : Option Limit) (lines : List Line) (r : Refusal) (n : Nat) :
    let s := start sampling limit
    let full := run model s (.blank none none) state lines
    let cut := run model s (r.on n (.blank none none)) state lines
    let shown := replies (outcomes model state s (actions lines))
    full.screen.written = text shown ∧ full.screen.flushes = shown.length ∧
    if shown.length ≤ n then
      cut = { full with screen := r.on n full.screen }
    else
      cut.ending = .screen r.reason ∧
      cut.requests = full.requests.take (n + 1) ∧ cut.prompts = full.prompts.take (n + 2) ∧
      (cut.session, cut.state) = s.reach model state ((actions lines).take (n + 2)) ∧
      cut.screen.written = text (shown.take (r.written n)) ∧ cut.screen.flushes = n := by
  intro s full cut shown
  have hnone (h : shown.length = 0) : shown.length ≤ n := h ▸ Nat.zero_le n
  cases lines with
  | nil => exact ⟨rfl, rfl, by rw [if_pos (hnone rfl)]; rfl⟩
  | cons first rest =>
    cases first with
    | endOfInput => exact ⟨rfl, rfl, by rw [if_pos (hnone rfl)]; rfl⟩
    | failure reason => exact ⟨rfl, rfl, by rw [if_pos (hnone rfl)]; rfl⟩
    | text prompt =>
      let step := s.setSystemPrompt prompt
      have hfull : full = _ := run_text model state sampling limit (showing []) prompt rest
      have hcut : cut = _ := run_text model state sampling limit (r.on n (showing [])) prompt rest
      have hscreen := (answer_follows model state step.session [] rest).screen
      rw [hfull, hcut]
      refine ⟨congrArg Screen.written hscreen, congrArg Screen.flushes hscreen, ?_⟩
      by_cases h : shown.length ≤ n
      · rw [if_pos h, answer_unaffected model r n state step.session [] rest h]
        rfl
      · obtain ⟨hending, hrequests, hprompts, hreached, hrefused⟩ :=
          answer_cut model r n state step.session [] n rest (Nat.zero_add n).symm
            (Nat.lt_of_not_le h)
        rw [if_neg h]
        refine ⟨hending, hrequests, congrArg (systemPrompt :: ·) hprompts, ?_, ?_, ?_⟩
        · rw [actions, List.take_succ_cons, ← List.map_take]
          exact hreached
        · cases r <;> exact congrArg Screen.written hrefused
        · cases r <;> exact congrArg Screen.flushes hrefused

end ModelChat.Conversation
