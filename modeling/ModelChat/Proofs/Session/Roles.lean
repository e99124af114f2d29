import Mathlib.Algebra.Group.Nat.Even
import Mathlib.Computability.RegularExpressions
import Mathlib.Data.List.Chain
import ModelChat.Proofs.Session.History

/-! Who speaks when in a session. Main statement: the roles of what is kept and of what is asked
follow a pattern, in which a reply without its input comes first only after something was dropped.
-/
namespace ModelChat.Session
open Transcript RegularExpression
variable {σ : Type}

/-- Who speaks in messages, in order. -/
def roles (ms : List Message) : List Role :=
  ms.map Message.role

/-- The messages that are not from the system. -/
def turnsOf (ms : List Message) : List Message :=
  ms.filter Message.isTurn

/-- A part of a pattern that may be left out. -/
def optional (p : RegularExpression Role) : RegularExpression Role :=
  1 + p

/-- Inputs, each with its reply, if there was one. -/
def rounds : RegularExpression Role :=
  star (char .user * optional (char .assistant))

/-- Rounds after a reply whose input is gone, if there is one. -/
def window : RegularExpression Role :=
  optional (char .assistant) * rounds

/-- What is kept: a prompt, if there is one, and the end of what was said. -/
def keptPattern : RegularExpression Role :=
  optional (char .system) * window

/-- What is asked: what is kept and the input that asks. -/
def askedPattern : RegularExpression Role :=
  keptPattern * char .user

/-- Neighbours that are not both replies. -/
def Apart (a b : Role) : Prop :=
  ¬ (a = .assistant ∧ b = .assistant)

/-- The roles of rounds in which every input had its reply. -/
def alternation : Nat → List Role
  | 0 => []
  | n + 1 => .user :: .assistant :: alternation n

/-- The input of an action, if it is a turn. -/
def Action.input? : Action → Option String
  | .systemPrompt _ => none
  | .turn input => some input

/-- How many actions are turns. -/
def turnCount (as : List Action) : Nat :=
  (as.filterMap Action.input?).length

/-- No turn among the actions that were carried out has failed. -/
def Smooth (stages : List (Stage σ)) : Prop :=
  ∀ stage ∈ stages, ∀ failure, stage.result ≠ .error (.completion failure)

/-- Messages that are left of all that was said: their roles follow a pattern, and a reply comes
first only if a limit has dropped something. -/
structure Follows (pattern : RegularExpression Role) (limit : Option Limit)
    (said ms : List Message) : Prop where
  pattern : roles ms ∈ pattern.matches'
  dropped : (roles (turnsOf ms)).head? = some .assistant →
    limit ≠ none ∧ (turnsOf ms).length < said.length

/-- After the prompt, nobody speaks twice in a row. -/
def Alternate (ms : List Message) : Prop :=
  (roles (turnsOf ms)).IsChain (· ≠ ·)

private theorem mem_optional {p : RegularExpression Role} {rs : List Role} :
    rs ∈ (optional p).matches' ↔ rs = [] ∨ rs ∈ p.matches' :=
  Iff.rfl

/-- An input in front of a reply, or of none, makes one more round. -/
private theorem user_cons_mem_rounds {rs : List Role} (h : rs ∈ window.matches') :
    Role.user :: rs ∈ rounds.matches' := by
  obtain ⟨reply, hreply, rest, hrest, rfl⟩ := Language.mem_mul.mp h
  have hround : Role.user :: reply ∈ (char Role.user * optional (char .assistant)).matches' :=
    Language.append_mem_mul (a := [Role.user]) rfl hreply
  rw [rounds, matches'_star, ← Language.one_add_self_mul_kstar_eq_kstar]
  exact .inr (Language.append_mem_mul hround hrest)

private theorem mem_window_of_rounds {rs : List Role} (h : rs ∈ rounds.matches') :
    rs ∈ window.matches' :=
  Language.append_mem_mul (mem_optional.mpr (.inl rfl)) h

/-- Where no two replies follow each other, everyone speaks in rounds. -/
private theorem mem_window {rs : List Role} (hturn : ∀ r ∈ rs, r ≠ .system)
    (happart : rs.IsChain Apart) : rs ∈ window.matches' := by
  induction rs with
  | nil => exact mem_window_of_rounds (Language.nil_mem_kstar _)
  | cons r rs ih =>
    have hrest : rs ∈ window.matches' :=
      ih (fun x hx => hturn x (List.mem_cons_of_mem r hx)) happart.tail
    cases r with
    | system => exact absurd rfl (hturn _ List.mem_cons_self)
    | user => exact mem_window_of_rounds (user_cons_mem_rounds hrest)
    | assistant =>
      obtain ⟨reply, hreply, rest, hrounds, rfl⟩ := Language.mem_mul.mp hrest
      rcases mem_optional.mp hreply with rfl | hreply
      · have hreply : [Role.assistant] ∈ (optional (char .assistant)).matches' := .inr rfl
        exact Language.append_mem_mul hreply hrounds
      · obtain rfl : reply = [.assistant] := hreply
        exact absurd ⟨rfl, rfl⟩ (List.isChain_cons_cons.mp happart).1

/-- A reply stands first only where something stood before it. -/
private theorem dropped_of_reply_first {limit : Option Limit} {said : List Message}
    (hfirst : (roles said).head? ≠ some .assistant)
    (h : (roles (recent limit said)).head? = some .assistant) :
    limit ≠ none ∧ (recent limit said).length < said.length := by
  have hne : recent limit said ≠ said := by
    intro heq
    rw [heq] at h
    exact hfirst h
  refine ⟨?_, ?_⟩
  · rintro rfl
    exact hne rfl
  · have hsuffix := recent_suffix limit said
    exact lt_of_le_of_ne hsuffix.length_le fun hlength => hne (hsuffix.eq_of_length hlength)

section Kept
variable (limit : Option Limit) {prompts : List String} {said : List Message}
  (hturn : ∀ m ∈ said, m.isTurn)
include hturn

private theorem turnsOf_kept :
    turnsOf (prompting prompts ++ recent limit said) = recent limit said := by
  have hprompts : turnsOf (prompting prompts) = [] := by
    refine List.filter_eq_nil_iff.mpr fun m hm => ?_
    obtain ⟨prompt, _, rfl⟩ := List.mem_map.mp hm
    exact Bool.false_ne_true
  have hkept : turnsOf (recent limit said) = recent limit said :=
    List.filter_eq_self.mpr fun m hm => hturn m (recent_subset limit said hm)
  rw [turnsOf, List.filter_append]
  exact congrArg₂ _ hprompts hkept

end Kept

/-- The roles after a prompt, if there is one, in which no two replies follow each other. -/
private theorem mem_keptPattern {prompts : List String} (hone : prompts.length ≤ 1)
    {kept : List Message} (hturn : ∀ m ∈ kept, m.isTurn) (happart : (roles kept).IsChain Apart) :
    roles (prompting prompts ++ kept) ∈ keptPattern.matches' := by
  have hwindow : roles kept ∈ window.matches' := by
    refine mem_window (fun r hr => ?_) happart
    obtain ⟨m, hm, rfl⟩ := List.mem_map.mp hr
    simpa [Message.isTurn] using hturn m hm
  have hprompt : roles (prompting prompts) ∈ (optional (char .system)).matches' := by
    cases prompts with
    | nil => exact .inl rfl
    | cons prompt others =>
      obtain rfl : others = [] := by simpa using hone
      exact .inr rfl
  rw [roles, List.map_append]
  exact Language.append_mem_mul hprompt hwindow

/-- What a call adds begins with its input and ends with at most one reply. -/
private theorem roles_spoken (c : Call) :
    roles c.spoken = [] ∨ roles c.spoken = [.user] ∨ roles c.spoken = [.user, .assistant] := by
  match c with
  | .systemPrompt _ _ => exact .inl rfl
  | .turn _ (.error _) => exact .inr (.inl rfl)
  | .turn _ (.ok _) => exact .inr (.inr rfl)

/-- Nobody replies before there is an input. -/
private theorem head_history (cs : List Call) : (roles (history cs)).head? ≠ some .assistant := by
  induction cs with
  | nil => exact nofun
  | cons c cs ih =>
    have hcons : roles (history (c :: cs)) = roles c.spoken ++ roles (history cs) :=
      List.map_append
    rw [hcons]
    rcases roles_spoken c with h | h | h
    · rw [h]
      exact ih
    · simp [h]
    · simp [h]

/-- No two replies follow each other in all that was said. -/
private theorem history_apart (cs : List Call) : (roles (history cs)).IsChain Apart := by
  induction cs with
  | nil => exact .nil
  | cons c cs ih =>
    have hcons : roles (history (c :: cs)) = roles c.spoken ++ roles (history cs) :=
      List.map_append
    have hspoken : (roles c.spoken).IsChain Apart := by
      rcases roles_spoken c with h | h | h <;> simp [h, Apart]
    rw [hcons]
    refine hspoken.append ih fun a _ b hb => ?_
    rintro ⟨-, rfl⟩
    exact head_history cs hb

private theorem length_alternation (n : Nat) : (alternation n).length = 2 * n := by
  induction n with
  | zero => rfl
  | succ n ih =>
    simp only [alternation, List.length_cons, ih]
    omega

/-- Who speaks next after rounds that all had their reply, and before. -/
private theorem getElem?_alternation {n i : Nat} (h : i < 2 * n + 1) :
    (alternation n ++ [Role.user])[i]? = some (if Even i then .user else .assistant) := by
  induction n generalizing i with
  | zero =>
    obtain rfl : i = 0 := by omega
    rfl
  | succ n ih =>
    match i with
    | 0 => rfl
    | 1 => rfl
    | i + 2 =>
      have hparity : Even (i + 2) ↔ Even i := by simp only [Nat.even_iff]; omega
      simp only [alternation, List.cons_append, List.getElem?_cons_succ, hparity]
      exact ih (by omega)

private theorem alternation_isChain (n : Nat) :
    (alternation n ++ [Role.user]).IsChain (· ≠ ·) := by
  induction n with
  | zero => exact .singleton _
  | succ n ih =>
    have hnext : ∀ r ∈ (alternation n ++ [Role.user]).head?, Role.assistant ≠ r := by
      cases n <;> rintro r ⟨⟩ <;> decide
    exact .cons_cons (by decide) (ih.cons hnext)

/-- Where no turn has failed, every input had its reply. -/
private theorem roles_history_smooth (model : Model σ) (state : σ) (s : Session)
    (as : List Action) (h : Smooth (s.run model state as)) :
    roles (history (s.calls model state as)) = alternation (turnCount as) := by
  induction as generalizing s state with
  | nil => rfl
  | cons a as ih =>
    obtain ⟨hfirst, hrest⟩ := List.forall_mem_cons.mp h
    have hlater := ih _ _ hrest
    cases a with
    | systemPrompt prompt => exact hlater
    | turn input =>
      have hresult := turn_result model state s input
      simp only [calls, call, history, List.flatMap_cons, Call.spoken] at hlater ⊢
      cases hsaid : (model.complete state (s.turn model state input).request).outcome with
      | error failure =>
        rw [hsaid] at hresult
        refine absurd ?_ (hfirst failure)
        simp only [act, hresult, Except.map]
      | ok completion =>
        rw [roles, List.map_append]
        exact congrArg (.user :: .assistant :: ·) hlater

section Kept
variable (limit : Option Limit) {prompts : List String} (hone : prompts.length ≤ 1)
include hone

theorem follows_kept (cs : List Call) :
    Follows keptPattern limit (history cs) (prompting prompts ++ recent limit (history cs)) where
  pattern := by
    have hsuffix := recent_suffix limit (history cs)
    exact mem_keptPattern hone (fun m hm => history_turns cs m (hsuffix.subset hm))
      ((history_apart cs).suffix (hsuffix.map _))
  dropped := by
    rw [turnsOf_kept limit (history_turns cs)]
    exact dropped_of_reply_first (head_history cs)

theorem follows_asked (cs : List Call) (input : String) :
    Follows askedPattern limit (history cs ++ [.ofText .user input])
      (prompting prompts ++ recent limit (history cs ++ [.ofText .user input])) where
  pattern := by
    obtain ⟨kept, hsuffix, hrecent⟩ := recent_concat limit (history cs) (.ofText .user input)
    have hkept : roles (prompting prompts ++ kept) ∈ keptPattern.matches' :=
      mem_keptPattern hone (fun m hm => history_turns cs m (hsuffix.subset hm))
        ((history_apart cs).suffix (hsuffix.map _))
    rw [hrecent, ← List.append_assoc, roles, List.map_append]
    exact Language.append_mem_mul hkept rfl
  dropped := by
    rw [turnsOf_kept limit (asked_turns (history_turns cs) input)]
    refine dropped_of_reply_first ?_
    have hfirst := head_history cs
    cases hhistory : history cs with
    | nil => exact nofun
    | cons m ms => simpa [hhistory, roles] using hfirst

end Kept

section Smooth
variable (limit : Option Limit) (prompts : List String) {cs : List Call} {n : Nat}
  (hsmooth : roles (history cs) = alternation n)
include hsmooth

theorem alternate_kept : Alternate (prompting prompts ++ recent limit (history cs)) := by
  have hsuffix := (recent_suffix limit (history cs)).map Message.role
  have hall : (alternation n).IsChain (· ≠ ·) := (alternation_isChain n).left_of_append
  rw [Alternate, turnsOf_kept limit (history_turns cs)]
  exact (hsmooth ▸ hall : (roles (history cs)).IsChain (· ≠ ·)).suffix hsuffix

private theorem roles_asked (input : String) :
    roles (history cs ++ [.ofText .user input]) = alternation n ++ [.user] := by
  rw [roles, List.map_append]
  exact congrArg (· ++ [Role.user]) hsmooth

theorem alternate_asked (input : String) :
    Alternate (prompting prompts ++ recent limit (history cs ++ [.ofText .user input])) := by
  have hsuffix := (recent_suffix limit (history cs ++ [.ofText .user input])).map Message.role
  have hall : (roles (history cs ++ [.ofText .user input])).IsChain (· ≠ ·) :=
    roles_asked hsmooth input ▸ alternation_isChain n
  rw [Alternate, turnsOf_kept limit (asked_turns (history_turns cs) input)]
  exact hall.suffix hsuffix

/-- Whether a request opens with a reply depends on how many turns there were and on the parity of
the limit. -/
theorem reply_first_iff (l : Limit) (input : String) :
    (roles (turnsOf (prompting prompts ++
        recent (some l) (history cs ++ [.ofText .user input])))).head? = some .assistant ↔
      Even l.count ∧ l.count < 2 * (n + 1) - 1 := by
  have hpos := l.pos
  have hroles := roles_asked hsmooth input
  have hlength : (history cs ++ [Message.ofText .user input]).length = 2 * n + 1 := by
    have h := congrArg List.length hroles
    simpa only [roles, List.length_map, List.length_append, length_alternation,
      List.length_singleton] using h
  rw [turnsOf_kept (some l) (asked_turns (history_turns cs) input)]
  have hfirst : (roles (recent (some l) (history cs ++ [.ofText .user input]))).head? =
      some (if Even (2 * n + 1 - l.count) then .user else .assistant) := by
    have hdrop : roles (recent (some l) (history cs ++ [.ofText .user input])) =
        (alternation n ++ [Role.user]).drop (2 * n + 1 - l.count) := by
      rw [← hroles, roles, roles, recent, hlength, List.map_drop]
    rw [hdrop, List.head?_drop]
    exact getElem?_alternation (by omega)
  rw [hfirst]
  by_cases heven : Even (2 * n + 1 - l.count)
  · simp only [heven, if_true, Option.some.injEq, reduceCtorEq, false_iff]
    rw [Nat.even_iff] at heven ⊢
    omega
  · simp only [heven, if_false, true_iff]
    rw [Nat.even_iff] at heven ⊢
    omega

end Smooth

/-- A turn leaves the reply last, or the input if there was none. -/
private theorem last_of_turn (model : Model σ) (state : σ) (sampling : Sampling)
    (limit : Option Limit) (cs : List Call) (input : String) :
    let step := ((ofCalls sampling limit cs).turn model state input).step
    step.session.transcript.last? = some (match step.result with
      | .ok reply => .ofText .assistant reply.text
      | .error _ => .ofText .user input) := by
  intro step
  have hlast (said : List Message) (m : Message) :
      (holding sampling limit (accepted cs) (said ++ [m])).transcript.last? = some m := by
    obtain ⟨kept, -, hrecent⟩ := recent_concat limit said m
    simp only [holding, last?, hrecent, ← List.append_assoc, List.getLast?_append,
      List.getLast?_singleton, Option.some_or]
  have hask := ask_holding sampling limit (accepted cs) (history_turns cs) input
  simp only [step, turn, ofCalls, hask]
  generalize (model.complete state _).outcome = outcome
  rw [receive_holding sampling limit (accepted cs) (asked_turns (history_turns cs) input) outcome]
  cases outcome with
  | error failure =>
    rw [replied, List.append_nil]
    exact hlast (history cs) _
  | ok completion => exact hlast (history cs ++ [.ofText .user input]) _

/-- In every run, and whatever the model says, the roles of what is kept are those of a prompt, a
reply and rounds, each of which may be missing, and a request puts an input behind them. A reply
comes before all inputs only if a limit has dropped something. A turn leaves its reply last, or its
input if it failed. As long as no turn has failed, all speak in turn, and the `k`th request opens
with a reply exactly if the limit is even and below `2 * k - 1`. -/
theorem roles_follow_turns (model : Model σ) (state : σ) (sampling : Sampling)
    (limit : Option Limit) (before : List Action) (a : Action) (rest : List Action) :
    let s := start sampling limit
    let reached := s.reach model state before
    let stage := reached.1.act model reached.2 a
    let said := history (s.calls model state before)
    let kept := reached.1.transcript.messages
    let isSmooth := Smooth (s.run model state before)
    let k := turnCount before + 1
    s.run model state (before ++ a :: rest) =
      s.run model state before ++ stage :: stage.session.run model stage.state rest ∧
    Follows keptPattern limit said kept ∧ (isSmooth → Alternate kept) ∧
    match a with
    | .systemPrompt _ => stage.requests = []
    | .turn input =>
      (∃ request, stage.requests = [request] ∧
        Follows askedPattern limit (said ++ [.ofText .user input]) request.messages ∧
        (isSmooth → Alternate request.messages ∧ ∀ l, limit = some l →
          ((roles (turnsOf request.messages)).head? = some .assistant ↔
            Even l.count ∧ l.count < 2 * k - 1))) ∧
      stage.session.transcript.last? = match stage.result with
        | .ok (.reply reply) => some (.ofText .assistant reply.text)
        | .ok (.systemPrompt _) => none
        | .error _ => some (.ofText .user input) := by
  intro s reached stage said kept isSmooth k
  let cs := s.calls model state before
  have hreached : reached.1 = ofCalls sampling limit cs :=
    reach_start model state sampling limit before
  have hone : (accepted cs).length ≤ 1 := accepted_length model state sampling limit before
  have hkept : kept = prompting (accepted cs) ++ recent limit said :=
    congrArg (fun s : Session => s.transcript.messages) hreached
  have hsmooth (h : isSmooth) : roles (history cs) = alternation (turnCount before) :=
    roles_history_smooth model state s before h
  refine ⟨?_, ?_, ?_, ?_⟩
  · rw [run_append]
    rfl
  · rw [hkept]
    exact follows_kept limit hone cs
  · intro h
    rw [hkept]
    exact alternate_kept limit (accepted cs) (hsmooth h)
  · cases a with
    | systemPrompt prompt => rfl
    | turn input =>
      have hrequest : (reached.1.turn model reached.2 input).request.messages =
          prompting (accepted cs) ++ recent limit (said ++ [.ofText .user input]) := by
        rw [hreached, ofCalls, turn_request sampling limit (accepted cs) (history_turns cs)]
      refine ⟨⟨_, rfl, ?_⟩, ?_⟩
      · rw [hrequest]
        refine ⟨follows_asked limit hone cs input, fun h => ?_⟩
        refine ⟨alternate_asked limit (accepted cs) (hsmooth h) input, ?_⟩
        rintro l rfl
        exact reply_first_iff (accepted cs) (hsmooth h) l input
      · have hlast := last_of_turn model reached.2 sampling limit cs input
        rw [← hreached] at hlast
        have hresult : stage.result =
            (reached.1.turn model reached.2 input).step.result.map .reply := rfl
        rw [hresult]
        refine hlast.trans ?_
        cases (reached.1.turn model reached.2 input).step.result <;> rfl

/-- With a limit of two, the second of two answered turns asks with the first reply in front. -/
theorem roles_follow_turns_reply_first :
    let model := Model.scripted (.invalidRequest "over")
    let script : List Outcome := [.ok ⟨"Yes", none⟩, .ok ⟨"No", none⟩]
    let s := start (.chat "mistral") (some ⟨2, Nat.two_pos⟩)
    let reached := s.reach model script [.turn "Now?"]
    Smooth (s.run model script [.turn "Now?"]) ∧
    ∃ request, (reached.1.act model reached.2 (.turn "Then?")).requests = [request] ∧
      Alternate request.messages ∧
      (roles (turnsOf request.messages)).head? = some .assistant := by
  intro model script s reached
  have hsmooth : Smooth (s.run model script [.turn "Now?"]) := by
    intro stage hstage failure hfailed
    obtain rfl := List.mem_singleton.mp hstage
    cases hfailed
  obtain ⟨-, -, -, ⟨request, hrequest, -, hasked⟩, -⟩ := roles_follow_turns model script
    (.chat "mistral") (some ⟨2, Nat.two_pos⟩) [.turn "Now?"] (.turn "Then?") []
  obtain ⟨halternate, hfirst⟩ := hasked hsmooth
  refine ⟨hsmooth, request, hrequest, halternate, (hfirst _ rfl).mpr ⟨⟨1, rfl⟩, ?_⟩⟩
  decide

end ModelChat.Session
