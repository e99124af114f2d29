import ModelChat.Proofs.Session.Calls

/-! Sessions over two models. Main statement: when one model says what the other says in related
states, sessions over them give the same and keep the same. -/
namespace ModelChat.Session
variable {σ τ : Type}

/-- One model does what the other does: related states give the same outcome, and stay related. -/
structure Simulates (model : Model σ) (model' : Model τ) (R : σ → τ → Prop) : Prop where
  outcome : ∀ {state state'}, R state state' → ∀ r,
    (model.complete state r).outcome = (model'.complete state' r).outcome
  state : ∀ {state state'}, R state state' → ∀ r,
    R (model.complete state r).state (model'.complete state' r).state

/-- A turn asks the model once, and leaves it in the state after its answer. -/
theorem act_turn (model : Model σ) (state : σ) (s : Session) (input : String) :
    (s.act model state (.turn input)).requests = [(s.ask input).1.request] ∧
    (s.act model state (.turn input)).state =
      (model.complete state (s.ask input).1.request).state :=
  ⟨rfl, rfl⟩

variable {model : Model σ} {model' : Model τ} {R : σ → τ → Prop} (h : Simulates model model' R)
  {state : σ} {state' : τ} (hstate : R state state') (s : Session)
include h hstate

/-- One action does the same over both models. -/
theorem act_simulated (a : Action) :
    let stage := s.act model state a
    let stage' := s.act model' state' a
    stage.result = stage'.result ∧ stage.session = stage'.session ∧
      stage.requests = stage'.requests ∧ R stage.state stage'.state := by
  cases a with
  | systemPrompt prompt => exact ⟨rfl, rfl, rfl, hstate⟩
  | turn input =>
    have hsaid := h.outcome hstate (s.ask input).1.request
    simp only [act, turn, hsaid, true_and]
    exact h.state hstate (s.ask input).1.request

theorem reach_simulated (as : List Action) :
    (s.reach model state as).1 = (s.reach model' state' as).1 ∧
      R (s.reach model state as).2 (s.reach model' state' as).2 := by
  induction as generalizing s state state' with
  | nil => exact ⟨rfl, hstate⟩
  | cons a as ih =>
    obtain ⟨-, hsession, -, hnext⟩ := act_simulated h hstate s a
    have hrest := ih hnext (s.act model state a).session
    simpa only [reach, hsession] using hrest

end ModelChat.Session
