import ModelChat.Client.Observer

/-! What observers see of calls. Main statement: with any observer, calls come to the same, and what
the observer is shown is what a recording one writes down. -/
namespace ModelChat
open Http

/-- What an observer is shown. -/
inductive Sighting where
  | request (q : HttpRequest)
  | response (received : Response)

namespace Sighting

def text : Sighting → String
  | request q => q.render
  | response received => received.render

/-- What an observer, if there is one, has noted after some sightings. -/
def noted {ω : Type} (observer : Option (Observer ω)) (notes : ω) (shown : List Sighting) : ω :=
  observer.elim notes fun o => shown.foldl (fun notes s => match s with
    | request q => o.beforeSend notes q
    | response received => o.afterReceive notes received) notes

theorem noted_append {ω : Type} (observer : Option (Observer ω)) (notes : ω)
    (shown shown' : List Sighting) :
    noted observer notes (shown ++ shown') =
      noted observer (noted observer notes shown) shown' := by
  cases observer with
  | none => rfl
  | some o => exact List.foldl_append

theorem noted_recording (notes : List String) (shown : List Sighting) :
    noted (some .recording) notes shown = notes ++ shown.map text := by
  induction shown generalizing notes with
  | nil => exact (List.append_nil notes).symm
  | cons s shown ih =>
    rw [← List.singleton_append, noted_append, ih]
    cases s <;> simp [noted, Observer.recording, text]

theorem noted_blind {ω : Type} (notes : ω) (shown : List Sighting) :
    noted (some .blind) notes shown = notes := by
  induction shown with
  | nil => rfl
  | cons s shown ih =>
    rw [← List.singleton_append, noted_append]
    cases s <;> exact ih

end Sighting

namespace Client

section Built
variable {c : Client} {n left : Network} {r : Request} {q : HttpRequest}
  (hbuild : c.build r = .ok q)
include hbuild

theorem call_failed {fault : SendFault}
    (h : n.exchange c.timeoutSecs q = (.error fault, left)) :
    c.call n r = ⟨.error (.ofSendFault fault), [.requesting q.url.text r.messages.length],
      [q.render], left⟩ := by
  simp [call, hbuild, send, h]

theorem call_answered {received : Response}
    (h : n.exchange c.timeoutSecs q = (.ok received, left)) :
    c.call n r = ⟨Completion.ofResponse received, .requesting q.url.text r.messages.length ::
      Completion.events (Completion.ofResponse received), [q.render, received.render], left⟩ := by
  simp [call, hbuild, send, h]

end Built

/-- An observer only looks: with any, a call comes to the same, and what it is shown is fixed. -/
theorem watch_eq (c : Client) (n : Network) (r : Request) :
    ∃ shown : List Sighting, shown.map Sighting.text = (c.call n r).observed ∧
      ∀ (ω : Type) (observer : Option (Observer ω)) (notes : ω),
        c.watch observer notes n r = ⟨((c.call n r).outcome, (c.call n r).events),
          Sighting.noted observer notes shown, (c.call n r).network⟩ := by
  cases hbuild : c.build r with
  | error fault =>
    refine ⟨[], by simp only [call, hbuild, List.map_nil], fun ω observer notes => ?_⟩
    cases observer <;> simp only [watch, call, hbuild] <;> rfl
  | ok q =>
    match hexchange : n.exchange c.timeoutSecs q with
    | (.error fault, left) =>
      rw [call_failed hbuild hexchange]
      refine ⟨[.request q], rfl, fun ω observer notes => ?_⟩
      cases observer <;> simp [watch, hbuild, hexchange, Sighting.noted]
    | (.ok received, left) =>
      rw [call_answered hbuild hexchange]
      refine ⟨[.request q, .response received], rfl, fun ω observer notes => ?_⟩
      cases observer <;> simp [watch, hbuild, hexchange, Sighting.noted]

/-- The network as calls leave it. -/
def left (n : Network) (xs : List Call) : Network :=
  xs.getLast?.elim n (·.network)

theorem left_cons (n : Network) (x : Call) (xs : List Call) :
    left n (x :: xs) = left x.network xs := by
  rw [left, left, List.getLast?_cons]
  cases xs.getLast? <;> rfl

/-- Call by call, what an observer is shown adds up. -/
theorem watchAll_eq (c : Client) (n : Network) (rs : List Request) :
    ∃ shown : List Sighting,
      shown.map Sighting.text = (c.calls n rs).flatMap (·.observed) ∧
      ∀ (ω : Type) (observer : Option (Observer ω)) (notes : ω),
        c.watchAll observer notes n rs = ⟨(c.calls n rs).map fun x => (x.outcome, x.events),
          Sighting.noted observer notes shown, left n (c.calls n rs)⟩ := by
  induction rs generalizing n with
  | nil =>
    refine ⟨[], rfl, fun ω observer notes => ?_⟩
    cases observer <;> rfl
  | cons r rs ih =>
    obtain ⟨first, hfirst, hwatch⟩ := c.watch_eq n r
    obtain ⟨others, hothers, hrest⟩ := ih (c.call n r).network
    refine ⟨first ++ others, ?_, fun ω observer notes => ?_⟩
    · rw [List.map_append, hfirst, hothers]
      rfl
    · rw [calls, left_cons, Sighting.noted_append]
      simp only [watchAll, hwatch, hrest, List.map_cons]

end Client
end ModelChat
