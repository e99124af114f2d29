import Mathlib.Data.List.Forall2
import ModelChat.Proofs.Client.Posting
import ModelChat.Proofs.Http.Exchange
import ModelChat.Proofs.Http.Redaction

/-! What calls tell of the key. Main statement: calls with one key and with another give the same
results and events and show the same to an observer; only the server gets another authorization. -/
namespace ModelChat
open Text Http

namespace Http

/-- Headers that are the same but for the value of an authorization. -/
structure Header.Alike (h h' : Header) : Prop where
  name : h.name = h'.name
  value : h.key ≠ "authorization" → h.value = h'.value

/-- Requests that are the same but for the values of authorizations. -/
structure HttpRequest.Alike (q q' : HttpRequest) : Prop where
  method : q.method = q'.method
  url : q.url = q'.url
  headers : List.Forall₂ Header.Alike q.headers q'.headers
  body : q.body = q'.body

/-- Networks that cannot be told apart, but for the authorizations the server has got. -/
structure Network.Alike (n n' : Network) : Prop where
  route : n.route = n'.route
  script : n.script = n'.script
  seen : List.Forall₂ HttpRequest.Alike n.seen n'.seen

namespace Header.Alike
variable {h h' : Header}

theorem refl (h : Header) : h.Alike h :=
  ⟨rfl, fun _ => rfl⟩

theorem key (halike : h.Alike h') : h.key = h'.key :=
  congrArg lowerCase halike.name

/-- An authorization is hidden from observers. -/
theorem masked (halike : h.Alike h') : h.Masked h' := by
  refine ⟨halike.key, ?_⟩
  by_cases hkey : h.key = "authorization"
  · exact .inr (.inl hkey)
  · exact .inl (halike.value hkey)

end Header.Alike

namespace HttpRequest.Alike
variable {q q' : HttpRequest}

theorem refl (q : HttpRequest) : q.Alike q :=
  ⟨rfl, rfl, List.forall₂_same.mpr fun h _ => .refl h, rfl⟩

theorem render (h : q.Alike q') : q.render = q'.render := by
  have hmasked : List.Forall₂ Header.Masked q.headers q'.headers :=
    h.headers.imp fun _ _ => Header.Alike.masked
  rw [HttpRequest.render, HttpRequest.render, h.method, h.url, h.body, render_masked _ hmasked]

/-- A redirection treats both in the same way. -/
theorem redirected (h : q.Alike q') (status : Nat) (u : Url) :
    (Network.redirected q status u).Alike (Network.redirected q' status u) := by
  have hkept (k : String) {hs hs' : List Header} (hhs : List.Forall₂ Header.Alike hs hs') :
      List.Forall₂ Header.Alike (hs.filter (·.key ≠ k)) (hs'.filter (·.key ≠ k)) :=
    List.rel_filter (fun a b hab => by simp [hab.key]) hhs
  have hheaders : List.Forall₂ Header.Alike
      (if Network.sameServer q.url u then q.headers
        else q.headers.filter (·.key ≠ "authorization"))
      (if Network.sameServer q'.url u then q'.headers
        else q'.headers.filter (·.key ≠ "authorization")) := by
    rw [h.url]
    split
    · exact h.headers
    · exact hkept _ h.headers
  by_cases hrepeats : status = 307 ∨ status = 308
  · simp only [Network.redirected, if_pos hrepeats]
    exact ⟨h.method, rfl, hheaders, h.body⟩
  · simp only [Network.redirected, if_neg hrepeats]
    exact ⟨rfl, rfl, hkept _ hheaders, rfl⟩

end HttpRequest.Alike

namespace Network
variable {n n' : Network} {q q' : HttpRequest}

theorem Alike.refl (n : Network) : n.Alike n :=
  ⟨rfl, rfl, List.forall₂_same.mpr fun q _ => .refl q⟩

/-- A server that has got one more request. -/
theorem Alike.sent (h : n.Alike n') (hq : q.Alike q') :
    List.Forall₂ HttpRequest.Alike (n.seen ++ [q]) (n'.seen ++ [q']) :=
  List.rel_append h.seen (.cons hq .nil)

theorem deliver_alike (h : n.Alike n') (hq : q.Alike q') :
    (n.deliver q).1 = (n'.deliver q').1 ∧ (n.deliver q).2.Alike (n'.deliver q').2 := by
  simp only [deliver, ← h.route, ← h.script, ← hq.url]
  split
  · exact ⟨rfl, h⟩
  · split
    · exact ⟨rfl, rfl, rfl, h.seen⟩
    · exact ⟨rfl, rfl, rfl, h.sent hq⟩

/-- Deliveries that come to the same, but for the authorization of a request that follows. -/
inductive Step.Alike : Step → Step → Prop
  | ended (result : Except ConnectionFault Response) : Alike (.ended result) (.ended result)
  | refused (fault : BuildFault) : Alike (.refused fault) (.refused fault)
  | sentOn {next next' : HttpRequest} : next.Alike next' → Alike (.sentOn next) (.sentOn next')

theorem step_alike (route : Route) (hq : q.Alike q')
    (delivered : Except ConnectionFault (Response × Option Nat)) :
    (step route q delivered).Alike (step route q' delivered) := by
  cases delivered with
  | error fault => exact .ended _
  | ok answered =>
    simp only [step, ← hq.url]
    split
    · split
      · exact .ended _
      · exact .ended _
    · exact .refused _
    · exact .sentOn (hq.redirected _ _)

private theorem next_alike (h : n.Alike n') (hq : q.Alike q') :
    (step n.route q (n.deliver q).1).Alike (step n'.route q' (n'.deliver q').1) ∧
      (n.deliver q).2.Alike (n'.deliver q').2 := by
  obtain ⟨hdelivered, hleft⟩ := deliver_alike h hq
  rw [← hdelivered, ← h.route]
  exact ⟨step_alike n.route hq _, hleft⟩

/-- Redirection by redirection, both exchanges go the same way. -/
theorem follow_alike (redirects : Nat) (h : n.Alike n') (hq : q.Alike q') :
    (follow redirects n q).1 = (follow redirects n' q').1 ∧
      (follow redirects n q).2.Alike (follow redirects n' q').2 := by
  induction redirects generalizing n n' q q' with
  | zero =>
    obtain ⟨hstep, hleft⟩ := next_alike h hq
    generalize hs : step n.route q (n.deliver q).1 = s at hstep
    generalize hs' : step n'.route q' (n'.deliver q').1 = s' at hstep
    cases hstep with
    | ended result =>
      rw [follow_ended hs, follow_ended hs']
      exact ⟨rfl, hleft⟩
    | refused fault =>
      rw [follow_exhausted (by simp [hs]), follow_exhausted (by simp [hs']), hq.url]
      exact ⟨rfl, hleft⟩
    | sentOn hnext =>
      rw [follow_exhausted (by simp [hs]), follow_exhausted (by simp [hs']), hq.url]
      exact ⟨rfl, hleft⟩
  | succ redirects ih =>
    obtain ⟨hstep, hleft⟩ := next_alike h hq
    generalize hs : step n.route q (n.deliver q).1 = s at hstep
    generalize hs' : step n'.route q' (n'.deliver q').1 = s' at hstep
    cases hstep with
    | ended result =>
      rw [follow_ended hs, follow_ended hs']
      exact ⟨rfl, hleft⟩
    | refused fault =>
      rw [follow_refused hs, follow_refused hs']
      exact ⟨rfl, hleft⟩
    | sentOn hnext =>
      rw [follow_sentOn hs, follow_sentOn hs']
      exact ih hleft hnext

theorem exchange_alike (timeoutSecs : Nat) (h : n.Alike n') (hq : q.Alike q') :
    (n.exchange timeoutSecs q).1 = (n'.exchange timeoutSecs q').1 ∧
      (n.exchange timeoutSecs q).2.Alike (n'.exchange timeoutSecs q').2 := by
  simp only [exchange, ← hq.url, ← h.route]
  split
  · exact ⟨rfl, h⟩
  · split
    · exact ⟨rfl, h⟩
    · exact follow_alike maxRedirects h hq

end Network
end Http

namespace Client

/-- Calls that tell the same: their results, their events, what an observer is shown, and the
network they leave, but for the authorizations. -/
structure Call.Alike (x x' : Call) : Prop where
  outcome : x.outcome = x'.outcome
  events : x.events = x'.events
  observed : x.observed = x'.observed
  network : x.network.Alike x'.network

theorem send_alike {c c' : Client} (hc : c.timeoutSecs = c'.timeoutSecs) {n n' : Network}
    (h : n.Alike n') {q q' : HttpRequest} (hq : q.Alike q') :
    (c.send n q).Alike (c'.send n' q') := by
  obtain ⟨hresult, hleft⟩ := Network.exchange_alike c.timeoutSecs h hq
  unfold send
  rw [← hc]
  generalize n.exchange c.timeoutSecs q = exchanged at hresult hleft
  generalize n'.exchange c.timeoutSecs q' = exchanged' at hresult hleft
  obtain ⟨result, left⟩ := exchanged
  obtain ⟨result', left'⟩ := exchanged'
  obtain rfl : result = result' := hresult
  cases result with
  | error fault => exact ⟨rfl, rfl, rfl, hleft⟩
  | ok response => exact ⟨rfl, rfl, rfl, hleft⟩

section Keys
variable (base : String) (secs : Nat) {key key' : String}
  (hkey : isHeaderValue (Utf8.encode key) = true)
  (hkey' : isHeaderValue (Utf8.encode key') = true)
include hkey hkey'

/-- With two keys that may be sent, a request is built with either or with neither. -/
theorem build_alike (r : Request) :
    (∃ fault, build ⟨base, key, secs⟩ r = .error fault ∧
      build ⟨base, key', secs⟩ r = .error fault) ∨
    ∃ q q', build ⟨base, key, secs⟩ r = .ok q ∧ build ⟨base, key', secs⟩ r = .ok q' ∧
      q.Alike q' := by
  have hfit := (headers_fit ⟨base, key, secs⟩).trans hkey
  have hfit' := (headers_fit ⟨base, key', secs⟩).trans hkey'
  have hhidden : lowerCase "authorization" = "authorization" := by decide
  have hheaders : List.Forall₂ Header.Alike (headers ⟨base, key, secs⟩)
      (headers ⟨base, key', secs⟩) :=
    .cons ⟨rfl, fun h => absurd hhidden h⟩ (.cons (.refl _) .nil)
  have hendpoint : endpoint ⟨base, key', secs⟩ = endpoint ⟨base, key, secs⟩ := rfl
  simp only [build, HttpRequest.build, hendpoint, hfit, hfit', Bool.not_true, Bool.false_eq_true,
    if_false]
  split
  next => exact .inl ⟨_, rfl, rfl⟩
  next u hread =>
    split
    next => exact .inl ⟨_, rfl, rfl⟩
    next =>
      refine .inr ?_
      split
      · refine ⟨_, _, rfl, rfl, ?_⟩
        exact ⟨rfl, rfl, hheaders, rfl⟩
      · refine ⟨_, _, rfl, rfl, ?_⟩
        exact ⟨rfl, rfl, .cons (.refl _) hheaders, rfl⟩

/-- A call tells nothing of its key. -/
theorem call_alike {n n' : Network} (h : n.Alike n') (r : Request) :
    (call ⟨base, key, secs⟩ n r).Alike (call ⟨base, key', secs⟩ n' r) := by
  obtain ⟨fault, hfault, hfault'⟩ | ⟨q, q', hbuilt, hbuilt', hq⟩ :=
    build_alike base secs hkey hkey' r
  · simp only [call, hfault, hfault']
    exact ⟨rfl, rfl, rfl, h⟩
  · obtain ⟨houtcome, hevents, hobserved, hleft⟩ := send_alike rfl h hq
    simp only [call, hbuilt, hbuilt']
    refine ⟨houtcome, ?_, ?_, hleft⟩
    · exact congrArg₂ List.cons (by rw [hq.url]) hevents
    · exact congrArg₂ List.cons hq.render hobserved

end Keys

/-- For every address and timeout, all scripts and all requests, calls with one key tell what the
same calls with another tell: the same results, the same log and the same texts for an observer. The
requests the server gets differ in the values of their authorizations at most. -/
theorem calls_hide_key (base key key' : String) (secs : Nat)
    (hkey : isHeaderValue (Utf8.encode key) = true)
    (hkey' : isHeaderValue (Utf8.encode key') = true) (n : Network) (rs : List Request) :
    List.Forall₂ Call.Alike (calls ⟨base, key, secs⟩ n rs) (calls ⟨base, key', secs⟩ n rs) := by
  -- After the first call the two networks are alike, but no longer the same.
  have hrun (n n' : Network) (h : n.Alike n') :
      List.Forall₂ Call.Alike (calls ⟨base, key, secs⟩ n rs) (calls ⟨base, key', secs⟩ n' rs) := by
    induction rs generalizing n n' with
    | nil => exact .nil
    | cons r rs ih =>
      have hfirst := call_alike base secs hkey hkey' h r
      exact .cons hfirst (ih _ _ hfirst.network)
  exact hrun n n (.refl n)

/-- A server that limits the first request and closes the connection of the second. -/
def limiting : Network :=
  ⟨.direct, [.response ⟨429, [⟨"Retry-After", Utf8.encode "5"⟩], []⟩ none, .close], []⟩

theorem calls_hide_key_when_limited :
    let r : Request := ⟨.chat "mistral", [.ofText .user "Hi"]⟩
    let given := calls ⟨"http://[::1]", "one", 60⟩ limiting [r, r]
    let given' := calls ⟨"http://[::1]", "two", 60⟩ limiting [r, r]
    isHeaderValue (Utf8.encode "one") = true ∧ isHeaderValue (Utf8.encode "two") = true ∧
    List.Forall₂ Call.Alike given given' ∧
    given.map (·.outcome) = [.error (.rateLimited (some "5")),
      .error (.connection (.closed "http://[::1]/chat/completions"))] ∧
    given.map (·.network.seen) ≠ given'.map (·.network.seen) := by
  intro r given given'
  have hkey : isHeaderValue (Utf8.encode "one") = true := by decide
  have hkey' : isHeaderValue (Utf8.encode "two") = true := by decide
  refine ⟨hkey, hkey', ?_, ?_, ?_⟩
  · exact calls_hide_key "http://[::1]" "one" "two" 60 hkey hkey' limiting [r, r]
  · decide +kernel
  · decide +kernel

end Client
end ModelChat
