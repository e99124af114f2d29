import ModelChat.Http.Network

/-! Exchanges with a server, one delivery after another. Main statements: how an exchange is
concluded is told by the responses on its way, and it depends only on the items of the script that
it takes. -/
namespace ModelChat.Http.Network

section Steps
variable {route : Route} {q : HttpRequest}
  {delivered : Except ConnectionFault (Response × Option Nat)}

/-- What a delivery may come to, and from what. -/
theorem step_cases (route : Route) (q : HttpRequest)
    (delivered : Except ConnectionFault (Response × Option Nat)) :
    (∃ fault, step route q delivered = .ended (.error fault)) ∨
    (∃ response length received, delivered = .ok (response, length) ∧
      route.redirection q.url response = .ignored ∧ receive response length = some received ∧
      step route q delivered = .ended (.ok received)) ∨
    (∃ response length fault, delivered = .ok (response, length) ∧
      route.redirection q.url response = .refused fault ∧
      step route q delivered = .refused fault) ∨
    ∃ response length u sendable, delivered = .ok (response, length) ∧
      route.redirection q.url response = .onward u sendable ∧
      step route q delivered = .sentOn (redirected q response.status u) := by
  match delivered with
  | .error fault => exact .inl ⟨fault, rfl⟩
  | .ok (response, length) =>
    match hwhere : route.redirection q.url response with
    | .refused fault =>
      exact .inr (.inr (.inl ⟨response, length, fault, rfl, hwhere, by simp [step, hwhere]⟩))
    | .onward u sendable =>
      exact .inr (.inr (.inr ⟨response, length, u, sendable, rfl, hwhere, by simp [step, hwhere]⟩))
    | .ignored =>
      match hreceive : receive response length with
      | some received =>
        exact .inr (.inl ⟨response, length, received, rfl, hwhere, hreceive,
          by simp [step, hwhere, hreceive]⟩)
      | none => exact .inl ⟨.cutShort, by simp [step, hwhere, hreceive]⟩

theorem step_final {response received : Response} {length : Option Nat}
    (settled : route.redirection q.url response = .ignored)
    (complete : receive response length = some received) :
    step route q (.ok (response, length)) = .ended (.ok received) := by
  simp [step, settled, complete]

theorem step_refused {response : Response} (length : Option Nat) {fault : BuildFault}
    (astray : route.redirection q.url response = .refused fault) :
    step route q (.ok (response, length)) = .refused fault := by
  simp [step, astray]

theorem step_sentOn {response : Response} (length : Option Nat) {u : Url}
    {sendable : u.isSendable = true}
    (sentOn : route.redirection q.url response = .onward u sendable) :
    step route q (.ok (response, length)) = .sentOn (redirected q response.status u) := by
  simp [step, sentOn]

end Steps

/-- The rest of an exchange after a delivery. -/
def proceed (redirects : Nat) (q : HttpRequest)
    (delivered : Except ConnectionFault (Response × Option Nat)) (n : Network) :
    Except SendFault Response × Network :=
  match step n.route q delivered, redirects with
  | .ended result, _ => (result.mapError .connection, n)
  | _, 0 => (.error (.connection (.tooManyRedirects q.url.text)), n)
  | .refused fault, _ + 1 => (.error (.builder fault), n)
  | .sentOn next, redirects + 1 => follow redirects n next

/-- An exchange is a delivery and what follows from it. -/
theorem follow_eq (redirects : Nat) (n : Network) (q : HttpRequest) :
    follow redirects n q = proceed redirects q (n.deliver q).1 (n.deliver q).2 := by
  unfold follow proceed
  obtain ⟨delivered, left⟩ := n.deliver q
  cases redirects <;> rfl

theorem deliver_route (n : Network) (q : HttpRequest) : (n.deliver q).2.route = n.route := by
  unfold deliver
  split <;> rfl

section Follow
variable {redirects : Nat} {n : Network} {q : HttpRequest}

theorem follow_ended {result : Except ConnectionFault Response}
    (h : step n.route q (n.deliver q).1 = .ended result) :
    follow redirects n q = (result.mapError .connection, (n.deliver q).2) := by
  rw [follow_eq]
  unfold proceed
  rw [deliver_route, h]

theorem follow_exhausted (h : ∀ result, step n.route q (n.deliver q).1 ≠ .ended result) :
    follow 0 n q =
      (.error (.connection (.tooManyRedirects q.url.text)), (n.deliver q).2) := by
  rw [follow_eq]
  unfold proceed
  rw [deliver_route]
  cases hstep : step n.route q (n.deliver q).1 with
  | ended result => exact absurd hstep (h result)
  | refused fault => rfl
  | sentOn next => rfl

theorem follow_refused {fault : BuildFault}
    (h : step n.route q (n.deliver q).1 = .refused fault) :
    follow (redirects + 1) n q = (.error (.builder fault), (n.deliver q).2) := by
  rw [follow_eq]
  unfold proceed
  rw [deliver_route, h]

theorem follow_sentOn {next : HttpRequest}
    (h : step n.route q (n.deliver q).1 = .sentOn next) :
    follow (redirects + 1) n q = follow redirects (n.deliver q).2 next := by
  rw [follow_eq]
  unfold proceed
  rw [deliver_route, h]

end Follow

/-- What one request more may come to, and from what. -/
theorem follow_cases (redirects : Nat) (n : Network) (q : HttpRequest) :
    (∃ fault, follow redirects n q = (.error (.connection fault), (n.deliver q).2)) ∨
    (∃ response length received, (n.deliver q).1 = .ok (response, length) ∧
      n.route.redirection q.url response = .ignored ∧ receive response length = some received ∧
      follow redirects n q = (.ok received, (n.deliver q).2)) ∨
    (∃ less response length fault, redirects = less + 1 ∧
      (n.deliver q).1 = .ok (response, length) ∧
      n.route.redirection q.url response = .refused fault ∧
      follow redirects n q = (.error (.builder fault), (n.deliver q).2)) ∨
    ∃ less response length u sendable, redirects = less + 1 ∧
      (n.deliver q).1 = .ok (response, length) ∧
      n.route.redirection q.url response = .onward u sendable ∧
      follow redirects n q = follow less (n.deliver q).2 (redirected q response.status u) := by
  obtain ⟨fault, hstep⟩ | ⟨response, length, received, hdelivered, settled, complete, hstep⟩ |
    ⟨response, length, fault, hdelivered, astray, hstep⟩ |
    ⟨response, length, u, sendable, hdelivered, sentOn, hstep⟩ :=
    step_cases n.route q (n.deliver q).1
  · exact .inl ⟨fault, follow_ended hstep⟩
  · exact .inr (.inl ⟨response, length, received, hdelivered, settled, complete,
      follow_ended hstep⟩)
  · cases redirects with
    | zero => exact .inl ⟨_, follow_exhausted (by simp [hstep])⟩
    | succ less =>
      exact .inr (.inr (.inl ⟨less, response, length, fault, rfl, hdelivered, astray,
        follow_refused hstep⟩))
  · cases redirects with
    | zero => exact .inl ⟨_, follow_exhausted (by simp [hstep])⟩
    | succ less =>
      exact .inr (.inr (.inr ⟨less, response, length, u, sendable, rfl, hdelivered, sentOn,
        follow_sentOn hstep⟩))

/-! ### Conclusions -/

/-- What concludes an exchange. -/
inductive Conclusion where
  | received (response : Response)
  | refused (fault : BuildFault)

/-- What a conclusion is for the client. -/
def Conclusion.result : Conclusion → Except SendFault Response
  | received response => .ok response
  | refused fault => .error (.builder fault)

/-- After at most `redirects` redirections an exchange is concluded by a complete final response or
by a location that no request can be made for, and the network is left as it is then. -/
inductive Concludes : (redirects : Nat) → Network → HttpRequest → Conclusion → Network → Prop
  | final {redirects : Nat} {n left : Network} {q : HttpRequest} {response received : Response}
      {length : Option Nat} (delivered : n.deliver q = (.ok (response, length), left))
      (settled : n.route.redirection q.url response = .ignored)
      (complete : receive response length = some received) :
      Concludes redirects n q (.received received) left
  | refused {redirects : Nat} {n left : Network} {q : HttpRequest} {response : Response}
      {length : Option Nat} {fault : BuildFault}
      (delivered : n.deliver q = (.ok (response, length), left))
      (astray : n.route.redirection q.url response = .refused fault) :
      Concludes (redirects + 1) n q (.refused fault) left
  | redirected {redirects : Nat} {n n' left : Network} {q : HttpRequest} {response : Response}
      {length : Option Nat} {u : Url} {sendable : u.isSendable = true} {conclusion : Conclusion}
      (delivered : n.deliver q = (.ok (response, length), n'))
      (sentOn : n.route.redirection q.url response = .onward u sendable)
      (rest : Concludes redirects n' (redirected q response.status u) conclusion left) :
      Concludes (redirects + 1) n q conclusion left

/-- What concludes an exchange is its result. -/
private theorem follow_of_concludes {redirects : Nat} {n left : Network} {q : HttpRequest}
    {conclusion : Conclusion} (h : Concludes redirects n q conclusion left) :
    follow redirects n q = (conclusion.result, left) := by
  induction h with
  | final delivered settled complete =>
    rw [follow_ended (by rw [delivered, step_final settled complete]), delivered]
    rfl
  | refused delivered astray =>
    rw [follow_refused (by rw [delivered, step_refused _ astray]), delivered]
    rfl
  | redirected delivered sentOn _ ih =>
    rw [follow_sentOn (by rw [delivered, step_sentOn _ sentOn]), delivered]
    exact ih

private theorem concludes_of_follow {redirects : Nat} {n left : Network} {q : HttpRequest}
    {conclusion : Conclusion} (h : follow redirects n q = (conclusion.result, left)) :
    Concludes redirects n q conclusion left := by
  induction redirects using Nat.strongRecOn generalizing n q with
  | ind redirects ih =>
    obtain ⟨fault, hfollow⟩ |
      ⟨response, length, received, hdelivered, settled, complete, hfollow⟩ |
      ⟨less, response, length, fault, rfl, hdelivered, astray, hfollow⟩ |
      ⟨less, response, length, u, sendable, rfl, hdelivered, sentOn, hfollow⟩ :=
      follow_cases redirects n q
    · rw [hfollow] at h
      cases conclusion <;> cases h
    · rw [hfollow] at h
      cases conclusion <;> cases h
      exact .final (Prod.ext hdelivered rfl) settled complete
    · rw [hfollow] at h
      cases conclusion <;> cases h
      exact .refused (Prod.ext hdelivered rfl) astray
    · rw [hfollow] at h
      exact .redirected (Prod.ext hdelivered rfl) sentOn (ih less (Nat.lt_succ_self less) h)

theorem follow_eq_iff {redirects : Nat} {n left : Network} {q : HttpRequest}
    {conclusion : Conclusion} : follow redirects n q = (conclusion.result, left) ↔
      Concludes redirects n q conclusion left :=
  ⟨concludes_of_follow, follow_of_concludes⟩

/-- An exchange has one conclusion at most. -/
theorem Concludes.unique {redirects : Nat} {n left left' : Network} {q : HttpRequest}
    {conclusion conclusion' : Conclusion} (h : Concludes redirects n q conclusion left)
    (h' : Concludes redirects n q conclusion' left') : conclusion = conclusion' := by
  have hresult : conclusion.result = conclusion'.result :=
    congrArg Prod.fst ((follow_of_concludes h).symm.trans (follow_of_concludes h'))
  cases conclusion <;> cases conclusion' <;> cases hresult <;> rfl

theorem exchange_unsendable {q : HttpRequest} (h : q.url.isSendable = false) (n : Network)
    (timeoutSecs : Nat) :
    n.exchange timeoutSecs q = (.error (.builder (.badAddress q.url.text)), n) := by
  simp [exchange, h]

theorem exchange_eq_follow {q : HttpRequest} (h : q.url.isSendable = true) {timeoutSecs : Nat}
    (htime : timeoutSecs ≠ 0) (n : Network) :
    n.exchange timeoutSecs q = follow maxRedirects n q := by
  simp [exchange, h, htime]

theorem deliver_unreachable {n : Network} (h : n.route.reachable = false) (q : HttpRequest) :
    n.deliver q = (.error (.unreachable q.url.text), n) := by
  simp [deliver, h]

/-- Without any time nothing comes. -/
theorem exchange_instant (n : Network) (q : HttpRequest) :
    ∃ fault, n.exchange 0 q = (.error fault, n) := by
  by_cases hsendable : q.url.isSendable = true
  · by_cases hreachable : n.route.reachable = true
    · exact ⟨.connection (.timedOut q.url.text), by simp [exchange, hsendable, hreachable]⟩
    · have hdelivered := deliver_unreachable (by simpa using hreachable) q
      have hstep : step n.route q (n.deliver q).1 = .ended (.error (.unreachable q.url.text)) := by
        rw [hdelivered]
        rfl
      refine ⟨.connection (.unreachable q.url.text), ?_⟩
      simp only [exchange, hsendable, hreachable, follow_ended hstep, hdelivered]
      rfl
  · exact ⟨_, exchange_unsendable (by simpa using hsendable) n 0⟩

/-- An exchange succeeds with a response if and only if there is time for it and the response
arrives. -/
theorem exchange_eq_ok_iff {n left : Network} {timeoutSecs : Nat} {q : HttpRequest}
    {received : Response} :
    n.exchange timeoutSecs q = (.ok received, left) ↔
      q.url.isSendable = true ∧ timeoutSecs ≠ 0 ∧
        Concludes maxRedirects n q (.received received) left := by
  by_cases hsendable : q.url.isSendable = true
  · by_cases htime : timeoutSecs = 0
    · obtain ⟨fault, hexchange⟩ := exchange_instant n q
      simp [htime, hexchange]
    · rw [exchange_eq_follow hsendable htime, ← follow_eq_iff]
      simp [hsendable, htime, Conclusion.result]
  · rw [exchange_unsendable (by simpa using hsendable)]
    simp [hsendable]

/-! ### What an exchange takes -/

/-- What the server does with the requests to come; after the script it closes every connection. -/
def item (n : Network) (i : Nat) : Delivery :=
  n.script.getD i .close

theorem item_of_drop {m n : Network} {k : Nat} (h : m.script = n.script.drop k) (i : Nat) :
    m.item i = n.item (k + i) := by
  rw [item, item, h, List.getD_eq_getElem?_getD, List.getElem?_drop, List.getD_eq_getElem?_getD]

section Deliver
variable {n : Network} (h : n.route.reachable = true) (q : HttpRequest)
include h

theorem deliver_fst : (n.deliver q).1 = answer q.url.text (n.item 0) := by
  have hitem : n.item 0 = n.script.head?.getD .close := by
    rw [item, List.getD_eq_getElem?_getD, List.head?_eq_getElem?]
  simp [deliver, h, hitem]

theorem deliver_script : (n.deliver q).2.script = n.script.drop 1 := by
  simp [deliver, h]

end Deliver

/-- Networks with the same way to the server, which is going to do the same with the next
requests. -/
structure SameNext (count : Nat) (m n : Network) : Prop where
  route : m.route = n.route
  items : ∀ i < count, m.item i = n.item i

/-- What is done over a network takes the next `count` items of the script: it leaves the others,
and comes to the same over every network with these. -/
structure Takes {α : Type} (act : Network → α × Network) (n : Network) (count : Nat) : Prop where
  result : ∀ m, SameNext count m n → (act m).1 = (act n).1
  script : ∀ m, SameNext count m n → (act m).2.script = m.script.drop count
  route : ∀ m, SameNext count m n → (act m).2.route = m.route

theorem SameNext.refl (count : Nat) (n : Network) : SameNext count n n :=
  ⟨rfl, fun _ _ => rfl⟩

/-- What takes nothing leaves the network alone. -/
theorem Takes.nothing {α : Type} (a : α) (n : Network) : Takes (fun m => (a, m)) n 0 where
  result _ _ := rfl
  script _ _ := rfl
  route _ _ := rfl

/-- It is enough to know what is done over networks with the same way to the server. -/
theorem Takes.congr {α : Type} {act act' : Network → α × Network} {n : Network} {count : Nat}
    (h : Takes act n count) (hsame : ∀ m, m.route = n.route → act' m = act m) :
    Takes act' n count where
  result m hm := by rw [hsame m hm.route, hsame n rfl, h.result m hm]
  script m hm := by rw [hsame m hm.route, h.script m hm]
  route m hm := by rw [hsame m hm.route, h.route m hm]

theorem Takes.map {α β : Type} {act : Network → α × Network} {n : Network} {count : Nat}
    (h : Takes act n count) (f : α → β) : Takes (fun m => (f (act m).1, (act m).2)) n count where
  result m hm := congrArg f (h.result m hm)
  script := h.script
  route := h.route

/-- One thing after another takes its items from where the other left off. -/
theorem Takes.andThen {α β : Type} {act : Network → α × Network}
    {next : α → Network → β × Network} {n : Network} {count count' : Nat}
    (h : Takes act n count) (h' : Takes (next (act n).1) (act n).2 count') :
    Takes (fun m => next (act m).1 (act m).2) n (count + count') := by
  have hfirst {m : Network} (hm : SameNext (count + count') m n) : SameNext count m n :=
    ⟨hm.route, fun i hi => hm.items i (Nat.lt_add_right count' hi)⟩
  -- What the first leaves begins with the items that the other takes.
  have hrest {m : Network} (hm : SameNext (count + count') m n) :
      SameNext count' (act m).2 (act n).2 := by
    refine ⟨?_, fun i hi => ?_⟩
    · rw [h.route m (hfirst hm), h.route n (.refl count n), hm.route]
    · rw [item_of_drop (h.script m (hfirst hm)), item_of_drop (h.script n (.refl count n))]
      exact hm.items _ (Nat.add_lt_add_left hi count)
  refine ⟨fun m hm => ?_, fun m hm => ?_, fun m hm => ?_⟩
  · rw [h.result m (hfirst hm)]
    exact h'.result _ (hrest hm)
  · rw [h.result m (hfirst hm), h'.script _ (hrest hm), h.script m (hfirst hm), List.drop_drop]
  · rw [h.result m (hfirst hm), h'.route _ (hrest hm), h.route m (hfirst hm)]

/-- A request takes one item, if there is a way to the server. -/
theorem takes_deliver (n : Network) (q : HttpRequest) : ∃ count, Takes (·.deliver q) n count := by
  cases h : n.route.reachable with
  | false =>
    refine ⟨0, (Takes.nothing (.error (.unreachable q.url.text)) n).congr fun m hm => ?_⟩
    exact deliver_unreachable (by rw [hm, h]) q
  | true =>
    have hreachable {m : Network} (hm : SameNext 1 m n) : m.route.reachable = true := by
      rw [hm.route, h]
    refine ⟨1, fun m hm => ?_, fun m hm => ?_, fun m _ => deliver_route m q⟩
    · rw [deliver_fst (hreachable hm), deliver_fst h, hm.items 0 Nat.one_pos]
    · exact deliver_script (hreachable hm) q

/-- One more request takes one more item at most. -/
private theorem takes_proceed {redirects : Nat} {q : HttpRequest} {n : Network}
    (delivered : Except ConnectionFault (Response × Option Nat))
    (hrest : ∀ less < redirects, ∀ next, ∃ count, Takes (follow less · next) n count) :
    ∃ count, Takes (proceed redirects q delivered) n count := by
  have hdone (h : ∀ m : Network, m.route = n.route →
      proceed redirects q delivered m = ((proceed redirects q delivered n).1, m)) :
      ∃ count, Takes (proceed redirects q delivered) n count :=
    ⟨0, (Takes.nothing _ n).congr h⟩
  cases hstep : step n.route q delivered with
  | ended result => exact hdone fun m hm => by simp only [proceed, hm, hstep]
  | refused fault =>
    cases redirects with
    | zero => exact hdone fun m hm => by simp only [proceed, hm, hstep]
    | succ less => exact hdone fun m hm => by simp only [proceed, hm, hstep]
  | sentOn next =>
    cases redirects with
    | zero => exact hdone fun m hm => by simp only [proceed, hm, hstep]
    | succ less =>
      obtain ⟨count, htakes⟩ := hrest less (Nat.lt_succ_self less) next
      exact ⟨count, htakes.congr fun m hm => by simp only [proceed, hm, hstep]⟩

/-- An exchange depends on no item of the script but those it takes. -/
theorem takes_follow (redirects : Nat) (n : Network) (q : HttpRequest) :
    ∃ count, Takes (follow redirects · q) n count := by
  induction redirects using Nat.strongRecOn generalizing n q with
  | ind redirects ih =>
    obtain ⟨first, hfirst⟩ := takes_deliver n q
    obtain ⟨others, hothers⟩ := takes_proceed (q := q) (n.deliver q).1
      fun less hless next => ih less hless (n.deliver q).2 next
    exact ⟨first + others, (hfirst.andThen hothers).congr fun m _ => follow_eq redirects m q⟩

theorem takes_exchange (n : Network) (timeoutSecs : Nat) (q : HttpRequest) :
    ∃ count, Takes (·.exchange timeoutSecs q) n count := by
  cases hsendable : q.url.isSendable with
  | false =>
    exact ⟨0, (Takes.nothing _ n).congr fun m _ => exchange_unsendable hsendable m timeoutSecs⟩
  | true =>
    by_cases hinstant : timeoutSecs = 0 ∧ n.route.reachable = true
    · refine ⟨0, (Takes.nothing (.error (.connection (.timedOut q.url.text))) n).congr
        fun m hm => ?_⟩
      simp [exchange, hsendable, hm, hinstant]
    · obtain ⟨count, htakes⟩ := takes_follow maxRedirects n q
      refine ⟨count, htakes.congr fun m hm => ?_⟩
      simp only [exchange, hsendable, hm, hinstant, Bool.not_true, Bool.false_eq_true, if_false]

end ModelChat.Http.Network
