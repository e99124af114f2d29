import ModelChat.Proofs.Client.Observer
import ModelChat.Proofs.Client.Posting
import ModelChat.Proofs.Http.Exchange

/-! How calls end. Main statement: every call ends in exactly one of five ways, calls take the items
of a script in turn, and observers change nothing. -/
namespace ModelChat
open Text Http

namespace Client

/-- A client whose requests can be built: the address is that of a host, and the key has no control
characters. -/
structure IsBuildable (c : Client) : Prop where
  address : ∃ u, Url.parse? c.endpoint = some u ∧ u.hasHost = true
  key : isHeaderValue (Utf8.encode c.apiKey) = true

/-- A request of such a client goes to its address. -/
theorem IsBuildable.build {c : Client} (h : c.IsBuildable) (r : Request) :
    ∃ q u, c.build r = .ok q ∧ Url.parse? c.endpoint = some u ∧ q.url = u.withoutCredentials := by
  obtain ⟨u, hread, hhost⟩ := h.address
  obtain ⟨sent, hbuild, -⟩ := HttpRequest.build_eq_ok (· ++ ·) "POST" hread hhost
    ((headers_fit c).trans h.key) (some (Utf8.encode r.text))
  exact ⟨_, u, hbuild, hread, rfl⟩

theorem build_eq_error {c : Client} (h : ¬ c.IsBuildable) (r : Request) :
    ∃ fault, c.build r = .error fault := by
  unfold Client.build HttpRequest.build
  split
  next => exact ⟨_, rfl⟩
  next u hread =>
    split
    next => exact ⟨_, rfl⟩
    next hhost =>
      have hkey : ¬ isHeaderValue (Utf8.encode c.apiKey) = true :=
        fun hkey => h ⟨⟨u, hread, by simpa using hhost⟩, hkey⟩
      rw [headers_fit]
      simp [hkey]

/-- The ways in which a call ends. -/
inductive Way where
  | unbuilt
  | unsent
  | unanswered
  | misdirected
  | answered

/-- What it is for a call to end in a way: when it does, and all that comes of it. `IsFit` tells the
addresses that requests are sent to. -/
def Ends (IsFit : Url → Prop) (c : Client) (n : Network) (r : Request) : Way → Prop
  | .unbuilt => ¬ c.IsBuildable ∧
      ∃ fault : BuildFault, c.call n r = ⟨.error (.invalidRequest fault.message), [], [], n⟩
  | .unsent => ∃ q, c.build r = .ok q ∧ ¬ IsFit q.url ∧
      c.call n r = ⟨.error (.invalidRequest (BuildFault.badAddress q.url.text).message),
        [.requesting q.url.text r.messages.length], [q.render], n⟩
  | .unanswered => ∃ q, c.build r = .ok q ∧ IsFit q.url ∧
      (¬ ∃ conclusion left, Network.Concludes Network.maxRedirects n q conclusion left) ∧
      ∃ fault left, c.call n r = ⟨.error (.connection fault),
        [.requesting q.url.text r.messages.length], [q.render], left⟩
  | .misdirected => ∃ q fault left, c.build r = .ok q ∧ IsFit q.url ∧
      Network.Concludes Network.maxRedirects n q (.refused fault) left ∧
      c.call n r = ⟨.error (.invalidRequest fault.message),
        [.requesting q.url.text r.messages.length], [q.render], left⟩
  | .answered => ∃ q received left, c.build r = .ok q ∧ IsFit q.url ∧
      Network.Concludes Network.maxRedirects n q (.received received) left ∧
      c.call n r = ⟨Completion.ofResponse received, .requesting q.url.text r.messages.length ::
        Completion.events (Completion.ofResponse received), [q.render, received.render], left⟩

/-- A request that is sent ends with the exchange. -/
private theorem ends_sent {IsFit : Url → Prop} {c : Client} {n : Network} {r : Request}
    {q : HttpRequest} (hbuild : c.build r = .ok q) (hfit : IsFit q.url)
    (hexchange : n.exchange c.timeoutSecs q = Network.follow Network.maxRedirects n q) :
    ∃ way, c.Ends IsFit n r way := by
  match hfollow : Network.follow Network.maxRedirects n q with
  | (.ok received, left) =>
    have hconcludes : Network.Concludes Network.maxRedirects n q (.received received) left :=
      Network.follow_eq_iff.mp hfollow
    exact ⟨.answered, q, received, left, hbuild, hfit, hconcludes,
      call_answered hbuild (hexchange.trans hfollow)⟩
  | (.error (.builder fault), left) =>
    have hconcludes : Network.Concludes Network.maxRedirects n q (.refused fault) left :=
      Network.follow_eq_iff.mp hfollow
    exact ⟨.misdirected, q, fault, left, hbuild, hfit, hconcludes,
      call_failed hbuild (hexchange.trans hfollow)⟩
  | (.error (.connection fault), left) =>
    refine ⟨.unanswered, q, hbuild, hfit, ?_, fault, left,
      call_failed hbuild (hexchange.trans hfollow)⟩
    rintro ⟨conclusion, left', hconcludes⟩
    have hresult := hfollow.symm.trans (Network.follow_eq_iff.mpr hconcludes)
    cases conclusion <;> cases hresult

/-- Every call ends in some way. -/
theorem exists_ends {c : Client} (hplain : ∀ u, Url.parse? c.endpoint = some u → u.scheme ≠ "https")
    (htime : c.timeoutSecs ≠ 0) (n : Network) (r : Request) :
    ∃ way, c.Ends Url.IsServed n r way := by
  by_cases hbuildable : c.IsBuildable
  · obtain ⟨q, u, hbuild, hread, hq⟩ := hbuildable.build r
    have hserved : q.url.isSendable = true ↔ q.url.IsServed := by
      refine Url.isSendable_iff ?_
      rw [hq, Url.scheme_withoutCredentials]
      exact hplain u hread
    by_cases hfit : q.url.IsServed
    · exact ends_sent hbuild hfit (Network.exchange_eq_follow (hserved.mpr hfit) htime n)
    · have hunsendable : q.url.isSendable = false :=
        Bool.eq_false_iff.mpr fun h => hfit (hserved.mp h)
      exact ⟨.unsent, q, hbuild, hfit,
        call_failed hbuild (Network.exchange_unsendable hunsendable n c.timeoutSecs)⟩
  · obtain ⟨fault, hbuild⟩ := build_eq_error hbuildable r
    exact ⟨.unbuilt, hbuildable, fault, by rw [call, hbuild]; rfl⟩

/-- Only such a client has its requests built. -/
theorem isBuildable_of_build {c : Client} {r : Request} {q : HttpRequest}
    (h : c.build r = .ok q) : c.IsBuildable := by
  by_contra hnot
  obtain ⟨fault, hfault⟩ := build_eq_error hnot r
  rw [hfault] at h
  cases h

/-- No call ends in two ways. -/
theorem ends_unique {IsFit : Url → Prop} {c : Client} {n : Network} {r : Request} {way way' : Way}
    (h : c.Ends IsFit n r way) (h' : c.Ends IsFit n r way') : way = way' := by
  -- A request is built or not, its address fits or not, and there is one conclusion at most.
  have hone {q : HttpRequest} {left left' : Network} {received : Response} {fault : BuildFault}
      (hreceived : Network.Concludes Network.maxRedirects n q (.received received) left)
      (hrefused : Network.Concludes Network.maxRedirects n q (.refused fault) left') : False := by
    cases hreceived.unique hrefused
  cases way <;> cases way' <;> simp only [Ends] at h h' <;> grind [isBuildable_of_build]

/-- What a call tells. -/
def Call.told (x : Call) : Outcome × List Event × List String :=
  (x.outcome, x.events, x.observed)

/-- Calls that take the items of a script in turn, beginning at `start`. Whatever comes before the
items of a call and behind them, a call alone tells the same. -/
inductive InTurn (c : Client) (n : Network) : (start : Nat) → List Request → List Call → Prop
  | nil {start : Nat} : InTurn c n start [] []
  | cons {start count : Nat} {r : Request} {rs : List Request} {x : Call} {xs : List Call}
      (told : ∀ m : Network, m.route = n.route →
        (∀ i < count, m.item i = n.item (start + i)) → (c.call m r).told = x.told)
      (left : x.network.script = n.script.drop (start + count))
      (rest : InTurn c n (start + count) rs xs) : InTurn c n start (r :: rs) (x :: xs)

/-- What a call tells when its request is built, by the result of the exchange. -/
def toldOf (r : Request) (q : HttpRequest) :
    Except SendFault Response → Outcome × List Event × List String
  | .error fault =>
    (.error (.ofSendFault fault), [.requesting q.url.text r.messages.length], [q.render])
  | .ok received => (Completion.ofResponse received,
    .requesting q.url.text r.messages.length :: Completion.events (Completion.ofResponse received),
    [q.render, received.render])

/-- A call depends on no item of the script but those it takes. -/
theorem takes_call (c : Client) (n : Network) (r : Request) :
    ∃ count, Network.Takes (fun m => ((c.call m r).told, (c.call m r).network)) n count := by
  cases hbuild : c.build r with
  | error fault =>
    refine ⟨0, ?_⟩
    simp only [call, hbuild, Call.told]
    exact .nothing _ n
  | ok q =>
    have hsame : (fun m => ((c.call m r).told, (c.call m r).network)) =
        fun m => (toldOf r q (m.exchange c.timeoutSecs q).1, (m.exchange c.timeoutSecs q).2) := by
      funext m
      rcases hexchange : m.exchange c.timeoutSecs q with ⟨fault | received, left⟩
      · rw [call_failed hbuild hexchange, Call.told, toldOf]
      · rw [call_answered hbuild hexchange, Call.told, toldOf]
    obtain ⟨count, htakes⟩ := Network.takes_exchange n c.timeoutSecs q
    rw [hsame]
    exact ⟨count, htakes.map (toldOf r q)⟩

/-- Each call begins where the one before has left off. -/
theorem calls_inTurn (c : Client) {n m : Network} {start : Nat}
    (hroute : m.route = n.route) (hscript : m.script = n.script.drop start)
    (rs : List Request) : c.InTurn n start rs (c.calls m rs) := by
  induction rs generalizing m start with
  | nil => exact .nil
  | cons r rs ih =>
    obtain ⟨count, htold, hleft, hkept⟩ := c.takes_call m r
    dsimp only at htold hleft hkept
    have hself := Network.SameNext.refl count m
    have hscript' : (c.call m r).network.script = n.script.drop (start + count) := by
      rw [hleft m hself, hscript, List.drop_drop]
    refine .cons (fun m' hm' hitems => ?_) hscript' (ih ((hkept m hself).trans hroute) hscript')
    refine htold m' ⟨hm'.trans hroute.symm, fun i hi => ?_⟩
    rw [hitems i hi, Network.item_of_drop hscript]

/-- For every client that gives a call some time and whose address does not ask for encryption, each
call ends in exactly one way, however locations are read. Without the address of a host, or with a
key that fits no header, nothing is sent or shown. With an address that requests are not sent to,
nothing is sent but the request is shown. Else the call fails for want of a complete response, or
because a redirection leads to an address that no request can be made for, or a response arrives,
and the call comes to what it means and shows both sides. Calls take the items of the script in turn
and depend on no others. An observer leaves results, log and network as they are; a recording one
has both sides call by call, and one with the default hooks has nothing. -/
theorem calls_end_in_turn (c : Client)
    (hplain : ∀ u, Url.parse? c.endpoint = some u → u.scheme ≠ "https")
    (htime : c.timeoutSecs ≠ 0) (n : Network) (rs : List Request) :
    (∀ (m : Network) (r : Request), ∃! way, c.Ends Url.IsServed m r way) ∧
    c.InTurn n 0 rs (c.calls n rs) ∧
    (∀ (ω : Type) (observer : Option (Observer ω)) (notes : ω),
      (c.watchAll observer notes n rs).result =
        (c.calls n rs).map (fun x => (x.outcome, x.events)) ∧
      (c.watchAll observer notes n rs).network = left n (c.calls n rs)) ∧
    (∀ notes : List String, (c.watchAll (some .recording) notes n rs).notes =
      notes ++ (c.calls n rs).flatMap (·.observed)) ∧
    ∀ (ω : Type) (notes : ω), (c.watchAll (some .blind) notes n rs).notes = notes ∧
      (c.watchAll none notes n rs).notes = notes := by
  obtain ⟨shown, htext, hwatch⟩ := c.watchAll_eq n rs
  refine ⟨fun m r => ?_, c.calls_inTurn rfl rfl rs, fun ω observer notes => ?_, fun notes => ?_,
    fun ω notes => ⟨?_, ?_⟩⟩
  · obtain ⟨way, hway⟩ := exists_ends hplain htime m r
    exact ⟨way, hway, fun way' hway' => ends_unique hway' hway⟩
  · rw [hwatch]
    exact ⟨rfl, rfl⟩
  · rw [hwatch, Sighting.noted_recording, htext]
  · rw [hwatch, Sighting.noted_blind]
  · rw [hwatch]
    rfl

/-- A limited call and one that gets no response: three sides are shown. -/
theorem calls_end_in_turn_when_limited :
    let c : Client := ⟨"http://[::1]", "key", 60⟩
    let n : Network := ⟨.direct, [.response ⟨429, [], []⟩ none, .close], []⟩
    let r : Request := ⟨.chat "mistral", [.ofText .user "Hi"]⟩
    let calls := c.calls n [r, r]
    (∀ u, Url.parse? c.endpoint = some u → u.scheme ≠ "https") ∧ c.timeoutSecs ≠ 0 ∧
    (∃! way, c.Ends Url.IsServed n r way) ∧ c.InTurn n 0 [r, r] calls ∧
    calls.map (·.outcome) = [.error (.rateLimited none),
      .error (.connection (.closed "http://[::1]/chat/completions"))] ∧
    (c.watchAll (some .recording) [] n [r, r]).notes = calls.flatMap (·.observed) ∧
    calls.map (·.observed.length) = [2, 1] := by
  intro c n r calls
  have hscheme : (Url.parse? c.endpoint).all (·.scheme ≠ "https") = true := by decide +kernel
  have hplain : ∀ u, Url.parse? c.endpoint = some u → u.scheme ≠ "https" := by
    simpa only [Option.all_eq_true, decide_eq_true_eq] using hscheme
  have htime : c.timeoutSecs ≠ 0 := by decide
  obtain ⟨hends, hturn, -, hrecorded, -⟩ := calls_end_in_turn c hplain htime n [r, r]
  refine ⟨hplain, htime, hends n r, hturn, ?_, (hrecorded []).trans (List.nil_append _), ?_⟩
  · decide +kernel
  · decide +kernel

/-- The scheme alone does not make an address fit: a call to a host with a backtick in its name
would end in no way. -/
theorem not_ends_by_scheme :
    let c : Client := ⟨"http://`", "EMPTY", 60⟩
    let n : Network := ⟨.direct, [.close], []⟩
    let r : Request := ⟨.chat "mistral", [.ofText .user "Hi"]⟩
    (∀ u, Url.parse? c.endpoint = some u → u.scheme ≠ "https") ∧ c.timeoutSecs ≠ 0 ∧
    ¬ ∃ way, c.Ends (·.scheme = "http") n r way := by
  intro c n r
  have haddress : (Url.parse? c.endpoint).any
      (fun u => u.scheme = "http" && u.hasHost && !u.withoutCredentials.isSendable) = true := by
    decide +kernel
  obtain ⟨u, hread, hu⟩ := (Option.any_eq_true _ _).mp haddress
  simp only [Bool.and_eq_true, decide_eq_true_eq, Bool.not_eq_true', and_assoc] at hu
  obtain ⟨hscheme, hhost, hunsendable⟩ := hu
  refine ⟨?_, by decide, ?_⟩
  · intro v hv
    obtain rfl := Option.some.inj (hread.symm.trans hv)
    rw [hscheme]
    decide
  have hbuildable : c.IsBuildable := ⟨⟨u, hread, hhost⟩, by decide⟩
  obtain ⟨q, v, hbuild, hv, hq⟩ := hbuildable.build r
  obtain rfl := Option.some.inj (hread.symm.trans hv)
  have hfit : q.url.scheme = "http" := by rw [hq, Url.scheme_withoutCredentials, hscheme]
  have hcall := call_failed hbuild
    (Network.exchange_unsendable (by rw [hq, hunsendable]) n c.timeoutSecs)
  -- The call is the caller's fault, and the server gets nothing.
  rintro ⟨way, hway⟩
  cases way with
  | unbuilt => exact hway.1 hbuildable
  | unsent =>
    obtain ⟨q', hbuild', hunfit, -⟩ := hway
    obtain rfl := Except.ok.inj (hbuild.symm.trans hbuild')
    exact hunfit hfit
  | unanswered =>
    obtain ⟨q', -, -, -, fault, left, hfailed⟩ := hway
    have houtcome := congrArg Call.outcome (hcall.symm.trans hfailed)
    cases houtcome
  | misdirected =>
    obtain ⟨q', fault, left, -, -, hconcludes, -⟩ := hway
    cases hconcludes with
    | refused delivered => cases delivered
    | redirected delivered => cases delivered
  | answered =>
    obtain ⟨q', received, left, -, -, -, hanswered⟩ := hway
    have hobserved := congrArg (·.observed.length) (hcall.symm.trans hanswered)
    cases hobserved

end Client
end ModelChat
