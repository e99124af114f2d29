import Mathlib.Data.List.Forall2
import ModelChat.Proofs.Client.Observer
import ModelChat.Proofs.Client.Posting
import ModelChat.Proofs.Http.Exchange
import ModelChat.Proofs.Session.Simulation

/-! A session over the network does what it would do with a model that replays outcomes. Main
statement: results and transcripts are those of the outcomes that the served responses mean, and
the server gets one request for each turn. -/
namespace ModelChat.Client
open Text Http Session

/-- A final response to a client: complete, and without a location that the client acts on. -/
structure Served (c : Client) (route : Route) where
  response : Response
  length : Option Nat
  final : 200 ≤ response.status
  complete : ∀ n, length = some n → n ≤ response.body.length
  settled : ∀ u, c.destination? = some u → route.redirection u response = .ignored

namespace Served
variable {c : Client} {route : Route}

/-- What the server does to serve it. -/
def delivery (d : Served c route) : Delivery :=
  .response d.response d.length

/-- The part of the body that is read. -/
def body (d : Served c route) : Bytes :=
  if d.response.status = 204 ∨ d.response.status = 304 then []
  else match d.length with
    | some n => d.response.body.take n
    | none => d.response.body

/-- The headers that are read; blanks around their values do not count. -/
def headers (d : Served c route) : List Header :=
  d.response.headers.map fun h => { h with value := trimmed h.value }

/-- What it means. -/
def outcome (d : Served c route) : Outcome :=
  Completion.ofResponse ⟨d.response.status, d.headers, d.body⟩

/-- A complete response is received; its length is told in a header of its own. -/
theorem receive_eq (d : Served c route) :
    ∃ told : List Header, Network.receive d.response d.length =
        some ⟨d.response.status, told ++ d.headers, d.body⟩ ∧
      Header.valuesOf "retry-after" told = [] := by
  have hfinal : d.response.status ≠ 101 := by
    have := d.final
    omega
  cases hlength : d.length with
  | none =>
    refine ⟨[], ?_, rfl⟩
    by_cases hempty : d.response.status = 204 ∨ d.response.status = 304
    · simp [Network.receive, headers, body, hfinal, hempty]
    · simp [Network.receive, headers, body, hfinal, hempty, hlength]
  | some n =>
    have hwhole : ¬ d.response.body.length < n := Nat.not_lt.mpr (d.complete n hlength)
    have hkey : lowerCase "content-length" ≠ lowerCase "retry-after" := by decide
    refine ⟨[⟨"content-length", Utf8.encode (toString n)⟩], ?_, ?_⟩
    · by_cases hempty : d.response.status = 204 ∨ d.response.status = 304
      · simp [Network.receive, headers, body, hfinal, hempty]
      · simp [Network.receive, headers, body, hfinal, hempty, hlength, hwhole]
    · simp [Header.valuesOf, Header.key, hkey]

/-- A response is read in the same way when headers come before that do not ask to wait. -/
theorem outcome_eq (d : Served c route) {told : List Header}
    (htold : Header.valuesOf "retry-after" told = []) :
    Completion.ofResponse ⟨d.response.status, told ++ d.headers, d.body⟩ = d.outcome := by
  have hwait : Header.valuesOf "retry-after" (told ++ d.headers) =
      Header.valuesOf "retry-after" d.headers := by
    simpa [Header.valuesOf] using htold
  simp only [outcome, Completion.ofResponse, hwait]

end Served

/-- What comes of a call when the script of the server is over. -/
def cutOff (c : Client) : Failure :=
  .connection (.closed ((c.destination?.map Url.text).getD ""))

/-- A link to a server and a script say the same: the responses to come mean the outcomes to
come. -/
def Agree (c : Client) (route : Route) (link : Link) (script : List Outcome) : Prop :=
  link.network.route = route ∧ ∃ ds : List (Served c route),
    link.network.script = ds.map Served.delivery ∧ script = ds.map Served.outcome

section Exchange
variable {c : Client} {n : Network} {q : HttpRequest} (hreachable : n.route.reachable = true)
include hreachable

private theorem deliver_served (d : Served c n.route) (rest : List Delivery)
    (hscript : n.script = d.delivery :: rest) :
    n.deliver q =
      (.ok (d.response, d.length), { n with script := rest, seen := n.seen ++ [q] }) := by
  have hinterim : Network.isInterim d.response.status = false := by
    have := d.final
    simp only [Network.isInterim, Bool.and_eq_false_iff, decide_eq_false_iff_not]
    omega
  simp [Network.deliver, hreachable, hscript, Served.delivery, Network.answer, hinterim]

private theorem deliver_exhausted (hscript : n.script = []) :
    n.deliver q = (.error (.closed q.url.text), { n with seen := n.seen ++ [q] }) := by
  simp [Network.deliver, hreachable, hscript, Network.answer]

variable (hsendable : q.url.isSendable = true) (htime : c.timeoutSecs ≠ 0)
include hsendable htime

theorem exchange_served (hq : c.destination? = some q.url) (d : Served c n.route)
    (rest : List Delivery) (hscript : n.script = d.delivery :: rest) :
    ∃ received, n.exchange c.timeoutSecs q =
        (.ok received, { n with script := rest, seen := n.seen ++ [q] }) ∧
      Completion.ofResponse received = d.outcome := by
  obtain ⟨told, hreceived, htold⟩ := d.receive_eq
  have hdelivered := deliver_served hreachable (q := q) d rest hscript
  refine ⟨_, ?_, d.outcome_eq htold⟩
  exact Network.exchange_eq_ok_iff.mpr
    ⟨hsendable, htime, .final hdelivered (d.settled q.url hq) hreceived⟩

theorem exchange_exhausted (hscript : n.script = []) :
    n.exchange c.timeoutSecs q =
      (.error (.connection (.closed q.url.text)), { n with seen := n.seen ++ [q] }) := by
  have hdelivered := deliver_exhausted hreachable (q := q) hscript
  rw [Network.exchange_eq_follow hsendable htime, Network.follow_ended (by rw [hdelivered]; rfl),
    hdelivered]
  rfl

end Exchange

section Reachable
variable {c : Client} (hc : c.IsSetUp) {route : Route} (hreachable : route.reachable = true)
include hc hreachable

/-- One call: the outcome is the next of the script, and the server sees one request. -/
theorem complete_agree {link : Link} {script : List Outcome} (h : c.Agree route link script)
    (r : Request) :
    let answer := c.model.complete link r
    let said := (Model.scripted c.cutOff).complete script r
    answer.outcome = said.outcome ∧ c.Agree route answer.state said.state ∧
      ∃ q, c.Posts r q ∧ answer.state.network.seen = link.network.seen ++ [q] := by
  obtain ⟨q, hbuild, hposts, hsendable⟩ := build_posts hc r
  obtain ⟨rfl, ds, hscript, rfl⟩ := h
  cases ds with
  | nil =>
    have hexchange := exchange_exhausted hreachable hsendable hc.patience hscript
    have hcutOff : c.cutOff = .connection (.closed q.url.text) := by
      rw [cutOff, hposts.destination]
      rfl
    simp only [model, call_failed hbuild hexchange, Model.scripted, List.map_nil]
    refine ⟨congrArg Except.error hcutOff.symm, ⟨rfl, [], hscript, rfl⟩, q, hposts, rfl⟩
  | cons d ds =>
    obtain ⟨received, hexchange, hmeans⟩ := exchange_served hreachable hsendable hc.patience
      hposts.destination d (ds.map Served.delivery) hscript
    simp only [model, call_answered hbuild hexchange, Model.scripted, List.map_cons]
    exact ⟨hmeans, ⟨rfl, ds, rfl, rfl⟩, q, hposts, rfl⟩

/-- Response by response, a client does what the script says. -/
theorem simulates : Simulates c.model (Model.scripted c.cutOff) (c.Agree route) where
  outcome h r := (complete_agree hc hreachable h r).1
  state h r := (complete_agree hc hreachable h r).2.1

/-- The requests of an action are posted, each once, and nothing else is. -/
theorem act_seen {link : Link} {script : List Outcome} (h : c.Agree route link script)
    (s : Session) (a : Action) :
    let stage := s.act c.model link a
    ∃ qs, stage.state.network.seen = link.network.seen ++ qs ∧
      List.Forall₂ c.Posts stage.requests qs := by
  cases a with
  | systemPrompt prompt => exact ⟨[], (List.append_nil _).symm, .nil⟩
  | turn input =>
    obtain ⟨hrequests, hstate⟩ := act_turn c.model link s input
    obtain ⟨-, -, q, hposts, hseen⟩ := complete_agree hc hreachable h (s.ask input).1.request
    refine ⟨[q], ?_, ?_⟩
    · rw [hstate, hseen]
    · rw [hrequests]
      exact .cons hposts .nil

end Reachable

/-- For every client whose requests go to an address that requests are sent to, with a key that fits
a header and some time for an answer, and all complete responses that are final, however locations
are read: action by action, a session over the network gives the same and keeps the same as one over
a model that replays what the responses mean. In a turn the server gets one request and for a prompt
none; each posts what the replaying model is asked. -/
theorem session_refines_script (c : Client) (hc : c.IsSetUp) (route : Route)
    (hreachable : route.reachable = true) (ds : List (Served c route)) (seen : List HttpRequest)
    (observed : List String) (sampling : Sampling) (limit : Option Limit) (before : List Action)
    (a : Action) (rest : List Action) :
    let s := start sampling limit
    let link : Link := ⟨⟨route, ds.map Served.delivery, seen⟩, observed⟩
    let replaying := Model.scripted c.cutOff
    let script := ds.map Served.outcome
    let reached := s.reach c.model link before
    let reached' := s.reach replaying script before
    let stage := reached.1.act c.model reached.2 a
    let stage' := reached'.1.act replaying reached'.2 a
    s.run c.model link (before ++ a :: rest) =
      s.run c.model link before ++ stage :: stage.session.run c.model stage.state rest ∧
    s.run replaying script (before ++ a :: rest) =
      s.run replaying script before ++ stage' :: stage'.session.run replaying stage'.state rest ∧
    stage.result = stage'.result ∧ stage.session = stage'.session ∧
    (∃ qs, stage.state.network.seen = reached.2.network.seen ++ qs ∧
      List.Forall₂ c.Posts stage'.requests qs) ∧
    stage'.requests.length = match a with
      | .systemPrompt _ => 0
      | .turn _ => 1 := by
  intro s link replaying script reached reached' stage stage'
  have hagree : c.Agree route link script := ⟨rfl, ds, rfl, rfl⟩
  have hsimulates := simulates hc hreachable
  obtain ⟨hsession, hreached⟩ := reach_simulated hsimulates hagree s before
  obtain ⟨hresult, hstage, hrequests, -⟩ := act_simulated hsimulates hreached reached.1 a
  obtain ⟨qs, hseen, hposts⟩ := act_seen hc hreachable hreached reached.1 a
  -- Both runs have reached the same session, so one action from there is compared.
  have hscripted : stage' = reached.1.act replaying reached'.2 a :=
    congrArg (fun s => s.act replaying reached'.2 a) hsession.symm
  refine ⟨run_append c.model link s before (a :: rest),
    run_append replaying script s before (a :: rest), ?_⟩
  rw [hscripted]
  refine ⟨hresult, hstage, ⟨qs, hseen, ?_⟩, ?_⟩
  · rw [← hrequests]
    exact hposts
  · cases a <;> rfl

/-- A client for a server on the same machine. -/
def loopback : Client :=
  ⟨"http://[::1]:1234/v1/", "key", 60⟩

theorem isSetUp_loopback : loopback.IsSetUp := by
  have hbase : (Url.parse? loopback.apiBaseUrl).any
      (fun u => u.scheme = "http" && u.isSendable) = true := by decide +kernel
  obtain ⟨u, hu, h⟩ := (Option.any_eq_true _ _).mp hbase
  simp only [Bool.and_eq_true, decide_eq_true_eq] at h
  obtain ⟨hhttp, hsendable⟩ := h
  have hplain : u.scheme ≠ "https" := by
    rw [hhttp]
    decide
  have hserved := (Url.isSendable_iff hplain).mp hsendable
  have hlast : loopback.apiBaseUrl.toList.getLast? = some '/' := by decide
  have hlength : loopback.destination?.all
      (fun v => (Utf8.encode v.text).length ≤ Url.maxLength) = true := by decide +kernel
  refine .of_base hu hhttp hserved.host hserved.characters ?_ ?_ (by decide) (by decide)
  · intro x hx
    obtain rfl := Option.some.inj (hlast.symm.trans hx)
    decide
  · simpa only [Option.all_eq_true, decide_eq_true_eq] using hlength

def overloaded : Served loopback .direct where
  response := ⟨503, [], []⟩
  length := none
  final := by decide
  complete := nofun
  settled _ _ := rfl

def answering : Served loopback .direct where
  response := ⟨200, [], Utf8.encode
    "\x7b\"choices\":[\x7b\"message\":\x7b\"content\":\"Yes\"\x7d\x7d]\x7d"⟩
  length := none
  final := by decide
  complete := nofun
  settled _ _ := rfl

/-- A turn after a failed one: its request holds both questions. -/
theorem session_refines_script_after_failure :
    let s := start (.chat "mistral") none
    let link : Link := ⟨⟨.direct, [overloaded.delivery, answering.delivery], []⟩, []⟩
    let reached := s.reach loopback.model link [.turn "Hello?"]
    let stage := reached.1.act loopback.model reached.2 (.turn "Still there?")
    loopback.IsSetUp ∧ Route.direct.reachable = true ∧
    stage.result = .ok (.reply (.ofRaw "Yes")) ∧
    ∃ q, stage.state.network.seen = reached.2.network.seen ++ [q] ∧ loopback.Posts
      ⟨.chat "mistral", [.ofText .user "Hello?", .ofText .user "Still there?"]⟩ q := by
  dsimp only
  refine ⟨isSetUp_loopback, rfl, ?_⟩
  obtain ⟨-, -, hresult, -, ⟨qs, hseen, hposts⟩, -⟩ := session_refines_script loopback
    isSetUp_loopback .direct rfl [overloaded, answering] [] [] (.chat "mistral") none
    [.turn "Hello?"] (.turn "Still there?") []
  have hanswer : answering.outcome = .ok ⟨"Yes", none⟩ := by decide +kernel
  have hfailure : overloaded.outcome = .error (.status 503 "") := by decide +kernel
  simp only [List.map_cons, List.map_nil, hanswer, hfailure] at hresult hseen hposts
  refine ⟨hresult, ?_⟩
  obtain _ | ⟨hq, hnone⟩ := hposts
  cases hnone
  exact ⟨_, hseen, hq⟩

/-- A base with the address of a host is not enough: no request can be made for a backtick in its
name. The turn fails, though the server would have answered, and the server gets nothing. -/
theorem not_refines_by_base :
    let c : Client := ⟨"http://`", "EMPTY", 60⟩
    let s := start (.chat "mistral") none
    let link : Link := ⟨⟨.direct, [answering.delivery], []⟩, []⟩
    let stage := s.act c.model link (.turn "Hi")
    let stage' := s.act (Model.scripted c.cutOff) [answering.outcome] (.turn "Hi")
    (∃ u, Url.parse? c.apiBaseUrl = some u ∧ u.scheme = "http" ∧ u.hasHost = true) ∧
    isHeaderValue (Utf8.encode c.apiKey) = true ∧ c.timeoutSecs ≠ 0 ∧
    stage.result ≠ stage'.result ∧ stage.state.network.seen = [] ∧ stage'.requests.length = 1 := by
  intro c s link stage stage'
  have hbase : (Url.parse? c.apiBaseUrl).any (fun u => u.scheme = "http" && u.hasHost) = true := by
    decide +kernel
  obtain ⟨u, hu, h⟩ := (Option.any_eq_true _ _).mp hbase
  simp only [Bool.and_eq_true, decide_eq_true_eq] at h
  exact ⟨⟨u, hu, h⟩, by decide, by decide, by decide +kernel⟩

end ModelChat.Client
