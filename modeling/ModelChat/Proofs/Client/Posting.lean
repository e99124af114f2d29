import ModelChat.Client
import ModelChat.Proofs.Http.Extension
import ModelChat.Proofs.Text.Utf8

/-! What a client posts. Main statement: with the address of a host and a key that fits a header,
the request for every call is built, and holds the call's request as it is written. -/
namespace ModelChat
open Text Http

namespace Http

/-- An address as requests are sent to it: credentials that can be read are taken out. -/
def Url.withoutCredentials (u : Url) : Url :=
  if (credentials? u).isSome then u.withoutUser else u

theorem Url.scheme_withoutCredentials (u : Url) : u.withoutCredentials.scheme = u.scheme := by
  unfold withoutCredentials
  split <;> rfl

theorem Url.host_withoutCredentials (u : Url) :
    u.withoutCredentials.authority.map Authority.host = u.authority.map Authority.host := by
  unfold withoutCredentials
  split
  · rw [withoutUser, Option.map_map]
    rfl
  · rfl

theorem Url.hasHost_iff {u : Url} :
    u.hasHost = true ↔ ∃ host, u.authority.map Authority.host = some host ∧ host ≠ .name "" := by
  unfold hasHost
  cases u.authority <;> simp

/-- An address that requests are sent to as they are. Some characters are fit for a host but not for
a request, and there is a limit to its length. -/
structure Url.IsServed (u : Url) : Prop where
  scheme : u.scheme = "http"
  host : u.hasHost = true
  characters : ∀ host, u.authority.map Authority.host = some host →
    ∀ x ∈ host.text.toList, x ∉ "\"`\x7b\x7d".toList
  length : (Utf8.encode u.text).length ≤ maxLength

theorem Url.isSendable_iff {u : Url} (h : u.scheme ≠ "https") :
    u.isSendable = true ↔ u.IsServed := by
  have hcharacters : (u.authority.all fun a =>
      a.host.text.toList.all fun x => !"\"`\x7b\x7d".toList.contains x) = true ↔
      ∀ host, u.authority.map Authority.host = some host →
        ∀ x ∈ host.text.toList, x ∉ "\"`\x7b\x7d".toList := by
    simp [Option.all_eq_true]
  simp only [isSendable, fitsRequest, Bool.and_eq_true, hcharacters, decide_eq_true_eq]
  constructor
  · rintro ⟨hscheme, ⟨hhost, hlength⟩, hfit⟩
    exact ⟨by simpa [h] using hscheme, hhost, hfit, hlength⟩
  · rintro ⟨hscheme, hhost, hfit, hlength⟩
    exact ⟨by simp [hscheme], ⟨hhost, hlength⟩, hfit⟩

/-- Requests are not encrypted on their way to such an address. -/
theorem Url.IsServed.isSendable {u : Url} (h : u.IsServed) : u.isSendable = true := by
  have hplain : u.scheme ≠ "https" := by
    rw [h.scheme]
    decide
  exact (isSendable_iff hplain).mpr h

/-- A request is built for every address of a host with headers that may be sent. -/
theorem HttpRequest.build_eq_ok (merge : List Header → List Header → List Header)
    (method : String) {url : String} {u : Url} (hread : Url.parse? url = some u)
    (hhost : u.hasHost = true) {headers : List Header}
    (hheaders : headers.all (isHeaderValue ·.value) = true) (body : Option Bytes) :
    ∃ sent, build merge method url headers body = .ok ⟨method, u.withoutCredentials, sent, body⟩ ∧
      (sent = headers ∨ ∃ value, sent = merge [⟨"authorization", value⟩] headers) := by
  simp only [build, hread, hhost, hheaders, Url.withoutCredentials]
  cases credentials? u with
  | none => exact ⟨headers, rfl, .inl rfl⟩
  | some p => exact ⟨_, rfl, .inr ⟨_, rfl⟩⟩

end Http

namespace Client

/-- Where the requests of a client go. -/
def destination? (c : Client) : Option Url :=
  (Url.parse? c.endpoint).map Url.withoutCredentials

/-- A client whose calls become requests: they go to an address that requests are sent to, the key
may be sent in a header, and there is time for an answer. -/
structure IsSetUp (c : Client) : Prop where
  address : ∃ u, c.destination? = some u ∧ u.IsServed
  key : isHeaderValue (Utf8.encode c.apiKey) = true
  patience : c.timeoutSecs ≠ 0

/-- A request of the protocol that asks the service for what a call asks. -/
structure Posts (c : Client) (r : Request) (q : HttpRequest) : Prop where
  method : q.method = "POST"
  destination : c.destination? = some q.url
  contentType : Header.valuesOf "content-type" q.headers = [Utf8.encode "application/json"]
  body : q.body = some (Utf8.encode r.text)

private theorem isPath_service : Url.IsPath "/chat/completions".toList where
  slash := by decide
  whole c hc := by
    have hall : "/chat/completions".toList.all (!Url.isEdge ·) = true := by decide
    simpa using List.all_eq_true.mp hall c hc

/-- The service is at the same host as the address the client was given, if nothing stands behind
that address which reading would drop: the path of the service comes there. -/
theorem parse_endpoint {c : Client} {u : Url} (hu : Url.parse? c.apiBaseUrl = some u)
    (hhttp : u.scheme = "http")
    (hwhole : ∀ x, c.apiBaseUrl.toList.getLast? = some x → Url.isEdge x = false) :
    ∃ v, Url.parse? c.endpoint = some v ∧ v.scheme = "http" ∧ v.authority = u.authority := by
  let base := (c.apiBaseUrl.toList.reverse.dropWhile (· = '/')).reverse
  let slashes := (c.apiBaseUrl.toList.reverse.takeWhile (· = '/')).reverse
  have hsplit : base ++ slashes = c.apiBaseUrl.toList := by
    rw [← List.reverse_append, List.takeWhile_append_dropWhile, List.reverse_reverse]
  have hread : Url.parse? (String.ofList (base ++ slashes)) = some u := by
    rw [hsplit, String.ofList_toList, hu]
  have hslashes : ∀ x ∈ slashes, x = '/' := by
    intro x hx
    simpa using List.mem_takeWhile_imp (List.mem_reverse.mp hx)
  obtain ⟨v, hv, hscheme, hauthority⟩ :=
    Url.parse?_extended hread hhttp (hsplit ▸ hwhole) hslashes isPath_service
  have hendpoint : c.endpoint = String.ofList (base ++ "/chat/completions".toList) := by
    rw [String.ofList_append, String.ofList_toList]
    rfl
  exact ⟨v, hendpoint ▸ hv, hscheme.trans hhttp, hauthority⟩

/-- The address of a host is enough for a client, but for the characters of the host, what stands
behind the address, and the length of the one that the requests go to. -/
theorem IsSetUp.of_base {c : Client} {u : Url} (hu : Url.parse? c.apiBaseUrl = some u)
    (hhttp : u.scheme = "http") (hhost : u.hasHost = true)
    (hcharacters : ∀ host, u.authority.map Authority.host = some host →
      ∀ x ∈ host.text.toList, x ∉ "\"`\x7b\x7d".toList)
    (hwhole : ∀ x, c.apiBaseUrl.toList.getLast? = some x → Url.isEdge x = false)
    (hlength : ∀ v, c.destination? = some v → (Utf8.encode v.text).length ≤ Url.maxLength)
    (hkey : isHeaderValue (Utf8.encode c.apiKey) = true) (htime : c.timeoutSecs ≠ 0) :
    c.IsSetUp := by
  obtain ⟨v, hv, hscheme, hauthority⟩ := parse_endpoint hu hhttp hwhole
  have hdestination : c.destination? = some v.withoutCredentials := by
    rw [destination?, hv]
    rfl
  have hsame : v.withoutCredentials.authority.map Authority.host =
      u.authority.map Authority.host := by
    rw [Url.host_withoutCredentials, hauthority]
  have hserved : v.withoutCredentials.IsServed := by
    refine ⟨?_, ?_, ?_, hlength v.withoutCredentials hdestination⟩
    · rw [Url.scheme_withoutCredentials, hscheme]
    · rw [Url.hasHost_iff, hsame]
      exact Url.hasHost_iff.mp hhost
    · rw [hsame]
      exact hcharacters
  exact ⟨⟨_, hdestination, hserved⟩, hkey, htime⟩

/-- The headers may be sent if the key may. -/
theorem headers_fit (c : Client) :
    c.headers.all (isHeaderValue ·.value) = isHeaderValue (Utf8.encode c.apiKey) := by
  have hbearer : isHeaderValue (Utf8.encode "Bearer ") = true := by decide
  have hjson : isHeaderValue (Utf8.encode "application/json") = true := by decide
  have hauthorization : isHeaderValue (Utf8.encode ("Bearer " ++ c.apiKey)) =
      isHeaderValue (Utf8.encode c.apiKey) := by
    rw [Utf8.encode_append, isHeaderValue, List.all_append]
    exact (congrArg (· && _) hbearer).trans (Bool.true_and _)
  simp only [headers, List.all_cons, List.all_nil, hauthorization, hjson, Bool.and_true]

/-- The authorization says nothing about the content. -/
private theorem valuesOf_contentType (value : Bytes) (hs : List Header) :
    Header.valuesOf "content-type" (⟨"authorization", value⟩ :: hs) =
      Header.valuesOf "content-type" hs := by
  have hkey : lowerCase "authorization" ≠ lowerCase "content-type" := by decide
  simp [Header.valuesOf, Header.key, hkey]

private theorem contentType_headers (c : Client) :
    Header.valuesOf "content-type" c.headers = [Utf8.encode "application/json"] := by
  rw [headers, valuesOf_contentType]
  simp [Header.valuesOf, Header.key]

/-- Every call becomes a request to the service. -/
theorem build_posts {c : Client} (h : c.IsSetUp) (r : Request) :
    ∃ q, c.build r = .ok q ∧ c.Posts r q ∧ q.url.isSendable = true := by
  obtain ⟨u, hdestination, hserved⟩ := h.address
  obtain ⟨v, hread, rfl⟩ := Option.map_eq_some_iff.mp hdestination
  have hhost : v.hasHost = true := by
    rw [Url.hasHost_iff, ← Url.host_withoutCredentials]
    exact Url.hasHost_iff.mp hserved.host
  obtain ⟨sent, hbuild, hsent⟩ := HttpRequest.build_eq_ok (· ++ ·) "POST" hread hhost
    ((headers_fit c).trans h.key) (some (Utf8.encode r.text))
  have hjson : Header.valuesOf "content-type" sent = [Utf8.encode "application/json"] := by
    rcases hsent with rfl | ⟨value, rfl⟩
    · exact contentType_headers c
    · exact (valuesOf_contentType value c.headers).trans (contentType_headers c)
  exact ⟨_, hbuild, ⟨rfl, hdestination, hjson, rfl⟩, hserved.isSendable⟩

end Client
end ModelChat
