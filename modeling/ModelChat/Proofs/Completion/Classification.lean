import ModelChat.Completion
import ModelChat.Proofs.Text.Utf8

/-! What responses mean. Main statement: the status, one header and two places in the body decide
the outcome of a call, and every response has one. -/
namespace ModelChat
open Text Http

namespace Json

/-- The value of a name in an object: of several members of that name the last counts. -/
def Has (name : String) (v w : Json) : Prop :=
  ∃ before after, v = .object (before ++ (name, w) :: after) ∧ ∀ m ∈ after, m.1 ≠ name

/-- One step into a value. -/
inductive Step where
  | member (name : String)
  | item (index : Nat)
  deriving DecidableEq, Repr

/-- What is found at the end of a path into a value. -/
def At : List Step → Json → Json → Prop
  | [], v, w => v = w
  | .member name :: path, v, w => ∃ u, Has name v u ∧ At path u w
  | .item i :: path, v, w => ∃ items u, v = .array items ∧ items[i]? = some u ∧ At path u w

/-- What a path leads to. -/
def lookup : List Step → Json → Option Json
  | [], v => some v
  | .member name :: path, v => (v.member? name).bind (lookup path)
  | .item i :: path, v => (v.item? i).bind (lookup path)

private theorem find?_reverse_eq_some {α : Type} {p : α → Bool} {xs : List α} {a : α} :
    xs.reverse.find? p = some a ↔
      p a = true ∧ ∃ before after, xs = before ++ a :: after ∧ ∀ x ∈ after, p x = false := by
  rw [List.find?_eq_some_iff_append]
  refine and_congr_right fun _ => ⟨?_, ?_⟩
  · rintro ⟨as, bs, heq, has⟩
    refine ⟨bs.reverse, as.reverse, ?_, ?_⟩
    · simpa using congrArg List.reverse heq
    · intro x hx
      simpa using has x (List.mem_reverse.mp hx)
  · rintro ⟨before, after, rfl, hafter⟩
    refine ⟨after.reverse, before.reverse, by simp, ?_⟩
    intro x hx
    simpa using hafter x (List.mem_reverse.mp hx)

theorem member?_eq_some {name : String} {v w : Json} :
    v.member? name = some w ↔ Has name v w := by
  unfold Has
  cases v with
  | object members =>
    simp only [member?, Option.map_eq_some_iff, find?_reverse_eq_some, decide_eq_true_eq,
      decide_eq_false_iff_not, object.injEq]
    constructor
    · rintro ⟨⟨n, u⟩, ⟨rfl, before, after, hmembers, hafter⟩, rfl⟩
      exact ⟨before, after, hmembers, hafter⟩
    · rintro ⟨before, after, hmembers, hafter⟩
      exact ⟨(name, w), ⟨rfl, before, after, hmembers, hafter⟩, rfl⟩
  | _ => simp [member?]

theorem item?_eq_some {i : Nat} {v w : Json} :
    v.item? i = some w ↔ ∃ items, v = .array items ∧ items[i]? = some w := by
  cases v <;> simp [item?]

theorem string?_eq_some {v : Json} {s : String} : v.string? = some s ↔ v = .string s := by
  cases v <;> simp [string?]

theorem lookup_eq_some {path : List Step} {v w : Json} : lookup path v = some w ↔ At path v w := by
  induction path generalizing v with
  | nil => simp [lookup, At]
  | cons step path ih =>
    cases step with
    | member name => simp [lookup, At, Option.bind_eq_some_iff, member?_eq_some, ih]
    | item i =>
      simp only [lookup, At, Option.bind_eq_some_iff, item?_eq_some, ih]
      constructor
      · rintro ⟨u, ⟨items, hv, hu⟩, hw⟩
        exact ⟨items, u, hv, hu, hw⟩
      · rintro ⟨items, u, hv, hu, hw⟩
        exact ⟨u, ⟨items, hv, hu⟩, hw⟩

theorem bind_string?_eq_some {v : Option Json} {s : String} :
    v.bind string? = some s ↔ v = some (.string s) := by
  simp [Option.bind_eq_some_iff, string?_eq_some]

end Json

namespace Http.Header

/-- The value of a name among headers: of several the first counts. -/
def Names (name : String) (hs : List Header) (value : Bytes) : Prop :=
  ∃ before h after, hs = before ++ h :: after ∧ h.key = lowerCase name ∧ h.value = value ∧
    ∀ x ∈ before, x.key ≠ lowerCase name

/-- Visible ASCII characters, blanks and tabs. -/
def IsPlain (value : Bytes) : Prop :=
  ∀ b ∈ value, b = 9 ∨ (32 ≤ b ∧ b < 127)

theorem head?_valuesOf {name : String} {hs : List Header} {value : Bytes} :
    (valuesOf name hs).head? = some value ↔ Names name hs value := by
  simp only [valuesOf, List.head?_map, List.head?_filter, Option.map_eq_some_iff,
    List.find?_eq_some_iff_append, decide_eq_true_eq, Names]
  constructor
  · rintro ⟨h, ⟨hkey, before, after, hsplit, hbefore⟩, hvalue⟩
    exact ⟨before, h, after, hsplit, hkey, hvalue, fun x hx => by simpa using hbefore x hx⟩
  · rintro ⟨before, h, after, hsplit, hkey, hvalue, hbefore⟩
    exact ⟨h, ⟨hkey, before, after, hsplit, fun x hx => by simpa using hbefore x hx⟩, hvalue⟩

theorem plainText?_eq_some {value : Bytes} {text : String} :
    plainText? value = some text ↔ IsPlain value ∧ Utf8.encode text = value := by
  have hplain : (value.all fun b => b = 9 || (32 ≤ b && b < 127)) = true ↔ IsPlain value := by
    simp [IsPlain]
  unfold plainText?
  split
  next h =>
    have hascii : ∀ b ∈ value, b < 0x80 := by
      intro b hb
      rcases hplain.mp h b hb with rfl | ⟨_, hb⟩
      · decide
      · exact UInt8.lt_trans hb (by decide)
    have hread : Utf8.encode (String.ofList (value.map fun b => Char.ofNat b.toNat)) = value := by
      rw [Utf8.encode, String.toList_ofList, Utf8.encodeChars_ascii hascii]
    constructor
    · intro he
      obtain rfl := Option.some.inj he
      exact ⟨hplain.mp h, hread⟩
    · rintro ⟨_, he⟩
      rw [Utf8.encode_injective (hread.trans he.symm)]
  next h =>
    constructor
    · intro he
      cases he
    · rintro ⟨hvisible, _⟩
      exact absurd (hplain.mpr hvisible) h

end Http.Header

namespace Completion

/-- Where a body holds the text of the first choice. -/
def contentPath : List Json.Step :=
  [.member "choices", .item 0, .member "message", .member "content"]

/-- Where it holds the reason why that text ends. -/
def finishPath : List Json.Step :=
  [.member "choices", .item 0, .member "finish_reason"]

/-- The completion that a body offers; a reason that is no text is none. -/
def Offers (v : Json) (c : Completion) : Prop :=
  Json.At contentPath v (.string c.content) ∧
  ∀ reason, c.finishReason = some reason ↔ Json.At finishPath v (.string reason)

def IsSuccess (status : Nat) : Prop :=
  200 ≤ status ∧ status < 300

/-- What a server asks to wait: the first such header, if it is plain text. -/
def AsksToWait (hs : List Header) (text : String) : Prop :=
  Header.Names "retry-after" hs (Utf8.encode text) ∧ Header.IsPlain (Utf8.encode text)

theorem ofJson_eq_ok {v : Json} {c : Completion} : ofJson v = .ok c ↔ Offers v c := by
  let choice := (v.member? "choices").bind (Json.item? 0)
  let content := ((choice.bind (Json.member? "message")).bind (Json.member? "content")).bind
    Json.string?
  let finish := (choice.bind (Json.member? "finish_reason")).bind Json.string?
  have hcontent : Json.At contentPath v (.string c.content) ↔ content = some c.content := by
    rw [← Json.lookup_eq_some, ← Json.bind_string?_eq_some]
    simp [content, choice, contentPath, Json.lookup, Option.bind_assoc]
  have hfinish : (∀ reason, c.finishReason = some reason ↔
      Json.At finishPath v (.string reason)) ↔ c.finishReason = finish := by
    rw [Option.ext_iff]
    simp [finish, choice, finishPath, Json.lookup, Option.bind_assoc, ← Json.lookup_eq_some,
      ← Json.bind_string?_eq_some]
  obtain ⟨said, why⟩ := c
  rw [Offers, hcontent, hfinish]
  simp only [ofJson]
  split
  next text htext =>
    have htext : content = some text := htext
    simp [htext, finish, choice, eq_comm]
  next hnone =>
    have hnone : content = none := hnone
    simp [hnone]

theorem ofJson_cases (v : Json) :
    (∃ c, ofJson v = .ok c) ∨ ∃ reason, ofJson v = .error (.invalidResponse reason) := by
  simp only [ofJson]
  split
  · exact .inl ⟨_, rfl⟩
  · exact .inr ⟨_, rfl⟩

theorem ofBody_eq_ok {body : Bytes} {c : Completion} :
    ofBody body = .ok c ↔ ∃ v, Json.parse body = .ok v ∧ Offers v c := by
  unfold ofBody
  cases Json.parse body with
  | error fault => simp
  | ok v => simp [ofJson_eq_ok]

theorem ofBody_cases (body : Bytes) :
    (∃ c, ofBody body = .ok c) ∨ ∃ reason, ofBody body = .error (.invalidResponse reason) := by
  unfold ofBody
  cases Json.parse body with
  | error fault => exact .inr ⟨_, rfl⟩
  | ok v => exact ofJson_cases v

theorem ofBody_invalid {body : Bytes} :
    (∃ reason, ofBody body = .error (.invalidResponse reason)) ↔ ¬ ∃ c, ofBody body = .ok c := by
  rcases ofBody_cases body with ⟨c, hc⟩ | ⟨reason, hreason⟩
  · simp [hc]
  · simp [hreason]

theorem bind_plainText?_eq_some {hs : List Header} {text : String} :
    (Header.valuesOf "retry-after" hs).head?.bind Header.plainText? = some text ↔
      AsksToWait hs text := by
  simp only [Option.bind_eq_some_iff, Header.head?_valuesOf, Header.plainText?_eq_some, AsksToWait]
  constructor
  · rintro ⟨value, hvalue, hplain, rfl⟩
    exact ⟨hvalue, hplain⟩
  · rintro ⟨hvalue, hplain⟩
    exact ⟨_, hvalue, hplain, rfl⟩

theorem ofResponse_limited {r : Response} (h : r.status = 429) (wait : Option String) :
    ofResponse r = .error (.rateLimited wait) ↔
      ∀ text, wait = some text ↔ AsksToWait r.headers text := by
  simp only [ofResponse, if_pos h, ← bind_plainText?_eq_some, Except.error.injEq,
    Failure.rateLimited.injEq]
  rw [eq_comm, Option.ext_iff]

theorem ofResponse_failed {r : Response} (h : r.status ≠ 429) (h' : ¬ IsSuccess r.status) :
    ofResponse r = .error (.status r.status (Utf8.decodeLossy r.body)) := by
  have hrange : r.status < 200 ∨ 300 ≤ r.status := by
    simp only [IsSuccess] at h'
    omega
  rw [ofResponse, if_neg h, if_pos hrange]

theorem ofResponse_success {r : Response} (h : IsSuccess r.status) :
    ofResponse r = ofBody r.body := by
  obtain ⟨hlow, hhigh⟩ := h
  rw [ofResponse, if_neg (by omega), if_neg (by omega)]

theorem ofResponse_eq_ok {r : Response} {c : Completion} :
    ofResponse r = .ok c ↔ IsSuccess r.status ∧ ∃ v, Json.parse r.body = .ok v ∧ Offers v c := by
  by_cases hlimit : r.status = 429
  · simp [ofResponse, IsSuccess, hlimit]
  by_cases hsuccess : IsSuccess r.status
  · rw [ofResponse_success hsuccess, ofBody_eq_ok, and_iff_right hsuccess]
  · simp [ofResponse_failed hlimit hsuccess, hsuccess]

/-- Bodies that hold the same texts in two places offer the same completions. -/
theorem offers_congr {v w : Json} (h : ∀ path ∈ [contentPath, finishPath], ∀ text,
    Json.At path v (.string text) ↔ Json.At path w (.string text)) (c : Completion) :
    Offers v c ↔ Offers w c := by
  have hcontent := h contentPath List.mem_cons_self
  have hfinish := h finishPath (List.mem_cons_of_mem _ List.mem_cons_self)
  simp only [Offers, hcontent, hfinish]

/-- Status, headers and body of a response decide what comes of it. Too many requests are reported
with the first header that asks to wait, if that is plain text; other failures with the body as
text, malformed pieces replaced; and of the body of a success two places count and nothing else. -/
theorem ofResponse_classified (r : Response) :
    (∀ wait, ofResponse r = .error (.rateLimited wait) ↔
      r.status = 429 ∧ ∀ text, wait = some text ↔ AsksToWait r.headers text) ∧
    (r.status = 429 → ∃ wait, ofResponse r = .error (.rateLimited wait)) ∧
    (∀ code text, ofResponse r = .error (.status code text) ↔
      r.status ≠ 429 ∧ ¬ IsSuccess r.status ∧ code = r.status ∧ text = Utf8.decodeLossy r.body) ∧
    (∀ text, r.body = Utf8.encode text → Utf8.decodeLossy r.body = text) ∧
    (∀ c, ofResponse r = .ok c ↔
      IsSuccess r.status ∧ ∃ v, Json.parse r.body = .ok v ∧ Offers v c) ∧
    ((∃ reason, ofResponse r = .error (.invalidResponse reason)) ↔
      IsSuccess r.status ∧ ∀ v c, Json.parse r.body = .ok v → ¬ Offers v c) ∧
    ∀ body v w, Json.parse r.body = .ok v → Json.parse body = .ok w →
      (∀ path ∈ [contentPath, finishPath], ∀ text,
        Json.At path v (.string text) ↔ Json.At path w (.string text)) →
      ∀ c, ofResponse r = .ok c ↔ ofResponse { r with body } = .ok c := by
  have hlossy : ∀ text, r.body = Utf8.encode text → Utf8.decodeLossy r.body = text := by
    intro text h
    rw [h, Utf8.decodeLossy_encode]
  have hsame : ∀ body v w, Json.parse r.body = .ok v → Json.parse body = .ok w →
      (∀ path ∈ [contentPath, finishPath], ∀ text,
        Json.At path v (.string text) ↔ Json.At path w (.string text)) →
      ∀ c, ofResponse r = .ok c ↔ ofResponse { r with body } = .ok c := by
    intro body v w hv hw hplaces c
    simp [ofResponse_eq_ok, hv, hw, offers_congr hplaces]
  by_cases hlimit : r.status = 429
  · have hno : ¬ IsSuccess r.status := by simp [IsSuccess, hlimit]
    obtain ⟨wait, heq⟩ : ∃ wait, ofResponse r = .error (.rateLimited wait) := ⟨_, if_pos hlimit⟩
    refine ⟨fun wait => ?_, fun _ => ⟨wait, heq⟩, ?_, hlossy, fun _ => ofResponse_eq_ok, ?_, hsame⟩
    · rw [ofResponse_limited hlimit, and_iff_right hlimit]
    · simp [heq, hlimit]
    · simp [heq, hno]
  by_cases hsuccess : IsSuccess r.status
  · have heq := ofResponse_success hsuccess
    refine ⟨fun wait => ?_, fun h => absurd h hlimit, fun code text => ?_, hlossy,
      fun _ => ofResponse_eq_ok, ?_, hsame⟩
    · rcases ofBody_cases r.body with ⟨c, hc⟩ | ⟨reason, hreason⟩
      · simp [heq, hc, hlimit]
      · simp [heq, hreason, hlimit]
    · rcases ofBody_cases r.body with ⟨c, hc⟩ | ⟨reason, hreason⟩
      · simp [heq, hc, hsuccess]
      · simp [heq, hreason, hsuccess]
    · rw [heq, ofBody_invalid, and_iff_right hsuccess]
      simp only [ofBody_eq_ok, not_exists, not_and]
      exact ⟨fun h v c => h c v, fun h c v => h v c⟩
  · have heq := ofResponse_failed hlimit hsuccess
    refine ⟨?_, fun h => absurd h hlimit, ?_, hlossy, fun _ => ofResponse_eq_ok, ?_, hsame⟩
    · simp [heq, hlimit]
    · simp [heq, hlimit, hsuccess, eq_comm]
    · simp [heq, hsuccess]

end Completion
end ModelChat
