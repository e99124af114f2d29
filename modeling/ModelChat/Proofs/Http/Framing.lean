import ModelChat.Http.Request
import ModelChat.Proofs.Http.Grouping
import ModelChat.Proofs.Http.OneLine
import ModelChat.Proofs.Text.Utf8

/-! Rendered requests and responses as lines. Main statement: the text has one line for each of its
parts, and a reader that knows nothing of the request or response gets the parts back from it. -/
namespace ModelChat.Http
open Text

/-- The parts of a rendered request or response. -/
structure Frame where
  start : String
  fields : List (String × String)
  body : List String
  deriving DecidableEq, Repr

namespace Frame

def fieldLine (field : String × String) : String :=
  "    " ++ field.1 ++ ": " ++ field.2

def lines (f : Frame) : List String :=
  f.start :: "  Headers:" :: f.fields.map fieldLine ++ "  Body:" :: f.body.map ("    " ++ ·)

def text (f : Frame) : String :=
  unlines f.lines

/-- What stands behind four blanks. -/
def dropIndent? : List Char → Option (List Char)
  | ' ' :: ' ' :: ' ' :: ' ' :: inner => some inner
  | _ => none

/-- A name up to the first colon, a blank, and a value. -/
def readField? (line : List Char) : Option (String × String) := do
  let inner ← dropIndent? line
  match inner.dropWhile (· ≠ ':') with
  | ':' :: ' ' :: value => some (.ofList (inner.takeWhile (· ≠ ':')), .ofList value)
  | _ => none

/-- The fields before the body, and the lines behind its heading. -/
def readFields? : List (List Char) → Option (List (String × String) × List (List Char))
  | [] => none
  | line :: rest =>
    if line = "  Body:".toList then some ([], rest)
    else do
      let field ← readField? line
      let (fields, rest) ← readFields? rest
      some (field :: fields, rest)

/-- The lines of the body; nothing may stand behind the last line feed. -/
def readBody? : List (List Char) → Option (List String)
  | [] => none
  | [last] => if last.isEmpty then some [] else none
  | line :: rest => do
    let inner ← dropIndent? line
    let body ← readBody? rest
    some (.ofList inner :: body)

/-- Reads the parts of a text that has them and nothing else. -/
def read? (s : String) : Option Frame :=
  match segments s.toList with
  | start :: heading :: rest =>
    if heading = "  Headers:".toList then do
      let (fields, rest) ← readFields? rest
      let body ← readBody? rest
      some ⟨.ofList start, fields, body⟩
    else none
  | _ => none

/-- No part goes on in another line, and names have no colon. -/
structure IsClear (f : Frame) : Prop where
  start : OneLine f.start
  names : ∀ field ∈ f.fields, OneLine field.1 ∧ ':' ∉ field.1.toList
  values : ∀ field ∈ f.fields, OneLine field.2
  body : ∀ l ∈ f.body, OneLine l

theorem dropIndent?_indent (l : String) : dropIndent? ("    " ++ l).toList = some l.toList := by
  rw [String.toList_append]
  rfl

theorem toList_fieldLine (field : String × String) :
    (fieldLine field).toList =
      "    ".toList ++ (field.1.toList ++ ':' :: ' ' :: field.2.toList) := by
  simp [fieldLine]

theorem readField?_fieldLine {field : String × String} (h : ':' ∉ field.1.toList) :
    readField? (fieldLine field).toList = some field := by
  have hinner : dropIndent? (fieldLine field).toList =
      some (field.1.toList ++ ':' :: ' ' :: field.2.toList) := by
    rw [toList_fieldLine]
    rfl
  have hname : ∀ c ∈ field.1.toList, decide (c ≠ ':') = true := fun c hc =>
    decide_eq_true fun he => h (he ▸ hc)
  simp only [readField?, hinner, Option.bind_eq_bind, Option.bind_some]
  rw [List.dropWhile_append_of_pos hname, List.takeWhile_append_of_pos hname,
    List.dropWhile_cons_of_neg (by decide), List.takeWhile_cons_of_neg (by decide)]
  simp

/-- No field can pass for the heading of the body: it stands further to the right. -/
private theorem fieldLine_ne_heading (field : String × String) :
    (fieldLine field).toList ≠ "  Body:".toList := by
  rw [toList_fieldLine]
  exact fun h => absurd (congrArg (·[2]?) h) (by simp)

theorem readFields?_lines {fields : List (String × String)}
    (h : ∀ field ∈ fields, ':' ∉ field.1.toList) (rest : List (List Char)) :
    readFields? (fields.map (fun field => (fieldLine field).toList) ++ "  Body:".toList :: rest) =
      some (fields, rest) := by
  induction fields with
  | nil => exact if_pos rfl
  | cons field fields ih =>
    obtain ⟨hfield, hfields⟩ := List.forall_mem_cons.mp h
    rw [List.map_cons, List.cons_append, readFields?, if_neg (fieldLine_ne_heading field),
      readField?_fieldLine hfield, ih hfields]
    rfl

theorem readBody?_lines (body : List String) :
    readBody? (body.map (fun l => ("    " ++ l).toList) ++ [[]]) = some body := by
  induction body with
  | nil => rfl
  | cons l body ih =>
    obtain ⟨line, rest, hlines⟩ :
        ∃ line rest, body.map (fun l => ("    " ++ l).toList) ++ [[]] = line :: rest := by
      cases body <;> exact ⟨_, _, rfl⟩
    rw [List.map_cons, List.cons_append, hlines, readBody?, dropIndent?_indent, ← hlines, ih]
    · simp
    · exact List.cons_ne_nil line rest

section Clear
variable {f : Frame} (h : f.IsClear)
include h

theorem IsClear.oneLine : ∀ l ∈ f.lines, OneLine l := by
  have hheaders : OneLine "  Headers:" := by decide
  have hbody : OneLine "  Body:" := by decide
  have hindent : OneLine "    " := by decide
  have hcolon : OneLine ": " := by decide
  simp only [lines, List.cons_append, List.forall_mem_cons, List.forall_mem_append,
    List.forall_mem_map]
  exact ⟨h.start, hheaders, fun field hfield =>
    ((hindent.append (h.names field hfield).1).append hcolon).append (h.values field hfield),
    hbody, fun l hl => hindent.append (h.body l hl)⟩

/-- The text is its lines, each with its end. -/
theorem IsClear.segments_text : segments f.text.toList = f.lines.map String.toList ++ [[]] :=
  segments_unlines h.oneLine

/-- The parts are read back, whatever they are. -/
theorem IsClear.read?_text : read? f.text = some f := by
  have hfields := readFields?_lines (fun field hfield => (h.names field hfield).2)
    (f.body.map (fun l => ("    " ++ l).toList) ++ [[]])
  have hbody := readBody?_lines f.body
  simp only [read?, h.segments_text, lines, List.cons_append, List.map_cons, List.map_append,
    List.map_map, Function.comp_def, List.append_assoc, if_true, hfields, hbody,
    String.ofList_toList, Option.bind_eq_bind, Option.bind_some]

/-- Only the first line and the headings stand further to the left than four blanks. -/
theorem IsClear.outermost (hstart : dropIndent? f.start.toList = none) :
    (segments f.text.toList).filter (fun l => (dropIndent? l).isNone) =
      [f.start.toList, "  Headers:".toList, "  Body:".toList, []] := by
  have hfields : (f.fields.map fun field => (fieldLine field).toList).filter
      (fun l => (dropIndent? l).isNone) = [] := by
    refine List.filter_eq_nil_iff.mpr fun l hl => ?_
    obtain ⟨field, -, rfl⟩ := List.mem_map.mp hl
    rw [toList_fieldLine]
    exact Bool.false_ne_true
  have hbody : (f.body.map fun l => ("    " ++ l).toList).filter
      (fun l => (dropIndent? l).isNone) = [] := by
    refine List.filter_eq_nil_iff.mpr fun l hl => ?_
    obtain ⟨line, -, rfl⟩ := List.mem_map.mp hl
    rw [dropIndent?_indent]
    exact Bool.false_ne_true
  simp only [h.segments_text, lines, List.map_cons, List.map_append, List.map_map,
    Function.comp_def, List.cons_append, List.filter_cons, List.filter_append, hfields, hbody,
    hstart]
  rfl

end Clear
end Frame

/-- Whether a header may have this name: visible characters of ASCII but the colon. -/
def isHeaderName (name : String) : Bool :=
  name.toList.all fun c => ' ' < c && c ≤ '~' && c ≠ ':'

namespace Header

/-- A field that may be sent and received. -/
structure IsValid (h : Header) : Prop where
  name : isHeaderName h.name = true
  value : isHeaderValue h.value = true

/-- What is shown of a field. -/
def shown (h : Header) : String × String :=
  (h.key, redact h.key (Utf8.decodeLossy h.value))

/-- A character that no name may have is none of the name as it is shown. -/
private theorem not_mem_key {h : Header} (hname : isHeaderName h.name = true) {c : Char}
    (hlower : c.isLower = false) (hc : (' ' < c && c ≤ '~' && c ≠ ':') = false) :
    c ∉ h.key.toList := by
  intro hmem
  have hfit := List.all_eq_true.mp hname c (mem_of_mem_lowerCase hlower hmem)
  rw [hc] at hfit
  cases hfit

theorem clear_key {h : Header} (hname : isHeaderName h.name = true) :
    OneLine h.key ∧ ':' ∉ h.key.toList :=
  ⟨not_mem_key hname (by decide) (by decide), not_mem_key hname (by decide) (by decide)⟩

end Header

/-- Hiding puts no line feed in. -/
theorem oneLine_redact (name : String) {value : String} (h : OneLine value) :
    OneLine (redact name value) := by
  have hcookie : OneLine (String.ofList (value.toList.takeWhile (· ≠ '='))) := by
    rw [OneLine, String.toList_ofList]
    exact fun hmem => h ((List.takeWhile_prefix _).subset hmem)
  unfold redact
  dsimp only
  split
  · decide
  · split
    · exact hcookie.append (by decide)
    · exact h

/-- A value that may be sent has no line feed, whatever else its bytes are. -/
theorem oneLine_decodeLossy {value : Bytes} (h : isHeaderValue value = true) :
    OneLine (Utf8.decodeLossy value) := by
  intro hmem
  have hbyte := Utf8.mem_of_mem_decodeLossy (by decide) hmem
  have hfit := List.all_eq_true.mp h _ hbyte
  exact absurd hfit (by decide)

/-- Fields that may be sent are shown in one line; so is an authorization, which is hidden. -/
theorem Header.oneLine_shown {h : Header}
    (hh : h.key = "authorization" ∨ isHeaderValue h.value = true) : OneLine h.shown.2 := by
  rcases hh with hkey | hvalue
  · have hhidden : lowerCase "authorization" = "authorization" := by decide
    simp only [shown, redact, hkey, hhidden, if_true]
    decide
  · simp only [shown]
    exact oneLine_redact _ (oneLine_decodeLossy hvalue)

/-- The parts of a rendering. -/
def frame (start : String) (headers : List Header) (body : Bytes) : Frame :=
  ⟨start, (Header.grouped headers).map Header.shown, lines (bodyText body)⟩

/-- A rendering is made of its parts alone. -/
theorem render_eq_text (start : String) (headers : List Header) (body : Bytes) :
    render start headers body = (frame start headers body).text := by
  have hindented (ls : List String) :
      String.join (ls.map indented) = unlines (ls.map ("    " ++ ·)) := by
    rw [unlines, List.map_map]
    rfl
  have hheaders : (Header.grouped headers).map headerLine =
      (((Header.grouped headers).map Header.shown).map Frame.fieldLine).map (· ++ "\n") := by
    rw [List.map_map, List.map_map]
    refine List.map_congr_left fun h _ => ?_
    simp only [Function.comp_apply, headerLine, indented, Header.shown, Frame.fieldLine,
      String.append_assoc]
  rw [render, renderBody, hindented, hheaders, frame, Frame.text, Frame.lines, List.cons_append,
    List.cons_append]
  simp only [unlines, List.map_cons, List.map_append, String.join_cons, String.join_append,
    String.append_assoc]
  rfl

/-- A text shows a start line, headers and a body in these parts: each has lines of its own, and
reading the text gives them back. -/
structure Frame.Shows (f : Frame) (s start : String) (headers : List Header) (body : Bytes) :
    Prop where
  text : s = f.text
  oneLine : ∀ l ∈ f.lines, OneLine l
  first : f.start = start
  fields : Header.Grouped Prod.fst (headers.map Header.shown) f.fields
  body : HasLines f.body (bodyText body)
  read : Frame.read? s = some f
  outermost : (segments s.toList).filter (fun l => (Frame.dropIndent? l).isNone) =
    [start.toList, "  Headers:".toList, "  Body:".toList, []]

/-- A rendering shows what it was made of, if its start and its fields take one line each. -/
theorem frame_shows {start : String} (hstart : OneLine start)
    (hleft : Frame.dropIndent? start.toList = none) {headers : List Header}
    (hnames : ∀ h ∈ headers, OneLine h.key ∧ ':' ∉ h.key.toList)
    (hvalues : ∀ h ∈ headers, h.key = "authorization" ∨ isHeaderValue h.value = true)
    (body : Bytes) :
    (frame start headers body).Shows (render start headers body) start headers body := by
  have hgiven {h : Header} (hh : h ∈ Header.grouped headers) : h ∈ headers :=
    (Header.grouped_perm headers).subset hh
  have hclear : (frame start headers body).IsClear := by
    refine ⟨hstart, List.forall_mem_map.mpr fun h hh => hnames h (hgiven hh),
      List.forall_mem_map.mpr fun h hh => Header.oneLine_shown (hvalues h (hgiven hh)), ?_⟩
    exact (hasLines_lines _).oneLine
  rw [render_eq_text]
  have hfields : Header.Grouped Prod.fst (headers.map Header.shown)
      (frame start headers body).fields :=
    Header.grouped_map Prod.fst Header.shown (fun _ => rfl) headers
  exact ⟨rfl, hclear.oneLine, rfl, hfields, hasLines_lines _, hclear.read?_text,
    hclear.outermost hleft⟩

/-- What a built request has as headers. -/
theorem HttpRequest.headers_of_build {merge : List Header → List Header → List Header}
    (hmerge : ∀ own given h, h ∈ merge own given → h ∈ own ∨ h ∈ given) {method url : String}
    {headers : List Header} {body : Option Bytes} {q : HttpRequest}
    (h : build merge method url headers body = .ok q) :
    q.method = method ∧ q.body = body ∧ q.url.OneLine ∧ ∀ x ∈ q.headers,
      x.name = "authorization" ∨ x ∈ headers ∧ isHeaderValue x.value = true := by
  unfold build at h
  split at h
  · cases h
  next u hread =>
    have hurl := Url.oneLine_of_parse hread
    split at h
    · cases h
    · split at h
      · cases h
      next hvalues =>
        have hfit : ∀ x ∈ headers, isHeaderValue x.value = true := by simpa using hvalues
        split at h
        · cases h
          exact ⟨rfl, rfl, hurl, fun x hx => .inr ⟨hx, hfit x hx⟩⟩
        · cases h
          refine ⟨rfl, rfl, hurl.withoutUser, fun x hx => ?_⟩
          rcases hmerge _ _ x hx with hown | hx
          · obtain rfl := List.mem_singleton.mp hown
            exact .inl rfl
          · exact .inr ⟨hx, hfit x hx⟩

theorem Header.mem_override {own given : List Header} {h : Header} (hh : h ∈ override own given) :
    h ∈ own ∨ h ∈ given := by
  rcases List.mem_append.mp hh with hplace | hrest
  · obtain ⟨o, ho, hplace⟩ := List.mem_flatMap.mp hplace
    dsimp only at hplace
    split at hplace
    · exact .inl (List.mem_singleton.mp hplace ▸ ho)
    · exact .inr (List.mem_filter.mp hplace).1
  · exact .inr (List.mem_filter.mp hrest).1

/-- The text of a response, or of a request that has been built, with what it is to show: a start
line, headers and a body. -/
inductive IsRendering : (start : String) → List Header → Bytes → (s : String) → Prop
  | response {r : Response} : (∀ h ∈ r.headers, h.IsValid) →
    IsRendering ("Response: status_code=" ++ toString r.status) r.headers r.body r.render
  | request {merge : List Header → List Header → List Header} {method url : String}
    {headers : List Header} {body : Option Bytes} {q : HttpRequest} :
    merge = (· ++ ·) ∨ merge = Header.override → OneLine method →
    (∀ h ∈ headers, isHeaderName h.name = true) →
    HttpRequest.build merge method url headers body = .ok q →
    IsRendering ("Request: " ++ method ++ " " ++ q.url.text) q.headers (body.getD []) q.render

section Renderings
variable {start s : String} {headers : List Header} {body : Bytes}

theorem IsRendering.frame_shows (h : IsRendering start headers body s) :
    (frame start headers body).Shows s start headers body := by
  cases h with
  | @response r hvalid =>
    have hstart : OneLine ("Response: status_code=" ++ toString r.status) :=
      OneLine.append (by decide) (oneLine_toString r.status)
    refine Http.frame_shows hstart ?_ (fun h hh => Header.clear_key (hvalid h hh).name)
      (fun h hh => .inr (hvalid h hh).value) r.body
    rw [String.toList_append]
    rfl
  | @request merge method url headers body q hmerge hmethod hnames hbuild =>
    have hmembers : ∀ own given h, h ∈ merge own given → h ∈ own ∨ h ∈ given := by
      rcases hmerge with rfl | rfl
      · exact fun own given h => List.mem_append.mp
      · exact fun own given h => Header.mem_override
    obtain ⟨hqmethod, hqbody, hurl, hheaders⟩ := HttpRequest.headers_of_build hmembers hbuild
    have hstart : OneLine ("Request: " ++ method ++ " " ++ q.url.text) :=
      ((OneLine.append (by decide) hmethod).append (by decide)).append hurl.text
    rw [HttpRequest.render, hqmethod, hqbody]
    refine Http.frame_shows hstart ?_ (fun h hh => Header.clear_key ?_)
      (fun h hh => (hheaders h hh).imp (congrArg lowerCase) And.right) _
    · simp only [String.toList_append]
      rfl
    · rcases hheaders h hh with hname | ⟨hgiven, -⟩
      · rw [hname]
        decide
      · exact hnames h hgiven

/-- Whatever the status, the header values and the bytes of the body, a rendered response or request
has a line for its start, one for each field, one for each line of the body and the two headings,
and nothing else; the fields are the given ones, by name. A reader finds every part where it was
put: no value and no body can pass for another part. -/
theorem rendering_is_framed (h : IsRendering start headers body s) :
    ∃ f : Frame, f.Shows s start headers body :=
  ⟨_, h.frame_shows⟩

end Renderings

/-- A response whose headers and body look like parts of a rendering. -/
def forgery : Response where
  status := 500
  headers := [⟨"X-Note", Utf8.encode "  Body:"⟩,
    ⟨"Set-Cookie", Utf8.encode "id: 1\t" ++ 0xE2 :: Utf8.encode "=secret"⟩,
    ⟨"x-note", Utf8.encode "x: y"⟩]
  body := Utf8.encode "\n  Body:\r\n    x: y\r\nResponse: status_code=200" ++ [0xFF]

/-- A request to an address with a user, and a line feed in its path. -/
def visitor : HttpRequest where
  method := "PUT"
  url := ⟨"http", some ⟨"", none, .ipv6 [0, 0, 0, 0, 0, 0, 0, 1], none⟩, .segments ["a%0Ab"],
    none, none⟩
  headers := [⟨"authorization", Utf8.encode "Basic bWU6"⟩, ⟨"Accept", Utf8.encode "*/*"⟩]
  body := some (Utf8.encode "[true]")

theorem rendering_is_framed_of_forgery :
    let f : Frame := ⟨"Response: status_code=500",
      [("x-note", "  Body:"), ("x-note", "x: y"), ("set-cookie", "id: 1\t\uFFFD=...")],
      ["", "  Body:", "    x: y", "Response: status_code=200\uFFFD"]⟩
    let g : Frame := ⟨"Request: PUT http://[::1]/a%0Ab",
      [("authorization", "[...]"), ("accept", "*/*")], ["[", "  true", "]"]⟩
    (∀ h ∈ forgery.headers, h.IsValid) ∧
    f.Shows forgery.render f.start forgery.headers forgery.body ∧
    HttpRequest.build Header.override "PUT" "http://me@[::1]/a%0Ab"
      [⟨"Accept", Utf8.encode "*/*"⟩] visitor.body = .ok visitor ∧
    g.Shows visitor.render g.start visitor.headers (visitor.body.getD []) := by
  intro f g
  have hvalid : ∀ h ∈ forgery.headers, h.IsValid := by
    have hfit : forgery.headers.all (fun h => isHeaderName h.name && isHeaderValue h.value) := by
      decide +kernel
    intro h hh
    have hboth := Bool.and_eq_true_iff.mp (List.all_eq_true.mp hfit h hh)
    exact ⟨hboth.1, hboth.2⟩
  have hbuild : HttpRequest.build Header.override "PUT" "http://me@[::1]/a%0Ab"
      [⟨"Accept", Utf8.encode "*/*"⟩] visitor.body = .ok visitor := by decide +kernel
  have hread : Frame.read? forgery.render = some f := by decide +kernel
  have hread' : Frame.read? visitor.render = some g := by decide +kernel
  have hresponse := IsRendering.response hvalid
  have hrequest := IsRendering.request (.inr rfl) (by decide) (by decide) hbuild
  obtain ⟨f', hf⟩ := rendering_is_framed hresponse
  obtain ⟨g', hg⟩ := rendering_is_framed hrequest
  obtain rfl := Option.some.inj (hread.symm.trans hf.read)
  obtain rfl := Option.some.inj (hread'.symm.trans hg.read)
  exact ⟨hvalid, hf.first ▸ hf, hbuild, hg.first ▸ hg⟩

end ModelChat.Http
