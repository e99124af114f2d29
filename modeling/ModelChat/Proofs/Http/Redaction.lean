import Mathlib.Data.List.Forall2
import ModelChat.Http.Request
import ModelChat.Proofs.Text.Utf8

/-! What rendering hides. Main statement: requests and responses that differ only in what is hidden
are rendered alike, however the hidden bytes and those before them decode. -/
namespace ModelChat.Http
open Text

/-- Cookies of one name: they agree before the first equals sign, and both have one. -/
def SameCookie (value value' : Bytes) : Prop :=
  ∃ name rest rest', '='.toUInt8 ∉ name ∧
    value = name ++ '='.toUInt8 :: rest ∧ value' = name ++ '='.toUInt8 :: rest'

/-- Headers of one name that differ only in what is hidden: all of an authorization, and of a cookie
what stands behind its name. -/
structure Header.Masked (h h' : Header) : Prop where
  key : h.key = h'.key
  value : h.value = h'.value ∨ h.key = "authorization" ∨
    (h.key = "cookie" ∨ h.key = "set-cookie") ∧ SameCookie h.value h'.value

/-- Requests that differ only in what is hidden of their headers. -/
structure HttpRequest.Masked (q q' : HttpRequest) : Prop where
  method : q.method = q'.method
  url : q.url = q'.url
  headers : List.Forall₂ Header.Masked q.headers q'.headers
  body : q.body = q'.body

/-- Responses that differ only in what is hidden of their headers. -/
structure Response.Masked (r r' : Response) : Prop where
  status : r.status = r'.status
  headers : List.Forall₂ Header.Masked r.headers r'.headers
  body : r.body = r'.body

/-- Only the name of a cookie is shown. -/
private theorem shown_cookie {value value' : Bytes} (h : SameCookie value value') :
    (Utf8.decodeLossy value).toList.takeWhile (· ≠ '=') =
      (Utf8.decodeLossy value').toList.takeWhile (· ≠ '=') := by
  obtain ⟨name, rest, rest', -, rfl, rfl⟩ := h
  have hshown (rest : Bytes) :
      (Utf8.decodeLossy (name ++ '='.toUInt8 :: rest)).toList.takeWhile (· ≠ '=') =
        (Utf8.decodeLossy name).toList.takeWhile (· ≠ '=') := by
    have hequals : Char.ofNat '='.toUInt8.toNat = '=' := by decide
    rw [Utf8.decodeLossy_append_ascii (by decide), hequals, List.takeWhile_append]
    split
    next hlength =>
      rw [List.takeWhile_cons_of_neg (by decide), List.append_nil]
      exact ((List.takeWhile_prefix _).eq_of_length hlength).symm
    next => rfl
  rw [hshown rest, hshown rest']

theorem headerLine_masked {h h' : Header} (hmasked : h.Masked h') :
    headerLine h = headerLine h' := by
  obtain ⟨hkey, hvalue | hauthorization | ⟨hcookie, hsame⟩⟩ := hmasked
  · rw [headerLine, headerLine, hkey, hvalue]
  · have hall : lowerCase h.key = "authorization" := by rw [hauthorization]; decide
    simp only [headerLine, redact, ← hkey, hall, if_true]
  · have hlower : lowerCase h.key = h.key := by
      rcases hcookie with hc | hc <;> rw [hc] <;> decide
    have hnot : h.key ≠ "authorization" := by
      rcases hcookie with hc | hc <;> rw [hc] <;> decide
    simp only [headerLine, redact, ← hkey, hlower, if_neg hnot, if_pos hcookie, shown_cookie hsame]

private theorem map_masked {β : Type} {f : Header → β}
    (hf : ∀ h h' : Header, h.Masked h' → f h = f h') {hs hs' : List Header}
    (h : List.Forall₂ Header.Masked hs hs') : hs.map f = hs'.map f := by
  have hall : List.Forall₂ (· = ·) (hs.map f) (hs'.map f) :=
    List.rel_map (fun a b hab => hf a b hab) h
  rwa [List.forall₂_eq_eq_eq] at hall

/-- Headers of the same names are grouped in the same way. -/
theorem headerLines_masked {hs hs' : List Header} (h : List.Forall₂ Header.Masked hs hs') :
    (Header.grouped hs).map headerLine = (Header.grouped hs').map headerLine := by
  have hkeys : hs.map Header.key = hs'.map Header.key := map_masked (fun _ _ => (·.key)) h
  have hgroup (k : String) : (hs.filter (·.key = k)).map headerLine =
      (hs'.filter (·.key = k)).map headerLine := by
    refine map_masked (fun _ _ => headerLine_masked) ?_
    exact List.rel_filter (fun a b hab => by simp [hab.key]) h
  rw [Header.grouped, Header.grouped, List.map_flatMap, List.map_flatMap, hkeys]
  simp only [hgroup]

theorem render_masked (start : String) {hs hs' : List Header}
    (h : List.Forall₂ Header.Masked hs hs') (body : Bytes) :
    render start hs body = render start hs' body := by
  rw [render, render, headerLines_masked h]

/-- Two requests, or two responses, that are the same but for what is hidden in their headers are
shown as the same text: nothing is told of an authorization, and of a cookie only its name, whatever
the bytes. -/
theorem rendering_hides_secrets :
    (∀ q q' : HttpRequest, q.Masked q' → q.render = q'.render) ∧
    ∀ r r' : Response, r.Masked r' → r.render = r'.render := by
  refine ⟨fun q q' h => ?_, fun r r' h => ?_⟩
  · rw [HttpRequest.render, HttpRequest.render, h.method, h.url, h.body]
    exact render_masked _ h.headers _
  · rw [Response.render, Response.render, h.status, h.body]
    exact render_masked _ h.headers _

/-- A request with a key and a cookie, whose name ends in the midst of a character. -/
def visit (key session : Bytes) : HttpRequest where
  method := "POST"
  url := ⟨"http", some ⟨"", none, .name "h", none⟩, .segments ["v1"], none, none⟩
  headers := [⟨"Cookie", [0x69, 0x64, 0xE2, 0x82] ++ '='.toUInt8 :: session⟩,
    ⟨"Authorization", key⟩]
  body := some (Utf8.encode "Hi")

theorem rendering_hides_secrets_of_visit :
    let q := visit (Utf8.encode "Bearer one") (Utf8.encode "1; Path=/")
    let q' := visit [0xFF] [0xAC]
    q.Masked q' ∧ q.headers ≠ q'.headers ∧ q.render = q'.render ∧ q'.render =
      "Request: POST http://h/v1\n  Headers:\n    cookie: id\uFFFD=...\n    authorization: [...]\n"
        ++ "  Body:\n    Hi\n" := by
  intro q q'
  have hmasked : q.Masked q' := by
    refine ⟨rfl, rfl, .cons ?_ (.cons ?_ .nil), rfl⟩
    · exact ⟨rfl, .inr (.inr ⟨.inl (by decide), _, _, _, by decide, rfl, rfl⟩)⟩
    · exact ⟨rfl, .inr (.inl (by decide))⟩
  refine ⟨hmasked, by decide, rendering_hides_secrets.1 q q' hmasked, ?_⟩
  decide +kernel

end ModelChat.Http
