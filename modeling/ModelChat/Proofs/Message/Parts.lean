import Mathlib.Data.List.Forall2
import ModelChat.Proofs.Json.PrettyPrinter
import ModelChat.Proofs.Message.Meaning

/-! Parts read one by one and parts read within a content. Main statement: a content takes the parts
that are read from their own texts, and those that give their kind by its number, which no part
read alone may do. -/
namespace ModelChat
open Json

namespace Json

section Lists
variable {α : Type} {P Q : α → Bytes → Prop} {first : Bool} {as : List α} {s : Bytes}

theorem Listed.mono (h : Listed P first as s) (hPQ : ∀ a t, P a t → Q a t) :
    Listed Q first as s := by
  induction h with
  | nil hb => exact .nil hb
  | cons hlead ht _ ih => exact .cons hlead (hPQ _ _ ht) ih

theorem Member.mono {m : String × α} {t : Bytes} (h : Member P m t) (hPQ : ∀ a t, P a t → Q a t) :
    Member Q m t := by
  cases h with
  | mk hq hb hb' ht => exact .mk hq hb hb' (hPQ _ _ ht)

/-- Each item has its own text among the others. -/
theorem listed_iff_own : Listed P first as s ↔
    ∃ es, List.Forall₂ P as es ∧ Listed (fun e t => t = e) first es s := by
  constructor
  · intro h
    induction h with
    | nil hb => exact ⟨[], .nil, .nil hb⟩
    | cons hlead ht _ ih =>
      obtain ⟨es, hes, hs⟩ := ih
      exact ⟨_ :: es, .cons ht hes, .cons hlead rfl hs⟩
  · rintro ⟨es, hes, hs⟩
    induction hs generalizing as with
    | nil hb =>
      cases hes
      exact .nil hb
    | cons hlead ht _ ih =>
      cases hes with
      | cons ha has =>
        rw [ht]
        exact .cons hlead ha (ih has)

/-- An item may be put in place of another. -/
theorem Listed.replace (before : List α) {after : List α} {a a' : α} {t : Bytes}
    (h : Listed P first (before ++ a :: after) s) (ht : P a' t) :
    ∃ s', Listed P first (before ++ a' :: after) s' := by
  induction before generalizing first s with
  | nil =>
    cases h with
    | cons hlead _ hs => exact ⟨_, .cons hlead ht hs⟩
  | cons x before ih =>
    cases h with
    | cons hlead hx hs =>
      obtain ⟨s', hs'⟩ := ih hs
      exact ⟨_, .cons hlead hx hs'⟩

end Lists

theorem TextOf.succ {room : Nat} {v : Json} {s : Bytes} (h : TextOf room v s) :
    TextOf (room + 1) v s := by
  induction room generalizing v s with
  | zero => exact .scalar h
  | succ room ih =>
    rcases h with h | ⟨items, t, rfl, ht, rfl⟩ | ⟨members, t, rfl, ht, rfl⟩
    · exact .scalar h
    · exact .inr (.inl ⟨items, t, rfl, ht.mono fun _ _ => ih, rfl⟩)
    · exact .inr (.inr ⟨members, t, rfl, ht.mono fun _ _ hm => hm.mono fun _ _ => ih, rfl⟩)

theorem TextOf.isText {room : Nat} (hroom : room + 1 = maxDepth) {v : Json} {s : Bytes}
    (h : TextOf room v s) : IsText v s := by
  refine ⟨[], s, [], blank_nil, ?_, blank_nil, by simp⟩
  rw [← hroom]
  exact h.succ

theorem IsText.unique {v w : Json} {s : Bytes} (hv : IsText v s) (hw : IsText w s) : v = w := by
  have hread := parse_eq_ok.mpr hv
  rw [parse_eq_ok.mpr hw] at hread
  exact (Except.ok.inj hread).symm

/-- The texts between the brackets and commas of an array, each of them the text of a value. -/
def ItemTexts (t : Bytes) (es : List Bytes) : Prop :=
  (∃ items, List.Forall₂ (TextOf (maxDepth - 1)) items es) ∧ ∃ b s b', Blank b ∧ Blank b' ∧
    Listed (fun e u => u = e) true es s ∧
    t = b ++ (Bracket.square.opening :: (s ++ [Bracket.square.closing]) ++ b')

/-- The items of an array have their own texts in a text of the array. -/
theorem exists_itemTexts {items : List Json} {t : Bytes} (h : IsText (.array items) t) :
    ∃ es, ItemTexts t es ∧ List.Forall₂ (TextOf (maxDepth - 1)) items es := by
  obtain ⟨b, u, b', hb, hu, hb', rfl⟩ := h
  obtain ⟨room, s, hroom, hs, rfl⟩ := hu.of_array
  obtain rfl : room = maxDepth - 1 := by omega
  obtain ⟨es, hes, hown⟩ := listed_iff_own.mp hs
  exact ⟨es, ⟨⟨items, hes⟩, b, s, b', hb, hb', hown, rfl⟩, hes⟩

theorem ItemTexts.exists_items {t : Bytes} {es : List Bytes} (h : ItemTexts t es) :
    ∃ items, IsText (.array items) t ∧ List.Forall₂ (TextOf (maxDepth - 1)) items es := by
  obtain ⟨⟨items, hes⟩, b, s, b', hb, hb', hown, rfl⟩ := h
  have hs := listed_iff_own.mpr ⟨es, hes, hown⟩
  exact ⟨items, ⟨b, _, b', hb, .inr (.inl ⟨items, s, rfl, hs, rfl⟩), hb', rfl⟩, hes⟩

end Json

namespace ContentPart

/-- The place of a kind among the kinds. -/
def Kind.number : Kind → Int
  | text => 0
  | imageUrl => 1

/-- Values that differ in the kind of a part alone: given by its number, and by its name. -/
inductive Numbers : Json → Json → Prop
  | member (kind : Kind) (before after : List (String × Json)) :
    Numbers (.object (before ++ (kindField, .integer kind.number) :: after))
      (.object (before ++ (kindField, .string kind.name) :: after))
  | item (kind : Kind) (items : List Json) :
    Numbers (.array (.integer kind.number :: items)) (.array (.string kind.name :: items))

/-- Texts of such values. -/
def NumbersIn (e e' : Bytes) : Prop :=
  ∃ v w, IsText v e ∧ Numbers v w ∧ IsText w e'

/-- A part is read from its own text, or from its own text with the name of its kind in place of
the number. -/
def ReadsItem (part : ContentPart) (e : Bytes) : Prop :=
  readText ContentPart.read e = .ok part ∨
    ∃ e', NumbersIn e e' ∧ readText ContentPart.read e' = .ok part

theorem Kind.named?_name (kind : Kind) : named? (.string kind.name) = some kind := by
  cases kind <;> decide

theorem Kind.ofJson?_number (kind : Kind) : ofJson? (.integer kind.number) = some kind := by
  cases kind <;> rfl

/-- A kind may be given by its number where it was read before, and by its name anywhere. -/
theorem Kind.ofJson?_eq_some {v : Json} {kind : Kind} :
    ofJson? v = some kind ↔ named? v = some kind ∨ v = .integer kind.number := by
  unfold ofJson?
  split <;> cases kind <;> simp_all [named?, string?, number]

/-- The same kind, given in another way, makes the same part. -/
theorem ofValue?_congr {f g : Json → Option Kind} {u w : Json} (h : f u = g w)
    (before after : List (String × Json)) :
    ofValue? f (.object (before ++ (kindField, u) :: after)) =
      ofValue? g (.object (before ++ (kindField, w) :: after)) := by
  rw [ofValue?_object, ofValue?_object, once_congr h]
  apply Option.bind_congr
  intro kind _
  rw [once_elsewhere kind.name_ne.symm, once_elsewhere kind.name_ne.symm]

theorem Numbers.ofJson? {v w : Json} (h : Numbers v w) : ofJson? v = ofValue? Kind.named? w := by
  have hkind (kind : Kind) :
      Kind.ofJson? (.integer kind.number) = Kind.named? (.string kind.name) :=
    kind.ofJson?_number.trans kind.named?_name.symm
  rw [ofJson?_eq]
  cases h with
  | member kind before after => exact ofValue?_congr (hkind kind) before after
  | item kind items => rw [ofValue?, ofValue?, judge?, judge?, hkind]

theorem Numbers.unnamed {v w : Json} (h : Numbers v w) : ofValue? Kind.named? v = none := by
  cases h with
  | member kind before after =>
    have hnone : once kindField Kind.named?
        (before ++ (kindField, .integer kind.number) :: after) = none := by
      apply Option.eq_none_iff_forall_ne_some.mpr
      intro k hk
      have hnamed := meaning_of_once hk (List.mem_append_right before List.mem_cons_self)
      cases hnamed
    rw [ofValue?_object, hnone, Option.bind_none]
  | item kind items => rfl

/-- The kind of a part is given in one place, by a value of which nothing but the kind counts. -/
private theorem exists_kind {kindOf : Json → Option Kind} {v : Json} {part : ContentPart}
    (h : ofValue? kindOf v = some part) : ∃ u kind, kindOf u = some kind ∧
      (∀ other : Json → Option Kind, other u = some kind → ofValue? other v = some part) ∧
      (u = .integer kind.number → ∃ w, Numbers v w) := by
  cases v with
  | object members =>
    rw [ofValue?_object] at h
    obtain ⟨kind, honce, hpart⟩ := Option.bind_eq_some_iff.mp h
    obtain ⟨u, hfilter, hkind⟩ := once_eq_some.mp honce
    refine ⟨u, kind, hkind, fun other hother => ?_, ?_⟩
    · rw [ofValue?_object, once_eq_some.mpr ⟨u, hfilter, hother⟩]
      exact hpart
    · rintro rfl
      have hmem : (kindField, Json.integer kind.number) ∈ members :=
        List.mem_of_mem_filter (hfilter ▸ List.mem_singleton_self _)
      obtain ⟨before, after, rfl⟩ := List.append_of_mem hmem
      exact ⟨_, .member kind before after⟩
  | array items =>
    cases items with
    | nil => cases h
    | cons u items =>
      obtain ⟨outcome, hjudge, hpart⟩ := Option.bind_eq_some_iff.mp h
      obtain ⟨kind, hkind, rfl⟩ := Option.map_eq_some_iff.mp hjudge
      refine ⟨u, kind, hkind, fun other hother => ?_, ?_⟩
      · rw [ofValue?, judge?, hother]
        exact hpart
      · rintro rfl
        exact ⟨_, .item kind items⟩
  | _ => cases h

/-- What was read before stands for a part if it does so by itself, or with its kind named. -/
theorem ofJson?_eq_some {v : Json} {part : ContentPart} : ofJson? v = some part ↔
    ofValue? Kind.named? v = some part ∨
      ∃ w, Numbers v w ∧ ofValue? Kind.named? w = some part := by
  constructor
  · intro h
    rw [ofJson?_eq] at h
    obtain ⟨u, kind, hkind, hother, hnumber⟩ := exists_kind h
    rcases Kind.ofJson?_eq_some.mp hkind with hnamed | hu
    · exact .inl (hother Kind.named? hnamed)
    · obtain ⟨w, hw⟩ := hnumber hu
      exact .inr ⟨w, hw, by rw [← hw.ofJson?, ofJson?_eq, h]⟩
  · rintro (h | ⟨w, hw, h⟩)
    · obtain ⟨u, kind, hkind, hother, -⟩ := exists_kind h
      rw [ofJson?_eq]
      exact hother Kind.ofJson? (Kind.ofJson?_eq_some.mpr (.inl hkind))
    · rw [hw.ofJson?, h]

theorem Numbers.exists_text {v w : Json} (h : Numbers v w) {e : Bytes} (he : IsText v e) :
    ∃ e', IsText w e' := by
  obtain ⟨b, t, b', hb, ht, hb', -⟩ := he
  cases h with
  | member kind before after =>
    obtain ⟨room, u, hroom, hu, -⟩ := ht.of_object
    obtain rfl : room = maxDepth - 1 := by omega
    obtain ⟨q, -, hq⟩ := stringText_quoted kindField
    obtain ⟨u', hu'⟩ := hu.replace before (.mk hq blank_nil blank_nil (prints_string _ kind.name))
    exact ⟨_, b, _, b', hb, .inr (.inr ⟨_, u', rfl, hu', rfl⟩), hb', rfl⟩
  | item kind items =>
    obtain ⟨room, u, hroom, hu, -⟩ := ht.of_array
    obtain rfl : room = maxDepth - 1 := by omega
    obtain ⟨u', hu'⟩ := Listed.replace [] hu (prints_string _ kind.name)
    exact ⟨_, b, _, b', hb, .inr (.inl ⟨_, u', rfl, hu', rfl⟩), hb', rfl⟩

theorem readText_eq_ok {v : Json} {e : Bytes} (he : IsText v e) {part : ContentPart} :
    readText ContentPart.read e = .ok part ↔ ofValue? Kind.named? v = some part := by
  rw [← toOption_eq_some, readText_toOption he fun hb ht hlength hrest =>
    read_goesBy hb ht hlength hrest]

/-- An item stands for a part if it is read from its own text, or would be with its kind named. -/
theorem readsItem_iff {v : Json} {e : Bytes} (he : IsText v e) {part : ContentPart} :
    ReadsItem part e ↔ ofJson? v = some part := by
  rw [ReadsItem, readText_eq_ok he, ofJson?_eq_some]
  refine or_congr_right ⟨?_, ?_⟩
  · rintro ⟨e', ⟨v', w, hv', hnumbers, hw⟩, h⟩
    obtain rfl := he.unique hv'
    exact ⟨w, hnumbers, (readText_eq_ok hw).mp h⟩
  · rintro ⟨w, hnumbers, h⟩
    obtain ⟨e', he'⟩ := hnumbers.exists_text he
    exact ⟨e', ⟨v, w, he, hnumbers, he'⟩, (readText_eq_ok he').mpr h⟩

end ContentPart

namespace Content

theorem readText_eq_ok {content : Content} {t : Bytes} :
    readText Content.read t = .ok content ↔ ∃ v, IsText v t ∧ ofJson? v = some content := by
  constructor
  · intro h
    obtain ⟨b, hb, hread⟩ := Json.readText_eq_ok.mp h
    obtain ⟨⟨v, s⟩, hvalue, hcontent⟩ := bind_eq_ok.mp hread
    cases hv : ofJson? v with
    | none =>
      simp only [hv] at hcontent
      cases hcontent
    | some c =>
      simp only [hv] at hcontent
      obtain ⟨rfl, rfl⟩ := Prod.mk.inj (Except.ok.inj hcontent)
      refine ⟨v, parse_eq_ok.mp (Json.readText_eq_ok.mpr ⟨_, hb, hvalue⟩), hv⟩
  · rintro ⟨v, hv, hcontent⟩
    rw [← toOption_eq_some, readText_toOption hv fun hb ht hlength hrest =>
      read_goesBy hb ht hlength hrest, hcontent]

theorem ofJson?_eq_text {v : Json} {text : String} :
    ofJson? v = some (.text text) ↔ v = .string text := by
  cases v <;> simp [ofJson?]

theorem ofJson?_eq_parts {v : Json} {parts : List ContentPart} :
    ofJson? v = some (.parts parts) ↔ ∃ items, v = .array items ∧
      List.Forall₂ (fun part item => ContentPart.ofJson? item = some part) parts items := by
  have hmapM (items : List Json) : items.mapM ContentPart.ofJson? = some parts ↔
      List.Forall₂ (fun part item => ContentPart.ofJson? item = some part) parts items := by
    induction items generalizing parts with
    | nil => cases parts <;> simp
    | cons item items ih =>
      cases parts with
      | nil => simp [List.mapM_cons, Option.bind_eq_some_iff]
      | cons part parts => simp [List.mapM_cons, Option.bind_eq_some_iff, ih]
  cases v <;> simp [ofJson?, hmapM]

private theorem readsItem_forall {parts : List ContentPart} {items : List Json} {es : List Bytes}
    (h : List.Forall₂ (TextOf (maxDepth - 1)) items es) :
    List.Forall₂ ContentPart.ReadsItem parts es ↔
      List.Forall₂ (fun part item => ContentPart.ofJson? item = some part) parts items := by
  induction h generalizing parts with
  | nil => cases parts <;> simp
  | cons he _ ih =>
    cases parts with
    | nil => simp
    | cons part parts =>
      rw [List.forall₂_cons, List.forall₂_cons, ih, ContentPart.readsItem_iff (he.isText rfl)]

/-- A text is read as plain text exactly if it is a string, and as parts exactly if it is an array
whose items are read from their own texts, or would be if they gave the name of their kind and not
its number. All other texts are refused, and no part is read alone that gives a number. -/
theorem parts_read_like_alone (t : Bytes) :
    (∀ text, readText Content.read t = .ok (.text text) ↔ IsText (.string text) t) ∧
    (∀ parts, readText Content.read t = .ok (.parts parts) ↔
      ∃ es, ItemTexts t es ∧ List.Forall₂ ContentPart.ReadsItem parts es) ∧
    ((∃ fault, readText Content.read t = .error fault) ↔ (∀ text, ¬ IsText (.string text) t) ∧
      ∀ parts es, ItemTexts t es → ¬ List.Forall₂ ContentPart.ReadsItem parts es) ∧
    ∀ e e', ContentPart.NumbersIn e e' → ∃ fault, readText ContentPart.read e = .error fault := by
  have htext (text : String) :
      readText Content.read t = .ok (.text text) ↔ IsText (.string text) t := by
    simp [readText_eq_ok, ofJson?_eq_text]
  have hparts (parts : List ContentPart) : readText Content.read t = .ok (.parts parts) ↔
      ∃ es, ItemTexts t es ∧ List.Forall₂ ContentPart.ReadsItem parts es := by
    simp only [readText_eq_ok, ofJson?_eq_parts]
    constructor
    · rintro ⟨_, hv, items, rfl, hitems⟩
      obtain ⟨es, hes, htexts⟩ := exists_itemTexts hv
      exact ⟨es, hes, (readsItem_forall htexts).mpr hitems⟩
    · rintro ⟨es, hes, hitems⟩
      obtain ⟨items, hv, htexts⟩ := hes.exists_items
      exact ⟨_, hv, items, rfl, (readsItem_forall htexts).mp hitems⟩
  refine ⟨htext, hparts, ?_, ?_⟩
  · rw [← toOption_eq_none, Option.eq_none_iff_forall_ne_some]
    simp only [ne_eq, toOption_eq_some]
    constructor
    · intro h
      exact ⟨fun text hstring => h _ ((htext text).mpr hstring),
        fun parts es hes hitems => h _ ((hparts parts).mpr ⟨es, hes, hitems⟩)⟩
    · rintro ⟨hstring, hitems⟩ (text | parts) h
      · exact hstring text ((htext text).mp h)
      · obtain ⟨es, hes, hread⟩ := (hparts parts).mp h
        exact hitems parts es hes hread
  · rintro e e' ⟨v, w, hv, hnumbers, -⟩
    rw [← toOption_eq_none, Option.eq_none_iff_forall_ne_some]
    intro part hpart
    have hnamed := (ContentPart.readText_eq_ok hv).mp (toOption_eq_some.mp hpart)
    rw [hnumbers.unnamed] at hnamed
    cases hnamed

/-- A part that gives the number of its kind is taken within a content, but not alone, so that the
parts of a content are not just those that could be read from their own texts. -/
theorem not_parts_read_alone :
    let e := Text.Utf8.encode "\x7b\"type\":0,\"text\":\"Hi\"\x7d"
    let t := Text.Utf8.encode "[\x7b\"type\":0,\"text\":\"Hi\"\x7d]"
    ItemTexts t [e] ∧ readText Content.read t = .ok (.parts [.text "Hi"]) ∧
    (∃ fault, readText ContentPart.read e = .error fault) ∧
    ¬ ∀ t parts, readText Content.read t = .ok (.parts parts) ↔ ∃ es, ItemTexts t es ∧
      List.Forall₂ (fun part e => readText ContentPart.read e = .ok part) parts es := by
  intro e t
  let v : Json := .object [("type", .integer 0), ("text", .string "Hi")]
  have hzero : IsWord 0 := ⟨by decide +kernel, by decide +kernel⟩
  have hv : TextOf (maxDepth - 1) v e := by
    have hwhole : v.IsWhole := .object (List.forall_mem_cons.mpr
      ⟨.integer hzero, List.forall_mem_singleton.mpr (.string _)⟩)
    have hnests : v.Nests (maxDepth - 1) := .object (List.forall_mem_cons.mpr
      ⟨.plain trivial, List.forall_mem_singleton.mpr (.plain trivial)⟩)
    have htext : e = Text.Utf8.encodeChars (compactText v) := by decide +kernel
    rw [htext]
    exact prints_whole hwhole hnests
  have hsplit : t = [] ++ (Bracket.square.opening :: (([] ++ (e ++ [])) ++
      [Bracket.square.closing]) ++ []) := by decide +kernel
  have hitems : ItemTexts t [e] := ⟨⟨[v], .cons hv .nil⟩, [], _, [], blank_nil, blank_nil,
    .cons (.first blank_nil) rfl (.nil blank_nil), hsplit⟩
  have harray : IsText (.array [v]) t := ⟨[], _, [], blank_nil,
    .inr (.inl ⟨[v], _, rfl, .cons (.first blank_nil) hv (.nil blank_nil), rfl⟩), blank_nil, hsplit⟩
  have hread : readText Content.read t = .ok (.parts [.text "Hi"]) :=
    readText_eq_ok.mpr ⟨_, harray, rfl⟩
  have halone {e : Bytes} (he : TextOf (maxDepth - 1) v e) (part : ContentPart) :
      readText ContentPart.read e ≠ .ok part := by
    intro h
    have hnamed := (ContentPart.readText_eq_ok (he.isText rfl)).mp h
    cases hnamed
  refine ⟨hitems, hread, ?_, fun hclaim => ?_⟩
  · rw [← toOption_eq_none, Option.eq_none_iff_forall_ne_some]
    exact fun part hpart => halone hv part (toOption_eq_some.mp hpart)
  · obtain ⟨es, hes, hparts⟩ := (hclaim t [.text "Hi"]).mp hread
    obtain ⟨items, htext, htexts⟩ := hes.exists_items
    cases htext.unique harray
    cases htexts with
    | cons he _ =>
      cases hparts with
      | cons hpart _ => exact halone he _ hpart

end Content
end ModelChat
