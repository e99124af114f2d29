import Mathlib.Data.List.Forall2
import ModelChat.Proofs.Json.PrettyPrinter
import ModelChat.Proofs.Message.Meaning

/-! Messages written by others. Main statement: the order of members, the blanks and further members
make no difference, but a member that is repeated or left out does. -/
namespace ModelChat
open Json

namespace Json

/-- An object's own members stand among its members, each once, in any order and between any
members of other names. -/
def HasOwn (own members : List (String × Json)) : Prop :=
  (members.filter fun m => m.1 ∈ own.map Prod.fst).Perm own

/-- A name is left out or repeated. -/
def Spoils (name : String) (members : List (String × Json)) : Prop :=
  (members.map Prod.fst).count name ≠ 1

variable {own members : List (String × Json)} {v : Json}

theorem HasOwn.refl (own : List (String × Json)) : HasOwn own own := by
  have hall : own.filter (fun m => m.1 ∈ own.map Prod.fst) = own :=
    List.filter_eq_self.mpr fun m hm => by simpa using ⟨m.2, hm⟩
  rw [HasOwn, hall]

/-- An own member gives the one value of its name. -/
theorem HasOwn.once (h : HasOwn own members) (name : String)
    (hown : own.filter (·.1 = name) = [(name, v)]) {α : Type} (meaning : Json → Option α) :
    Json.once name meaning members = meaning v := by
  have hname : name ∈ own.map Prod.fst := by
    have hmem : (name, v) ∈ own.filter (·.1 = name) := hown ▸ List.mem_singleton_self _
    exact List.mem_map_of_mem (List.mem_filter.mp hmem).1
  have hsame : members.filter (·.1 = name) =
      (members.filter fun m => m.1 ∈ own.map Prod.fst).filter (·.1 = name) := by
    rw [List.filter_filter]
    apply List.filter_congr
    intro m _
    by_cases hm : m.1 = name
    · simp only [hm, hname, decide_true, Bool.and_true]
    · simp [hm]
  have hperm := h.filter (·.1 = name)
  rw [← hsame, hown, List.perm_singleton] at hperm
  rw [Json.once, hperm]

end Json

namespace ContentPart

/-- Values that a part can be written as. -/
inductive Written : ContentPart → Json → Prop
  | text {text : String} {members : List (String × Json)} :
    HasOwn [(kindField, .string Kind.text.name), (Kind.text.name, .string text)] members →
    Written (.text text) (.object members)
  | imageUrl {url : String} {reference members : List (String × Json)} :
    HasOwn [("url", .string url)] reference →
    HasOwn [(kindField, .string Kind.imageUrl.name), (Kind.imageUrl.name, .object reference)]
      members →
    Written (.imageUrl url) (.object members)

/-- Values that would be parts but for a member that is left out or repeated: the kind, the field of
a kind, or the address in an image reference. -/
inductive Spoilt : Json → Prop
  | kind {members : List (String × Json)} : Spoils kindField members → Spoilt (.object members)
  | field {kind : Kind} {members : List (String × Json)} :
    (kindField, .string kind.name) ∈ members → Spoils kind.name members → Spoilt (.object members)
  | url {reference members : List (String × Json)} :
    (kindField, .string Kind.imageUrl.name) ∈ members →
    (Kind.imageUrl.name, .object reference) ∈ members → Spoils "url" reference →
    Spoilt (.object members)

theorem written_toJson (part : ContentPart) : part.Written part.toJson := by
  cases part with
  | text text => exact .text (.refl _)
  | imageUrl url => exact .imageUrl (.refl _) (.refl _)

theorem Kind.ofName?_name (kind : Kind) : ofName? kind.name = some kind := by
  cases kind <;> decide

theorem Written.ofJson? {part : ContentPart} {v : Json} (h : part.Written v) :
    ofJson? v = some part := by
  rw [ofJson?_eq]
  cases h with
  | text hown =>
    rw [ofValue?_object, hown.once kindField rfl]
    exact hown.once Kind.text.name rfl _
  | @imageUrl url reference _ hreference hown =>
    have hurl : imageUrlOf (.object reference) = .ok url := by
      rw [← toOption_eq_some, imageUrlOf, onlyField_toOption]
      exact hreference.once "url" rfl _
    rw [ofValue?_object, hown.once kindField rfl]
    refine (hown.once Kind.imageUrl.name rfl _).trans ?_
    simp [Kind.field?, hurl]

theorem Spoilt.ofJson? {v : Json} (h : Spoilt v) : ofJson? v = none := by
  rw [ofJson?_eq]
  have hfield {kind : Kind} {members : List (String × Json)} {part : ContentPart}
      (hkind : (kindField, .string kind.name) ∈ members)
      (hpart : ofValue? Kind.ofJson? (.object members) = some part) :
      once kind.name kind.field? members = some part := by
    rw [ofValue?_object] at hpart
    obtain ⟨kind', honce, hpart⟩ := Option.bind_eq_some_iff.mp hpart
    have hnamed : Kind.ofName? kind.name = some kind' := meaning_of_once honce hkind
    rw [kind.ofName?_name] at hnamed
    cases hnamed
    exact hpart
  cases h with
  | kind hspoils => rw [ofValue?_object, once_eq_none hspoils, Option.bind_none]
  | field hkind hspoils =>
    apply Option.eq_none_iff_forall_ne_some.mpr
    intro part hpart
    have honce := hfield hkind hpart
    rw [once_eq_none hspoils] at honce
    cases honce
  | @url reference _ hkind hreference hspoils =>
    apply Option.eq_none_iff_forall_ne_some.mpr
    intro part hpart
    have hurl := meaning_of_once (hfield hkind hpart) hreference
    have hnone : (imageUrlOf (.object reference)).toOption = none := by
      rw [imageUrlOf, onlyField_toOption, once_eq_none hspoils]
    rw [Kind.field?, hnone] at hurl
    cases hurl

end ContentPart

namespace Content

/-- Values that a content can be written as. -/
inductive Written : Content → Json → Prop
  | text (text : String) : Written (.text text) (.string text)
  | parts {parts : List ContentPart} {items : List Json} :
    List.Forall₂ ContentPart.Written parts items → Written (.parts parts) (.array items)

/-- An item is spoilt. -/
inductive Spoilt : Json → Prop
  | item {items : List Json} {v : Json} : v ∈ items → ContentPart.Spoilt v → Spoilt (.array items)

theorem written_toJson (content : Content) : content.Written content.toJson := by
  cases content with
  | text text => exact .text text
  | parts parts =>
    apply Written.parts
    rw [List.forall₂_map_right_iff, List.forall₂_same]
    intro part _
    exact part.written_toJson

theorem Written.ofJson? {content : Content} {v : Json} (h : content.Written v) :
    ofJson? v = some content := by
  cases h with
  | text text => rfl
  | @parts parts items h =>
    have hitems : items.mapM ContentPart.ofJson? = some parts := by
      induction h with
      | nil => rfl
      | cons hpart _ ih => simp [hpart.ofJson?, ih]
    simp [Content.ofJson?, hitems]

theorem Spoilt.ofJson? {v : Json} (h : Spoilt v) : ofJson? v = none := by
  cases h with
  | @item items w hw hspoilt =>
    have hitems : items.mapM ContentPart.ofJson? = none := by
      induction items with
      | nil => cases hw
      | cons x items ih =>
        rcases List.mem_cons.mp hw with rfl | hw
        · simp [hspoilt.ofJson?]
        · simp [ih hw]
    simp [Content.ofJson?, hitems]

end Content

namespace Message

/-- Values that a message can be written as: its two members, in any order and with any others
between them, and its content and the parts in it likewise. -/
inductive Written (m : Message) : Json → Prop
  | fields {v : Json} {members : List (String × Json)} : m.content.Written v →
    HasOwn [("role", .string m.role.name), ("content", v)] members → Written m (.object members)

/-- Values that would be messages but for a member that is left out or repeated. -/
inductive Spoilt : Json → Prop
  | role {members : List (String × Json)} : Spoils "role" members → Spoilt (.object members)
  | content {members : List (String × Json)} : Spoils "content" members → Spoilt (.object members)
  | part {members : List (String × Json)} {v : Json} : ("content", v) ∈ members →
    Content.Spoilt v → Spoilt (.object members)

theorem written_toJson (m : Message) : m.Written m.toJson :=
  .fields m.content.written_toJson (.refl _)

theorem readText_object {members : List (String × Json)} {t : Bytes}
    (h : IsText (.object members) t) : (readText Message.read t).toOption = ofMembers? members :=
  readText_toOption h fun hb ht hlength _ => read_object hb ht hlength _

/-- A message is read from every text of its members, in any order, with any blanks and with any
members of other names beside them, at each of the three levels. With one of its own members
repeated or left out, at any of them, it is read from none. -/
theorem read_any_layout {v : Json} {t : Bytes} (ht : IsText v t) :
    (∀ m : Message, m.Written v → readText Message.read t = .ok m) ∧
    (Spoilt v → ∃ fault, readText Message.read t = .error fault) := by
  constructor
  · intro m hm
    cases hm with
    | fields hcontent hown =>
      have hrole : Role.ofValue? (.string m.role.name) = some m.role := m.role.ofName?_name
      rw [← toOption_eq_some, readText_object ht, ofMembers?, hown.once "role" rfl, hrole,
        Option.bind_some, hown.once "content" rfl, hcontent.ofJson?]
      rfl
  · intro hspoilt
    cases hspoilt with
    | role hspoils =>
      rw [← toOption_eq_none, readText_object ht, ofMembers?, once_eq_none hspoils,
        Option.bind_none]
    | content hspoils =>
      rw [← toOption_eq_none, readText_object ht, ofMembers?, once_eq_none hspoils]
      cases once "role" Role.ofValue? _ <;> rfl
    | @part members w hw hspoilt =>
      have hnone : once "content" Content.ofJson? members = none := by
        apply Option.eq_none_iff_forall_ne_some.mpr
        intro content honce
        have hcontent := meaning_of_once honce hw
        rw [hspoilt.ofJson?] at hcontent
        cases hcontent
      rw [← toOption_eq_none, readText_object ht, ofMembers?, hnone]
      cases once "role" Role.ofValue? members <;> rfl

/-- Members in reverse order with others between them, and a part that tells its kind last. -/
theorem read_any_layout_reversed :
    let part : Json := .object [("text", .string "Hi"), ("id", .object []),
      ("type", .string "text")]
    let v : Json := .object [("id", .array [.null]), ("content", .array [part]),
      ("role", .string "user")]
    IsText v (Text.Utf8.encode v.pretty) ∧
      readText Message.read (Text.Utf8.encode v.pretty) = .ok ⟨.user, .parts [.text "Hi"]⟩ := by
  intro part v
  have hpart : part.IsWhole ∧ part.Nests 125 := by
    refine ⟨.object ?_, .object ?_⟩ <;> simp only [List.forall_mem_cons]
    · exact ⟨.string _, .object (List.forall_mem_nil _), .string _, List.forall_mem_nil _⟩
    · exact ⟨.plain trivial, .object (List.forall_mem_nil _), .plain trivial,
        List.forall_mem_nil _⟩
  have hwhole : v.IsWhole := .object (List.forall_mem_cons.mpr
    ⟨.array (List.forall_mem_singleton.mpr .null), List.forall_mem_cons.mpr
      ⟨.array (List.forall_mem_singleton.mpr hpart.1), List.forall_mem_singleton.mpr (.string _)⟩⟩)
  have hnests : v.Nests maxDepth := .object (List.forall_mem_cons.mpr
    ⟨.array (List.forall_mem_singleton.mpr (.plain trivial)), List.forall_mem_cons.mpr
      ⟨.array (List.forall_mem_singleton.mpr hpart.2),
        List.forall_mem_singleton.mpr (.plain trivial)⟩⟩)
  have htext := isText_pretty hwhole hnests
  have hwritten : ContentPart.Written (.text "Hi") part := .text (.swap _ _ [])
  exact ⟨htext, (read_any_layout htext).1 ⟨.user, .parts [.text "Hi"]⟩
    (.fields (.parts (.cons hwritten .nil)) (.swap _ _ []))⟩

end Message
end ModelChat
