import ModelChat.Message.Reader
import ModelChat.Proofs.Json.Printer
import ModelChat.Proofs.Json.Record

/-! Messages in JSON texts. Main statement: every text of a message's value is read as that
message. -/
namespace ModelChat
open Json

namespace Role

theorem ofName?_name (role : Role) : ofName? role.name = some role := by
  cases role <;> decide

/-- The role that a value names. -/
def ofJson? (v : Json) : Option Role :=
  v.string?.bind ofName?

theorem read_textOf (bound room : Nat) :
    Reads (Role.read bound room) (fun role t => ∃ v, ofJson? v = some role ∧ TextOf room v t)
      bound := by
  rintro role b t rest hb ⟨v, hv, ht⟩ - -
  obtain ⟨name, hname, hrole⟩ := Option.bind_eq_some_iff.mp hv
  cases v with
  | string text =>
    obtain rfl := Option.some.inj hname
    obtain ⟨q, rfl, hq⟩ := ht.of_string
    have hread := readName_append (b := []) (List.forall_mem_nil _) hq (Role.all.map Role.name)
      hrole rest
    rw [List.nil_append] at hread
    simp only [Role.read, List.cons_append, skipBlanks_append hb isBlank_quote, if_true, hread]
  | _ => cases hname

end Role

namespace ContentPart

theorem ofJson?_toJson (part : ContentPart) : ofJson? part.toJson = some part := by
  cases part <;> rfl

/-- A part has at most two brackets around any piece of it. -/
theorem prints_toJson (room : Nat) (part : ContentPart) :
    Prints (room + 2) part.toJson part.toJson := by
  have htext (room : Nat) (name text : String) :
      PrintsMember (TextOf room) (name, .string text) (name, .string text) :=
    (prints_string room text).member name
  cases part with
  | text text => exact prints_object (.cons (htext _ _ _) (.cons (htext _ _ _) .nil))
  | imageUrl url =>
    have hurl := prints_object (.cons (htext room "url" url) .nil)
    exact prints_object (.cons (htext _ _ _) (.cons (hurl.member _) .nil))

end ContentPart

namespace Content

theorem ofJson?_toJson (content : Content) : ofJson? content.toJson = some content := by
  cases content with
  | text text => rfl
  | parts parts =>
    have hparts : (parts.map ContentPart.toJson).mapM ContentPart.ofJson? = some parts := by
      induction parts with
      | nil => rfl
      | cons part parts ih => simp [ContentPart.ofJson?_toJson, ih]
    simp [toJson, ofJson?, hparts]

theorem prints_toJson (room : Nat) (content : Content) :
    Prints (room + 3) content.toJson content.toJson := by
  cases content with
  | text text => exact prints_string _ text
  | parts parts =>
    refine prints_array (List.forall₂_same.mpr ?_)
    intro v hv
    obtain ⟨part, -, rfl⟩ := List.mem_map.mp hv
    exact part.prints_toJson room

theorem read_textOf (bound room : Nat) :
    Reads (Content.read bound room) (fun content t => ∃ v, ofJson? v = some content ∧
      TextOf room v t) bound := by
  rintro content b t rest hb ⟨v, hv, ht⟩ hlength hrest
  simp only [Content.read, readValue_textOf bound room hb ht hlength hrest, ok_bind, hv]

end Content

namespace Message

theorem prints_toJson (room : Nat) (m : Message) : Prints (room + 4) m.toJson m.toJson :=
  prints_object (.cons ((prints_string _ m.role.name).member _)
    (.cons ((m.content.prints_toJson room).member _) .nil))

/-- The fields after one more member, given by its value. -/
def Fields.take (st : Fields) (m : String × Json) : Option Fields :=
  match m.1, st with
  | "role", ⟨none, content⟩ => (Role.ofJson? m.2).map (⟨some ·, content⟩)
  | "content", ⟨role, none⟩ => (Content.ofJson? m.2).map (⟨role, some ·⟩)
  | _, _ => none

theorem readField_takesIn (bound room : Nat) :
    TakesIn (readField bound room) Fields.take (TextOf room) bound := by
  rintro st ⟨name, v⟩ st' b b' t rest htake hb hb' ht hlength hrest
  unfold Fields.take at htake
  split at htake
  case h_1 content hname =>
    obtain ⟨role, hrole, rfl⟩ := Option.map_eq_some_iff.mp htake
    have hread := readField_append (Role.read_textOf bound room) "role" hb hb' ⟨v, hrole, ht⟩
      hlength hrest
    simp only at hname
    subst hname
    simp only [readField, if_true, hread, ok_bind]
  case h_2 role hname =>
    obtain ⟨content, hcontent, rfl⟩ := Option.map_eq_some_iff.mp htake
    have hread := readField_append (Content.read_textOf bound room) "content" hb hb'
      ⟨v, hcontent, ht⟩ hlength hrest
    have hother : "content" ≠ "role" := by decide
    simp only at hname
    subst hname
    simp only [readField, if_neg hother, if_true, hread, ok_bind]
  case h_3 => cases htake

/-- Every text of a message's value is read as that message. -/
theorem read_textOf (bound room : Nat) :
    Reads (Message.read bound room) (fun m t => TextOf room m.toJson t) bound := by
  intro m b s rest hb hs hlength hrest
  obtain ⟨room, t, rfl, ht, rfl⟩ := TextOf.of_object hs
  -- On values alone the two members make up the message.
  have htaken : [("role", Json.string m.role.name), ("content", m.content.toJson)].foldlM
      Fields.take ⟨none, none⟩ = some ⟨some m.role, some m.content⟩ := by
    simp [Fields.take, Role.ofJson?, Json.string?, Role.ofName?_name, Content.ofJson?_toJson]
  have hcount := ht.length_le fun _ _ h => h.length_pos
  simp only [List.length_cons, List.length_append, List.length_nil] at hlength hcount
  have hbound : 2 ≤ bound := by omega
  obtain ⟨b', hb', hread⟩ := foldMembers_listed (@readField_takesIn bound room) ht htaken hbound
    (by omega) rest
  unfold Message.read
  refine readRecord_object hb hb' ?_
  simp only [hread, ok_bind, require]

end Message
end ModelChat
