import ModelChat.Proofs.Json.Meaning
import ModelChat.Proofs.Message.Reader

/-! What the texts of any values are read as. Main statements: roles, contents, parts and messages
are read for the value of a text, and values that stand for none of them are refused. -/
namespace ModelChat
open Json

namespace Role
variable {room bound : Nat}

/-- The role that a value stands for: its name, or an object with that name and no value. -/
def ofValue? : Json → Option Role
  | .object [(name, .null)] => ofName? name
  | v => ofJson? v

private theorem ofValue?_object {name : String} {v : Json} {members : List (String × Json)}
    (h : v ≠ .null ∨ members ≠ [] ∨ ofName? name = none) :
    ofValue? (.object ((name, v) :: members)) = none := by
  unfold ofValue?
  split
  next heq =>
    cases heq
    rcases h with h | h | h
    · exact absurd rfl h
    · exact absurd rfl h
    · exact h
  next => rfl

private theorem read_other {v : Json} {b t : Bytes} (hb : Blank b) (ht : TextOf room v t)
    (hother : (∀ text, v ≠ .string text) ∧ ∀ members, v ≠ .object members) (rest : Bytes) :
    (Role.read bound room (b ++ (t ++ rest))).toOption = none := by
  obtain ⟨c, u, rfl, hblank, hquote, -, hbrace⟩ := ht.head
  have hc : c ≠ '"'.toUInt8 := fun hc => (hquote hc).elim hother.1
  have hc' : c ≠ Bracket.brace.opening := fun hc => (hbrace hc).elim hother.2
  simp only [Role.read, List.cons_append, skipBlanks_append hb hblank, if_neg hc, if_pos hc']
  rfl

/-- Reads what stands behind the name of a role in an object: no value, and the end. -/
def readNoValue (role : Role) (s : Bytes) : Except Fault (Role × Bytes) := do
  match skipBlanks (← readColon s) with
  | [] => .error (faultHere .endInValue [])
  | c :: s =>
    if c ≠ 'n'.toUInt8 then .error (otherType "unit" c s)
    else
      let (_, s) ← readScalar c s
      match skipBlanks s with
      | [] => .error (faultBefore .endInObject [])
      | c :: s =>
        if c = Bracket.brace.closing then .ok (role, s)
        else .error (faultBefore .expectedValue (c :: s))

private theorem read_empty {b lead : Bytes} (hb : Blank b) (hlead : Blank lead) (rest : Bytes) :
    (Role.read bound (room + 1) (b ++ Bracket.brace.opening ::
      (lead ++ Bracket.brace.closing :: rest))).toOption = none := by
  simp only [Role.read, skipBlanks_append hb (Bracket.isBlank_opening .brace),
    if_neg (Bracket.opening_ne_quote .brace), ne_eq, not_true_eq_false, if_false,
    Nat.add_one_ne_zero, skipBlanks_append hlead (Bracket.isBlank_closing .brace)]
  rfl

private theorem read_named {b lead q : Bytes} {name : String} (hb : Blank b) (hlead : Blank lead)
    (hq : Quoted name q) (s : Bytes) :
    (Role.read bound (room + 1) (b ++ Bracket.brace.opening ::
      (lead ++ '"'.toUInt8 :: (q ++ s)))).toOption =
        (ofName? name).bind fun role => (readNoValue role s).toOption := by
  have hname := readName_quoted (Role.all.map Role.name) ofName? blank_nil hq s
  rw [List.nil_append] at hname
  simp only [Role.read, skipBlanks_append hb (Bracket.isBlank_opening .brace),
    if_neg (Bracket.opening_ne_quote .brace), ne_eq, not_true_eq_false, if_false,
    Nat.add_one_ne_zero, skipBlanks_append hlead isBlank_quote, true_or, if_true]
  rw [toOption_bind, hname]
  cases ofName? name <;> rfl

section Values
variable {role : Role} {c c' : Bytes} (hc : Blank c) (hc' : Blank c')
include hc hc'

/-- The word is read to its end, and nothing but the closing bracket may follow. -/
private theorem readNoValue_null {b : Bytes} (hb : Blank b) {d : UInt8} (hd : isBlank d = false)
    (rest : Bytes) :
    (readNoValue role (c ++ ':'.toUInt8 ::
      (c' ++ (Text.Utf8.encode "null" ++ (b ++ d :: rest))))).toOption =
        if d = Bracket.brace.closing then some (role, rest) else none := by
  have hblank : isBlank 'n'.toUInt8 = false := rfl
  have hword : Text.Utf8.encode "null" = 'n'.toUInt8 :: Text.Utf8.encode "ull" := by decide
  rw [hword, List.cons_append]
  simp only [readNoValue, readColon_append hc, ok_bind, skipBlanks_append hc' hblank, ne_eq,
    not_true_eq_false, if_false, readScalar_null, skipBlanks_append hb hd]
  by_cases hclose : d = Bracket.brace.closing
  · rw [if_pos hclose, if_pos hclose]
    rfl
  · rw [if_neg hclose, if_neg hclose]
    rfl

/-- Any other value is refused at its first byte. -/
private theorem readNoValue_other {v : Json} {t : Bytes} (ht : TextOf room v t) (hv : v ≠ .null)
    (rest : Bytes) :
    (readNoValue role (c ++ ':'.toUInt8 :: (c' ++ (t ++ rest)))).toOption = none := by
  obtain ⟨x, u, rfl, hblank, -, hletter, -⟩ := ht.head
  have hx : x ≠ 'n'.toUInt8 := fun hx => hv (hletter hx)
  simp only [readNoValue, readColon_append hc, ok_bind, List.cons_append,
    skipBlanks_append hc' hblank, if_pos hx]
  rfl

end Values

private theorem read_object {members : List (String × Json)} {b t : Bytes} (hb : Blank b)
    (ht : TextOf room (.object members) t) (rest : Bytes) :
    (Role.read bound room (b ++ (t ++ rest))).toOption =
      (ofValue? (.object members)).map (·, rest) := by
  obtain ⟨room, u, rfl, hu, rfl⟩ := ht.of_object
  simp only [List.cons_append, List.append_assoc, List.nil_append]
  cases hu with
  | nil hlead => exact read_empty hb hlead rest
  | @cons _ m ms lead t s hlead hm hmore =>
    cases hlead with
    | first hlead =>
      cases hm with
      | @mk name v q c c' u hq hc hc' hu =>
        simp only [List.cons_append, List.append_assoc]
        rw [read_named hb hlead hq]
        cases hrole : ofName? name with
        | none =>
          rw [ofValue?_object (.inr (.inr hrole))]
          rfl
        | some role =>
          rw [Option.bind_some]
          by_cases hnull : v = .null
          · subst hnull
            obtain rfl := hu.of_null
            cases hmore with
            | nil hs =>
              rw [readNoValue_null hc hc' hs (Bracket.isBlank_closing .brace), if_pos rfl]
              change _ = (ofName? name).map (·, rest)
              rw [hrole]
              rfl
            | cons hlead =>
              cases hlead with
              | next hlead =>
                simp only [List.append_assoc, List.cons_append]
                rw [readNoValue_null hc hc' hlead isBlank_comma,
                  if_neg (Bracket.comma_ne_closing .brace),
                  ofValue?_object (.inr (.inl (List.cons_ne_nil _ _)))]
                rfl
          · rw [readNoValue_other hc hc' hu hnull, ofValue?_object (.inl hnull)]
            rfl

theorem read_goesBy : GoesBy (Role.read bound room) ofValue? room bound := by
  intro v b t rest hb ht _ _
  cases v with
  | string text =>
    obtain ⟨q, rfl, hq⟩ := ht.of_string
    have hname := readName_quoted (Role.all.map Role.name) ofName? blank_nil hq rest
    simp only [Role.read, List.cons_append, skipBlanks_append hb isBlank_quote, if_true]
    exact hname
  | object members => exact read_object hb ht rest
  | _ => exact read_other hb ht (by simp) rest

end Role

/-- Of the members of a value read before, one has the name. -/
theorem onlyField_toOption {α : Type} (name : String) (value : Json → Except Problem α)
    (members : List (String × Json)) : (onlyField name value members).toOption =
      once name (fun v => (value v).toOption) members := by
  rw [onlyField, toOption_bind, toOption_foldlM, ← foldlM_learn]
  have hlearn : (fun (known : Option α) (m : String × Json) => (if m.1 ≠ name then .ok known
      else if known.isSome then .error (.repeated name)
      else (value m.2).map some : Except Problem (Option α)).toOption) =
      learn name fun v => (value v).toOption := by
    funext known m
    unfold learn
    by_cases hname : m.1 = name
    · cases known with
      | some a => simp [hname]
      | none => cases hvalue : value m.2 <;> simp [hname, hvalue, Except.map]
    · simp [hname]
  rw [← hlearn]
  apply Option.bind_congr
  intro known _
  cases known <;> rfl

namespace Content
variable {room bound : Nat}

theorem read_goesBy : GoesBy (Content.read bound room) ofJson? room bound := by
  intro v b t rest hb ht hlength hrest
  rw [Content.read, toOption_bind, readValue_goesBy bound room hb ht hlength hrest]
  simp only [Option.map_some, Option.bind_some]
  cases ofJson? v <;> rfl

end Content

namespace ContentPart
variable {room bound : Nat}

/-- The part that a value stands for, or what is wrong with it, if `kindOf` tells its kind. -/
def judge? (kindOf : Json → Option Kind) : Json → Option (Except Problem ContentPart)
  | .object members => (once kindField kindOf members).map fun kind =>
    ofMembers kind (members.filter (·.1 ≠ kindField))
  | .array (v :: items) => (kindOf v).map (ofItems · items)
  | _ => none

def ofValue? (kindOf : Json → Option Kind) (v : Json) : Option ContentPart :=
  (judge? kindOf v).bind Except.toOption

/-- The kind that a value names by text. -/
def Kind.named? (v : Json) : Option Kind :=
  v.string?.bind ofName?

theorem splitKind_eq (members : List (String × Json)) : splitKind members =
    (once kindField Kind.ofJson? members).map (·, members.filter (·.1 ≠ kindField)) := by
  have hname : "type" = kindField := rfl
  simp only [splitKind, once, hname]
  cases members.filter (·.1 = kindField) with
  | nil => rfl
  | cons m others => cases others <;> rfl

theorem ofJson?_eq (v : Json) : ofJson? v = ofValue? Kind.ofJson? v := by
  cases v with
  | object members =>
    simp only [ofJson?, splitKind_eq, ofValue?, judge?]
    cases once kindField Kind.ofJson? members <;> rfl
  | array items =>
    cases items with
    | nil => rfl
    | cons v items =>
      simp only [ofJson?, ofValue?, judge?]
      cases Kind.ofJson? v <;> rfl
  | _ => rfl

/-- The part of a kind that the value of its field stands for. -/
def Kind.field? : Kind → Json → Option ContentPart
  | .text, v => (textOf v).toOption.map .text
  | .imageUrl, v => (imageUrlOf v).toOption.map .imageUrl

theorem Kind.name_ne (kind : Kind) : kind.name ≠ kindField := by
  cases kind <;> decide

/-- A part given as an object has its kind once, and the field of that kind once. -/
theorem ofValue?_object (kindOf : Json → Option Kind) (members : List (String × Json)) :
    ofValue? kindOf (.object members) =
      (once kindField kindOf members).bind fun kind => once kind.name kind.field? members := by
  have hfield (kind : Kind) :
      (ofMembers kind (members.filter (·.1 ≠ kindField))).toOption =
        once kind.name kind.field? members := by
    rw [← once_filter_ne kind.name_ne]
    cases kind with
    | text =>
      rw [ofMembers, toOption_map, onlyField_toOption, once_map]
      rfl
    | imageUrl =>
      rw [ofMembers, toOption_map, onlyField_toOption, once_map]
      rfl
  rw [ofValue?, judge?]
  cases once kindField kindOf members with
  | none => rfl
  | some kind => exact hfield kind

/-- The other members after one more. -/
def keepOther (others : List (String × Json)) (m : String × Json) : List (String × Json) :=
  if m.1 = kindField then others else others ++ [m]

theorem foldlM_keepOther (members others : List (String × Json)) :
    members.foldlM (fun others m => some (keepOther others m)) others =
      some (others ++ members.filter (·.1 ≠ kindField)) := by
  induction members generalizing others with
  | nil => simp
  | cons m members ih =>
    by_cases hname : m.1 = kindField
    · simpa [keepOther, hname] using ih others
    · simpa [keepOther, hname] using ih (others ++ [m])

theorem readKind_goesBy : GoesBy readKind Kind.named? room bound :=
  readName_goesBy (Kind.all.map Kind.name) Kind.ofName?

theorem readMember_goesBy : StepGoesBy (readMember bound room)
    (fun st m => (learn kindField Kind.named? st.kind m).map (⟨·, keepOther st.others m⟩))
    room bound := by
  rintro st ⟨name, v⟩ b b' t rest hb hb' ht hlength hrest
  by_cases hname : name = kindField
  · have hread := readField_goesBy readKind_goesBy kindField st.kind hb hb' ht hlength hrest
    subst hname
    simp only [readMember, if_true, toOption_bind, hread]
    cases learn kindField Kind.named? st.kind (kindField, v) <;>
      simp [keepOther, Except.toOption]
  · simp only [readMember, if_neg hname, toOption_bind, readColon_append hb, ok_bind,
      readValue_goesBy bound room hb' ht hlength hrest]
    simp [learn, keepOther, hname, Except.toOption]

/-- The members of a part give its kind, if that is there once, and the others in their order. -/
private theorem foldlM_members (members : List (String × Json)) :
    ((members.foldlM (fun (st : Members) m =>
      (learn kindField Kind.named? st.kind m).map (⟨·, keepOther st.others m⟩)) ⟨none, []⟩).bind
        fun st => st.kind.map (·, st.others)) =
      (once kindField Kind.named? members).map (·, members.filter (·.1 ≠ kindField)) := by
  rw [foldlM_pair Members.mk (learn kindField Kind.named?)
    (fun others m => some (keepOther others m)) fun kind others m => ?_, foldlM_keepOther,
    ← foldlM_learn]
  · cases members.foldlM (learn kindField Kind.named?) none with
    | none => rfl
    | some kind => cases kind <;> rfl
  · cases learn kindField Kind.named? kind m <;> rfl

private theorem bind_judged {rest : Bytes}
    {f : Except Problem ContentPart × Bytes → Option (ContentPart × Bytes)}
    (hok : ∀ part, f (.ok part, rest) = some (part, rest))
    (herror : ∀ problem, f (.error problem, rest) = none)
    (x : Option (Except Problem ContentPart)) :
    (x.map (·, rest)).bind f = (x.bind Except.toOption).map (·, rest) := by
  cases x with
  | none => rfl
  | some outcome =>
    cases outcome with
    | ok part => exact hok part
    | error problem => exact herror problem

private theorem read_array {items : List Json} {b t : Bytes} (hb : Blank b)
    (ht : TextOf room (.array items) t) (hlength : t.length ≤ bound) (rest : Bytes) :
    (ContentPart.read bound room (b ++ (t ++ rest))).toOption =
      (ofValue? Kind.named? (.array items)).map (·, rest) := by
  obtain ⟨room, u, rfl, hu, rfl⟩ := ht.of_array
  simp only [List.length_cons, List.length_append, List.length_nil] at hlength
  simp only [ContentPart.read, toOption_bind, ofValue?]
  cases hu with
  | nil hb' =>
    rw [readRecord_square (x := none) hb hb' ?_]
    · rfl
    · rw [nextItem_end hb']
      rfl
  | @cons _ w items lead t s hlead hw hmore =>
    obtain ⟨c, t', rfl, hblank, hclose⟩ := hw.begins
    have hcount := hmore.length_le fun _ _ h => h.begins.length_pos
    simp only [List.length_append, List.length_cons] at hlength
    obtain ⟨b', hb', hitems⟩ := readItems_listed (readValue_textOf bound room)
      (fun _ _ h => h.begins) hmore (n := bound) (by omega) (by omega) rest
    -- The kind is read from the first item's own text, the others as values.
    have hkind := readKind_goesBy (b := []) (List.forall_mem_nil _) hw (Nat.le_refl _)
      (hmore.endsNumber (Bracket.goesOn_closing .square) rest)
    rw [List.nil_append, List.cons_append] at hkind
    rw [readRecord_square (x := judge? Kind.named? (.array (w :: items))) hb hb' ?_]
    · exact bind_judged (fun _ => rfl) (fun _ => rfl) _
    · simp only [List.append_assoc, List.cons_append, nextItem_append hlead hblank hclose,
        ok_bind, toOption_bind, hkind, judge?]
      cases Kind.named? w with
      | none => rfl
      | some kind =>
        simp only [Option.map_some, Option.bind_some, hitems]
        rfl

private theorem read_object {members : List (String × Json)} {b t : Bytes} (hb : Blank b)
    (ht : TextOf room (.object members) t) (hlength : t.length ≤ bound) (rest : Bytes) :
    (ContentPart.read bound room (b ++ (t ++ rest))).toOption =
      (ofValue? Kind.named? (.object members)).map (·, rest) := by
  obtain ⟨room, u, rfl, hu, rfl⟩ := ht.of_object
  simp only [List.length_cons, List.length_append, List.length_nil] at hlength
  have hcount := hu.length_le fun _ _ h => h.length_pos
  obtain ⟨b', hb', hfold⟩ := foldMembers_goesBy (@readMember_goesBy room bound) hu ⟨none, []⟩
    (n := bound) (by omega) (by omega) rest
  have hrequire (state : Option Members) (s : Bytes) : ((state.map (·, s)).bind fun p =>
      (require kindField p.1.kind p.2).toOption.bind fun kind =>
        (.ok (ofMembers kind p.1.others, p.2) : Except Fault _).toOption) =
      ((state.bind fun st => st.kind.map (·, st.others)).map fun p =>
        ofMembers p.1 p.2).map (·, s) := by
    cases state with
    | none => rfl
    | some st =>
      obtain ⟨kind, others⟩ := st
      cases kind <;> rfl
  simp only [ContentPart.read, toOption_bind, ofValue?]
  rw [readRecord_brace (x := judge? Kind.named? (.object members)) hb hb' ?_]
  · exact bind_judged (fun _ => rfl) (fun _ => rfl) _
  · simp only [toOption_bind, hfold]
    rw [hrequire, foldlM_members, judge?]
    cases once kindField Kind.named? members <;> rfl

theorem read_goesBy :
    GoesBy (ContentPart.read bound room) (ofValue? Kind.named?) room bound := by
  intro v b t rest hb ht hlength hrest
  cases v with
  | array items => exact read_array hb ht hlength rest
  | object members => exact read_object hb ht hlength rest
  | _ =>
    rw [ContentPart.read, toOption_bind, readRecord_plain hb (by trivial) ht hrest]
    rfl

end ContentPart

namespace Message
variable {room bound : Nat}

/-- The message that members stand for: each of the two fields is there once. -/
def ofMembers? (members : List (String × Json)) : Option Message :=
  (once "role" Role.ofValue? members).bind fun role =>
    (once "content" Content.ofJson? members).map (⟨role, ·⟩)

/-- The fields after one more member of any name. -/
def Fields.next (st : Fields) (m : String × Json) : Option Fields :=
  (learn "role" Role.ofValue? st.role m).bind fun role =>
    (learn "content" Content.ofJson? st.content m).map (⟨role, ·⟩)

theorem readField_goesBy : StepGoesBy (readField bound room) Fields.next room bound := by
  rintro ⟨role, content⟩ ⟨name, v⟩ b b' t rest hb hb' ht hlength hrest
  by_cases hrole : name = "role"
  · subst hrole
    have hread := Json.readField_goesBy Role.read_goesBy "role" role hb hb' ht hlength hrest
    have hother : "role" ≠ "content" := by decide
    have hcontent : learn "content" Content.ofJson? content ("role", v) = some content :=
      learn_of_ne hother
    simp only [readField, if_true, toOption_bind, hread, Fields.next, hcontent]
    cases learn "role" Role.ofValue? role ("role", v) <;> rfl
  by_cases hcontent : name = "content"
  · subst hcontent
    have hread := Json.readField_goesBy Content.read_goesBy "content" content hb hb' ht hlength
      hrest
    have hrole' : learn "role" Role.ofValue? role ("content", v) = some role := learn_of_ne hrole
    simp only [readField, if_neg hrole, if_true, toOption_bind, hread, Fields.next, hrole']
    cases learn "content" Content.ofJson? content ("content", v) <;> rfl
  · have hrole' : learn "role" Role.ofValue? role (name, v) = some role := learn_of_ne hrole
    have hcontent' : learn "content" Content.ofJson? content (name, v) = some content :=
      learn_of_ne hcontent
    simp only [readField, if_neg hrole, if_neg hcontent, skipField_textOf hb hb' ht hrest, ok_bind,
      Fields.next, hrole', hcontent']
    rfl

private theorem foldlM_fields (members : List (String × Json)) :
    ((members.foldlM Fields.next ⟨none, none⟩).bind fun st =>
      st.role.bind fun role => st.content.map (⟨role, ·⟩)) = ofMembers? members := by
  rw [foldlM_pair Fields.mk _ _ fun _ _ _ => rfl, ofMembers?, ← foldlM_learn,
    ← foldlM_learn]
  cases members.foldlM (learn "role" Role.ofValue?) none with
  | none => rfl
  | some role =>
    cases members.foldlM (learn "content" Content.ofJson?) none with
    | none => cases role <;> rfl
    | some content => rfl

/-- A message given as an object is read for the values of its members. -/
theorem read_object {members : List (String × Json)} {b t : Bytes} (hb : Blank b)
    (ht : TextOf room (.object members) t) (hlength : t.length ≤ bound) (rest : Bytes) :
    (Message.read bound room (b ++ (t ++ rest))).toOption =
      (ofMembers? members).map (·, rest) := by
  obtain ⟨room, u, rfl, hu, rfl⟩ := ht.of_object
  simp only [List.length_cons, List.length_append, List.length_nil] at hlength
  have hcount := hu.length_le fun _ _ h => h.length_pos
  obtain ⟨b', hb', hfold⟩ := foldMembers_goesBy (@readField_goesBy room bound) hu ⟨none, none⟩
    (n := bound) (by omega) (by omega) rest
  have hrequire (state : Option Fields) (s : Bytes) : ((state.map (·, s)).bind fun p =>
      (require "role" p.1.role p.2).toOption.bind fun role =>
        (require "content" p.1.content p.2).toOption.bind fun content =>
          (.ok (⟨role, content⟩, p.2) : Except Fault (Message × Bytes)).toOption) =
      (state.bind fun st => st.role.bind fun role => st.content.map (⟨role, ·⟩)).map (·, s) := by
    cases state with
    | none => rfl
    | some st =>
      obtain ⟨role, content⟩ := st
      cases role <;> cases content <;> rfl
  unfold Message.read
  refine readRecord_brace hb hb' ?_
  simp only [toOption_bind, hfold]
  rw [hrequire, foldlM_fields]

end Message
end ModelChat
