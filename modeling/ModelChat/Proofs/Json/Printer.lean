import Mathlib.Data.List.Forall2
import ModelChat.Proofs.Json.Grammar
import ModelChat.Proofs.Json.NumberPrinter

/-! Printed values. Main statements: what is printed without blanks is a text of an array or object
if its parts are printed as texts of their values. -/
namespace ModelChat.Json
open Text

theorem encode_compact (v : Json) : Utf8.encode v.compact = Utf8.encodeChars (compactText v) := by
  rw [Utf8.encode, compact, String.toList_ofList]

/-- The first value is printed as a text of the second one. -/
def Prints (room : Nat) (v w : Json) : Prop :=
  TextOf room w (Utf8.encodeChars (compactText v))

theorem prints_string (room : Nat) (s : String) : Prints room (.string s) (.string s) := by
  obtain ⟨t, ht, hquoted⟩ := stringText_quoted s
  rw [Prints, compactText, ht]
  exact .scalar (.string hquoted)

theorem prints_integer (room : Nat) {i : Int} (h : IsWord i) :
    Prints room (.integer i) (.integer i) :=
  .scalar (.number (integerText_numeral i) (integerNumeral_value h))

/-- A finite number is printed as a text of what is read from it alone. -/
theorem prints_real (room : Nat) {x : Float} (hx : x.isFinite = true) {v : Json}
    (h : parse (Utf8.encodeChars (realText x)) = .ok v) : Prints room (.real x) v := by
  obtain ⟨n, hn⟩ := realText_of_finite hx
  exact .scalar (.number hn ((parse_number hn).mp h))

theorem prints_not_finite (room : Nat) {x : Float} (hx : x.isFinite = false) :
    Prints room (.real x) .null := by
  rw [Prints, compactText, realText_of_not_finite hx]
  exact .scalar .null

theorem blank_nil : Blank [] :=
  List.forall_mem_nil _

private theorem lead_comma : Lead false [','.toUInt8] :=
  .next blank_nil blank_nil

/-- An ASCII character is one byte of its own. -/
theorem encodeChars_cons {c : Char} (hc : c.toNat < 0x80) (cs : List Char) :
    Utf8.encodeChars (c :: cs) = c.toUInt8 :: Utf8.encodeChars cs := by
  rw [Utf8.encodeChars, List.flatMap_cons, Utf8.encodeChar_of_ascii hc]
  rfl

section Items
variable {room : Nat}

private theorem listed_items {vs ws : List Json} (h : List.Forall₂ (Prints room) vs ws) :
    Listed (TextOf room) false ws (Utf8.encodeChars (compactItems vs)) := by
  induction h with
  | nil => exact .nil blank_nil
  | cons hv _ ih =>
    rw [compactItems, List.cons_append, encodeChars_cons (by decide), Utf8.encodeChars_append]
    exact .cons lead_comma hv ih

theorem prints_array {vs ws : List Json} (h : List.Forall₂ (Prints room) vs ws) :
    Prints (room + 1) (.array vs) (.array ws) := by
  refine .inr (.inl ⟨ws, ?_⟩)
  cases h with
  | nil => exact ⟨[], rfl, .nil blank_nil, rfl⟩
  | @cons v w vs ws hv hvs =>
    refine ⟨_, rfl, .cons (.first blank_nil) hv (listed_items hvs), ?_⟩
    rw [compactText, List.cons_append, List.cons_append, encodeChars_cons (by decide),
      Utf8.encodeChars_append, Utf8.encodeChars_append]
    rfl

end Items

section Members
variable {α : Type} {P : α → Bytes → Prop}

/-- A member is printed as a text of the other one. -/
def PrintsMember (P : α → Bytes → Prop) (m : String × Json) (k : String × α) : Prop :=
  m.1 = k.1 ∧ P k.2 (Utf8.encodeChars (compactText m.2))

private theorem member_text {m : String × Json} {k : String × α} (h : PrintsMember P m k) :
    Member P k (Utf8.encodeChars (stringText m.1 ++ ':' :: compactText m.2)) := by
  obtain ⟨name, v⟩ := m
  obtain ⟨name', w⟩ := k
  obtain ⟨rfl, hv⟩ := h
  obtain ⟨q, hq, hquoted⟩ := stringText_quoted name
  rw [Utf8.encodeChars_append, hq, encodeChars_cons (by decide)]
  exact .mk hquoted blank_nil blank_nil hv

private theorem listed_members {ms : List (String × Json)} {ks : List (String × α)}
    (h : List.Forall₂ (PrintsMember P) ms ks) :
    Listed (Member P) false ks (Utf8.encodeChars (compactMembers ms)) := by
  induction h with
  | nil => exact .nil blank_nil
  | @cons m k ms ks hm _ ih =>
    have hsplit : Utf8.encodeChars (compactMembers (m :: ms)) = [','.toUInt8] ++
        (Utf8.encodeChars (stringText m.1 ++ ':' :: compactText m.2) ++
          Utf8.encodeChars (compactMembers ms)) := by
      rw [← Utf8.encodeChars_append, compactMembers, List.cons_append, List.cons_append,
        encodeChars_cons (by decide)]
      rfl
    rw [hsplit]
    exact .cons lead_comma (member_text hm) ih

/-- An object is printed as its members between brackets. -/
theorem object_listed {ms : List (String × Json)} {ks : List (String × α)}
    (h : List.Forall₂ (PrintsMember P) ms ks) :
    ∃ t, Listed (Member P) true ks t ∧ Utf8.encodeChars (compactText (.object ms)) =
      Bracket.brace.opening :: (t ++ [Bracket.brace.closing]) := by
  cases h with
  | nil => exact ⟨[], .nil blank_nil, rfl⟩
  | @cons m k ms ks hm hms =>
    refine ⟨_, .cons (.first blank_nil) (member_text hm) (listed_members hms), ?_⟩
    have hsplit : compactText (.object (m :: ms)) = '\x7b' :: ((stringText m.1 ++
        ':' :: compactText m.2) ++ compactMembers ms ++ ['\x7d']) := by
      simp [compactText]
    rw [hsplit, encodeChars_cons (by decide), Utf8.encodeChars_append, Utf8.encodeChars_append]
    rfl

theorem Prints.member {room : Nat} {v w : Json} (h : Prints room v w) (name : String) :
    PrintsMember (TextOf room) (name, v) (name, w) :=
  ⟨rfl, h⟩

theorem prints_object {room : Nat} {ms ks : List (String × Json)}
    (h : List.Forall₂ (PrintsMember (TextOf room)) ms ks) :
    Prints (room + 1) (.object ms) (.object ks) := by
  obtain ⟨t, ht, htext⟩ := object_listed h
  exact .inr (.inr ⟨ks, t, rfl, ht, htext⟩)

end Members

end ModelChat.Json
