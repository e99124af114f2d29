import ModelChat.Json.Record
import ModelChat.Proofs.Json.Grammar

/-! Records as they stand in JSON texts. Main statement: a reader that takes in one member at a
time takes in every text of members, whatever its layout. -/
namespace ModelChat.Json
open Text

/-- Numerals hold numbers. -/
theorem Numeral.value_number {n : Numeral} {v : Json} (h : n.value = .ok v) :
    (∃ i, v = .integer i) ∨ ∃ x, v = .real x := by
  unfold Numeral.value at h
  simp only at h
  repeat' split at h
  all_goals first
    | cases h; done
    | exact .inl ⟨_, (Except.ok.inj h).symm⟩
    | exact .inr ⟨_, (Except.ok.inj h).symm⟩

section Inversion
variable {room : Nat} {s : Bytes}

theorem TextOf.of_string {text : String} (h : TextOf room (.string text) s) :
    ∃ q, s = '"'.toUInt8 :: q ∧ Quoted text q := by
  have hscalar (h : Scalar (.string text) s) : ∃ q, s = '"'.toUInt8 :: q ∧ Quoted text q := by
    cases h with
    | number _ hv => rcases Numeral.value_number hv with ⟨i, hi⟩ | ⟨x, hx⟩ <;> contradiction
    | string hq => exact ⟨_, rfl, hq⟩
  cases room with
  | zero => exact hscalar h
  | succ room =>
    rcases h with h | ⟨_, _, hv, -⟩ | ⟨_, _, hv, -⟩
    · exact hscalar h
    · cases hv
    · cases hv

theorem TextOf.of_array {items : List Json} (h : TextOf room (.array items) s) :
    ∃ room' t, room = room' + 1 ∧ Listed (TextOf room') true items t ∧
      s = Bracket.square.opening :: (t ++ [Bracket.square.closing]) := by
  have hscalar (h : Scalar (.array items) s) : False := by
    cases h with
    | number _ hv => rcases Numeral.value_number hv with ⟨i, hi⟩ | ⟨x, hx⟩ <;> contradiction
  cases room with
  | zero => exact (hscalar h).elim
  | succ room =>
    rcases h with h | ⟨_, t, hv, ht, hs⟩ | ⟨_, _, hv, -⟩
    · exact (hscalar h).elim
    · cases hv
      exact ⟨room, t, rfl, ht, hs⟩
    · cases hv

theorem TextOf.of_object {members : List (String × Json)} (h : TextOf room (.object members) s) :
    ∃ room' t, room = room' + 1 ∧ Listed (Member (TextOf room')) true members t ∧
      s = Bracket.brace.opening :: (t ++ [Bracket.brace.closing]) := by
  have hscalar (h : Scalar (.object members) s) : False := by
    cases h with
    | number _ hv => rcases Numeral.value_number hv with ⟨i, hi⟩ | ⟨x, hx⟩ <;> contradiction
  cases room with
  | zero => exact (hscalar h).elim
  | succ room =>
    rcases h with h | ⟨_, _, hv, -⟩ | ⟨_, t, hv, ht, hs⟩
    · exact (hscalar h).elim
    · cases hv
    · cases hv
      exact ⟨room, t, rfl, ht, hs⟩

end Inversion

section Fields
variable {α σ : Type} {P : α → Bytes → Prop} {bound : Nat}

/-- A step takes in a member where `next` gives the state after it. -/
def TakesIn (step : σ → String → Reader σ) (next : σ → String × α → Option σ)
    (P : α → Bytes → Prop) (bound : Nat) : Prop :=
  ∀ {st m st' b b' t rest}, next st m = some st' → Blank b → Blank b' → P m.2 t →
    t.length ≤ bound → EndsNumber rest →
    step st m.1 (b ++ ':'.toUInt8 :: (b' ++ (t ++ rest))) = .ok (st', rest)

/-- Members are taken in one after another. -/
theorem foldMembers_listed {step : σ → String → Reader σ} {next : σ → String × α → Option σ}
    (hstep : TakesIn step next P bound) {first : Bool} {ms : List (String × α)} {s : Bytes}
    (h : Listed (Member P) first ms s) {st st' : σ} (hnext : ms.foldlM next st = some st')
    {n : Nat} (hn : ms.length ≤ n) (hs : s.length ≤ bound) (rest : Bytes) :
    ∃ b, Blank b ∧ foldMembers step n first st (s ++ Bracket.brace.closing :: rest) =
      .ok (st', b ++ Bracket.brace.closing :: rest) := by
  induction h generalizing n st with
  | @nil first b hb =>
    obtain rfl := Option.some.inj hnext
    refine ⟨b, hb, ?_⟩
    cases n with
    | zero => rfl
    | succ n => rw [foldMembers, nextName_end hb, ok_bind]; rfl
  | @cons first m ms lead t s hlead ht hmore ih =>
    obtain ⟨n, rfl⟩ : ∃ m, n = m + 1 := ⟨n - 1, by simp only [List.length_cons] at hn; omega⟩
    simp only [List.length_append, List.length_cons] at hn hs
    simp only [List.foldlM_cons, Option.bind_eq_bind, Option.bind_eq_some_iff] at hnext
    obtain ⟨st₁, hone, hall⟩ := hnext
    obtain ⟨b, hb, hread⟩ := ih hall (n := n) (by omega) (by omega)
    refine ⟨b, hb, ?_⟩
    cases ht with
    | @mk name a q c c' u hq hc hc' hu =>
      simp only [List.length_cons, List.length_append] at hs
      have htaken := hstep hone hc hc' hu (by omega)
        (hmore.endsNumber (Bracket.goesOn_closing .brace) rest)
      simp only at htaken
      simp only [foldMembers, List.append_assoc, List.cons_append, nextName_append hlead hq,
        ok_bind, htaken, hread]

/-- A member that came once is read like its value. -/
theorem readField_append {read : Reader α} (hread : Reads read P bound) (name : String)
    {a : α} {b b' t rest : Bytes} (hb : Blank b) (hb' : Blank b') (ht : P a t)
    (hlength : t.length ≤ bound) (hrest : EndsNumber rest) :
    readField name none read (b ++ ':'.toUInt8 :: (b' ++ (t ++ rest))) = .ok (some a, rest) := by
  simp only [readField, readColon_append hb, ok_bind, hread hb' ht hlength hrest]

/-- A record given as an object is read when its members are taken in. -/
theorem readRecord_object {expected : String} {asArray asObject : Nat → Reader α} {room : Nat}
    {a : α} {b t rest b' : Bytes} (hb : Blank b) (hb' : Blank b')
    (h : asObject room (t ++ Bracket.brace.closing :: rest) =
      .ok (a, b' ++ Bracket.brace.closing :: rest)) :
    readRecord expected asArray asObject (room + 1)
      (b ++ (Bracket.brace.opening :: (t ++ [Bracket.brace.closing]) ++ rest)) = .ok (a, rest) := by
  simp only [readRecord, List.cons_append, List.append_assoc, List.nil_append,
    skipBlanks_append hb (Bracket.isBlank_opening .brace), if_neg Bracket.brace_ne_square, if_true,
    enclosed_append hb' h]

end Fields

section Names
variable {b q : Bytes} {text : String} (hb : Blank b) (hq : Quoted text q)
include hb hq

theorem readStringOr_append (expected : String) (rest : Bytes) :
    readStringOr expected (b ++ '"'.toUInt8 :: (q ++ rest)) = .ok (text, rest) := by
  simp only [readStringOr, skipBlanks_append hb isBlank_quote, if_true, readString_append hq]

theorem readName_append {α : Type} (names : List String) {find : String → Option α} {v : α}
    (h : find text = some v) (rest : Bytes) :
    readName names find (b ++ '"'.toUInt8 :: (q ++ rest)) = .ok (v, rest) := by
  simp only [readName, readStringOr_append hb hq, h]

end Names

section Skipping

/-- Texts in the form of a value without brackets; numbers may be out of range. -/
inductive ScalarForm : Bytes → Prop
  | scalar {v : Json} {s : Bytes} : Scalar v s → ScalarForm s
  | number {n : Numeral} {s : Bytes} : n.Text s → ScalarForm s

private theorem skipScalar_digit {c : UInt8} (hc : isDigit c = true) (s : Bytes) :
    skipScalar c s = skipNumber (c :: s) := by
  have hother (d : UInt8) (hd : isDigit d = false) : c ≠ d := ne_of_isDigit hc hd
  simp only [skipScalar, if_pos hc, if_neg (hother 'n'.toUInt8 (by decide)),
    if_neg (hother 't'.toUInt8 (by decide)), if_neg (hother 'f'.toUInt8 (by decide)),
    if_neg (hother '-'.toUInt8 (by decide))]

private theorem skipScalar_number {n : Numeral} {s : Bytes} (h : n.Text s) {rest : Bytes}
    (hrest : EndsNumber rest) :
    ∃ c t, s = c :: t ∧ BeginsScalar c ∧ skipScalar c (t ++ rest) = .ok rest := by
  obtain ⟨t, ht, rfl⟩ := h
  have hskip := skipNumber_of_readNumeral (readNumeral_append ht hrest)
  cases n.negative with
  | true => exact ⟨'-'.toUInt8, t, rfl, beginsScalar_number (.inl rfl), hskip⟩
  | false =>
    obtain ⟨c, u, rfl, hc⟩ := ht.head
    refine ⟨c, u, rfl, beginsScalar_number (.inr hc), ?_⟩
    rw [skipScalar_digit hc]
    exact hskip

theorem skipScalar_append {s : Bytes} (h : ScalarForm s) {rest : Bytes} (hrest : EndsNumber rest) :
    ∃ c t, s = c :: t ∧ BeginsScalar c ∧ skipScalar c (t ++ rest) = .ok rest := by
  cases h with
  | number h => exact skipScalar_number h hrest
  | scalar h =>
    cases h with
    | number h _ => exact skipScalar_number h hrest
    | null =>
      exact ⟨'n'.toUInt8, Utf8.encode "ull", by decide, by decide, readWord_append _ rest⟩
    | true =>
      exact ⟨'t'.toUInt8, Utf8.encode "rue", by decide, by decide, readWord_append _ rest⟩
    | false =>
      exact ⟨'f'.toUInt8, Utf8.encode "alse", by decide, by decide, readWord_append _ rest⟩
    | string h =>
      exact ⟨'"'.toUInt8, _, rfl, by decide, skipString_append h rest⟩

/-- A member whose value has no brackets is passed over, whatever its value. -/
theorem skipField_append {b b' s rest : Bytes} (hb : Blank b) (hb' : Blank b') (h : ScalarForm s)
    (hrest : EndsNumber rest) :
    skipField (b ++ ':'.toUInt8 :: (b' ++ (s ++ rest))) = .ok rest := by
  obtain ⟨c, t, rfl, hc, hskip⟩ := skipScalar_append h hrest
  simp only [skipField, readColon_append hb, ok_bind, skipValue, skipWithin, List.cons_append,
    skipBlanks_append hb' hc.blank, if_neg hc.square, if_neg hc.brace, hskip]

end Skipping

end ModelChat.Json
