import ModelChat.Proofs.Json.Record

/-! Values nobody asks for. Main statement: every text of every value is passed over, with all that
is in its brackets. -/
namespace ModelChat.Json
open Text

/-- All texts up to a length are passed over, after blanks and before what ends a number. -/
def PassesOver {α : Type} (skip : Bytes → Except Fault Bytes) (P : α → Bytes → Prop)
    (bound : Nat) : Prop :=
  ∀ {a b t rest}, Blank b → P a t → t.length ≤ bound → EndsNumber rest →
    skip (b ++ (t ++ rest)) = .ok rest

section Brackets

theorem skipToNext_end {b : Bytes} (hb : Blank b) (bracket : Bracket) (first : Bool)
    (rest : Bytes) :
    skipToNext bracket first (b ++ bracket.closing :: rest) = .ok (true, rest) := by
  simp only [skipToNext, skipBlanks_append hb bracket.isBlank_closing, if_true]

/-- Before an item there may be blanks left over. -/
theorem skipToNext_item {first : Bool} {lead : Bytes} (h : Lead first lead) {c : UInt8}
    (hblank : isBlank c = false) (hclose : c ≠ ']'.toUInt8) (s : Bytes) :
    ∃ b, Blank b ∧ skipToNext .square first (lead ++ c :: s) = .ok (false, b ++ c :: s) := by
  cases h with
  | first hb =>
    have hclose : c ≠ Bracket.square.closing := hclose
    refine ⟨[], List.forall_mem_nil _, ?_⟩
    simp only [skipToNext, skipBlanks_append hb hblank, if_neg hclose]
    rfl
  | @next b b' hb hb' =>
    refine ⟨b', hb', ?_⟩
    simp only [List.append_assoc, List.cons_append, skipToNext, skipBlanks_append hb isBlank_comma,
      if_neg (Bracket.comma_ne_closing .square)]
    rfl

theorem skipName_append {name : String} {b q b' : Bytes} (hb : Blank b) (hq : Quoted name q)
    (hb' : Blank b') (s : Bytes) :
    skipName (b ++ '"'.toUInt8 :: (q ++ (b' ++ ':'.toUInt8 :: s))) = .ok s := by
  simp only [skipName, skipBlanks_append hb isBlank_quote, if_true, skipString_append hq,
    readColon_append hb']

theorem skipToNext_member {first : Bool} {lead : Bytes} (h : Lead first lead) {name : String}
    {q b : Bytes} (hq : Quoted name q) (hb : Blank b) (s : Bytes) :
    skipToNext .brace first (lead ++ '"'.toUInt8 :: (q ++ (b ++ ':'.toUInt8 :: s))) =
      .ok (false, s) := by
  cases h with
  | first hlead =>
    have hname := skipName_append (b := []) (List.forall_mem_nil _) hq hb s
    rw [List.nil_append] at hname
    simp only [skipToNext, skipBlanks_append hlead isBlank_quote,
      if_neg (Bracket.quote_ne_closing .brace)]
    simp [hname, Except.map]
  | next hlead hlead' =>
    simp only [List.append_assoc, List.cons_append, skipToNext,
      skipBlanks_append hlead isBlank_comma, if_neg (Bracket.comma_ne_closing .brace)]
    simp [skipName_append hlead' hq hb, Except.map]

variable {α : Type} {P : α → Bytes → Prop} {bound : Nat} {value : Bytes → Except Fault Bytes}
  {first : Bool} {s : Bytes}

theorem skipRest_items (hvalue : PassesOver value P bound) (hbegins : ∀ a t, P a t → Begins t)
    {as : List α} (h : Listed P first as s) {n : Nat} (hn : as.length < n) (hs : s.length ≤ bound)
    (rest : Bytes) :
    skipRest value .square n first (s ++ Bracket.square.closing :: rest) = .ok rest := by
  induction h generalizing n with
  | nil hb =>
    obtain ⟨n, rfl⟩ := Nat.exists_eq_add_of_lt hn
    rw [skipRest, skipToNext_end hb, ok_bind]
    rfl
  | @cons first a as lead t s hlead ht hmore ih =>
    obtain ⟨n, rfl⟩ : ∃ m, n = m + 1 := ⟨n - 1, by omega⟩
    simp only [List.length_append, List.length_cons] at hn hs
    -- The byte that begins the item shows that the array does not end here.
    obtain ⟨c, u, rfl, hblank, hclose⟩ := hbegins a t ht
    obtain ⟨b, hb, hnext⟩ := skipToNext_item hlead hblank hclose
      (u ++ (s ++ Bracket.square.closing :: rest))
    have hone := hvalue hb ht (by omega)
      (hmore.endsNumber (Bracket.goesOn_closing .square) rest)
    rw [List.cons_append] at hone
    simp only [skipRest, List.append_assoc, List.cons_append, hnext, ok_bind, hone]
    exact ih (by omega) (by omega)

theorem skipRest_members (hvalue : PassesOver value P bound) {ms : List (String × α)}
    (h : Listed (Member P) first ms s) {n : Nat} (hn : ms.length < n) (hs : s.length ≤ bound)
    (rest : Bytes) :
    skipRest value .brace n first (s ++ Bracket.brace.closing :: rest) = .ok rest := by
  induction h generalizing n with
  | nil hb =>
    obtain ⟨n, rfl⟩ := Nat.exists_eq_add_of_lt hn
    rw [skipRest, skipToNext_end hb, ok_bind]
    rfl
  | @cons first m ms lead t s hlead ht hmore ih =>
    obtain ⟨n, rfl⟩ : ∃ m, n = m + 1 := ⟨n - 1, by omega⟩
    simp only [List.length_append, List.length_cons] at hn hs
    cases ht with
    | @mk name a q b b' u hq hb hb' hu =>
      simp only [List.length_cons, List.length_append] at hs
      have hone := hvalue hb' hu (by omega)
        (hmore.endsNumber (Bracket.goesOn_closing .brace) rest)
      simp only [skipRest, List.append_assoc, List.cons_append, skipToNext_member hlead hq hb,
        ok_bind, hone]
      exact ih (by omega) (by omega)

end Brackets

section Values

theorem skipWithin_scalar {bound depth : Nat} {b s rest : Bytes} (hb : Blank b)
    (h : ScalarForm s) (hrest : EndsNumber rest) :
    skipWithin bound (depth + 1) (b ++ (s ++ rest)) = .ok rest := by
  obtain ⟨c, t, rfl, hc, hskip⟩ := skipScalar_append h hrest
  simp only [skipWithin, List.cons_append, skipBlanks_append hb hc.blank, if_neg hc.square,
    if_neg hc.brace, hskip]

/-- Brackets take at least two bytes, so that a text nests less deep than it is long. -/
theorem skipWithin_textOf {bound depth : Nat} (hdepth : depth ≤ bound) (room : Nat) :
    PassesOver (skipWithin bound (depth + 1)) (TextOf room) depth := by
  induction room generalizing depth with
  | zero =>
    intro v b s rest hb h _ hrest
    exact skipWithin_scalar hb (.scalar h) hrest
  | succ room ih =>
    intro v b s rest hb h hs hrest
    rcases h with h | ⟨items, t, rfl, ht, rfl⟩ | ⟨members, t, rfl, ht, rfl⟩
    · exact skipWithin_scalar hb (.scalar h) hrest
    · simp only [List.length_cons, List.length_append, List.length_nil] at hs
      obtain ⟨depth, rfl⟩ : ∃ d, depth = d + 1 := ⟨depth - 1, by omega⟩
      have hcount := ht.length_le fun _ _ h => h.begins.length_pos
      simp only [skipWithin, List.cons_append, List.append_assoc, List.nil_append,
        skipBlanks_append hb (Bracket.isBlank_opening .square), if_true]
      exact skipRest_items (ih (by omega)) (fun _ _ h => h.begins) ht (by omega) (by omega) rest
    · simp only [List.length_cons, List.length_append, List.length_nil] at hs
      obtain ⟨depth, rfl⟩ : ∃ d, depth = d + 1 := ⟨depth - 1, by omega⟩
      have hcount := ht.length_le fun _ _ h => h.length_pos
      simp only [skipWithin, List.cons_append, List.append_assoc, List.nil_append,
        skipBlanks_append hb (Bracket.isBlank_opening .brace), if_neg Bracket.brace_ne_square,
        if_true]
      exact skipRest_members (ih (by omega)) ht (by omega) (by omega) rest

/-- Every text of a value is passed over. -/
theorem skipValue_textOf {room : Nat} {v : Json} {b t rest : Bytes} (hb : Blank b)
    (ht : TextOf room v t) (hrest : EndsNumber rest) : skipValue (b ++ (t ++ rest)) = .ok rest :=
  skipWithin_textOf (Nat.le_refl _) room hb ht
    (by simp only [List.length_append]; omega) hrest

/-- A member is passed over, whatever its value. -/
theorem skipField_textOf {room : Nat} {v : Json} {b b' t rest : Bytes} (hb : Blank b)
    (hb' : Blank b') (ht : TextOf room v t) (hrest : EndsNumber rest) :
    skipField (b ++ ':'.toUInt8 :: (b' ++ (t ++ rest))) = .ok rest := by
  simp only [skipField, readColon_append hb, ok_bind, skipValue_textOf hb' ht hrest]

end Values

end ModelChat.Json
