import Mathlib.Data.List.TakeWhile
import ModelChat.Json.Reader
import ModelChat.Proofs.Json.Number
import ModelChat.Proofs.Json.String

/-! The texts of JSON values. Main statement: every text of a value is read as that value, with any
blanks and any way to write its strings and numbers, and whatever stands behind it. -/
namespace ModelChat.Json
open Text

def Blank (s : Bytes) : Prop :=
  ∀ b ∈ s, isBlank b = true

/-- What stands before an item: a comma, unless it is the first one, and blanks. -/
inductive Lead : Bool → Bytes → Prop
  | first {b : Bytes} : Blank b → Lead true b
  | next {b b' : Bytes} : Blank b → Blank b' → Lead false (b ++ ','.toUInt8 :: b')

/-- Texts of several items between brackets. The flag tells whether they come first. -/
inductive Listed {α : Type} (P : α → Bytes → Prop) : Bool → List α → Bytes → Prop
  | nil {first : Bool} {s : Bytes} : Blank s → Listed P first [] s
  | cons {first : Bool} {a : α} {as : List α} {lead t s : Bytes} :
    Lead first lead → P a t → Listed P false as s → Listed P first (a :: as) (lead ++ (t ++ s))

/-- Texts of a member. -/
inductive Member {α : Type} (P : α → Bytes → Prop) : String × α → Bytes → Prop
  | mk {name : String} {a : α} {q b b' t : Bytes} :
    Quoted name q → Blank b → Blank b' → P a t →
    Member P (name, a) ('"'.toUInt8 :: (q ++ (b ++ ':'.toUInt8 :: (b' ++ t))))

/-- Texts of a value without brackets. -/
inductive Scalar : Json → Bytes → Prop
  | null : Scalar .null (Utf8.encode "null")
  | true : Scalar (.bool true) (Utf8.encode "true")
  | false : Scalar (.bool false) (Utf8.encode "false")
  | number {n : Numeral} {v : Json} {s : Bytes} : n.Text s → n.value = .ok v → Scalar v s
  | string {text : String} {s : Bytes} : Quoted text s → Scalar (.string text) ('"'.toUInt8 :: s)

/-- Texts of a value with at most `room` brackets around any part of it. -/
def TextOf : (room : Nat) → Json → Bytes → Prop
  | 0, v, s => Scalar v s
  | room + 1, v, s => Scalar v s ∨
    (∃ items t, v = .array items ∧ Listed (TextOf room) true items t ∧
      s = Bracket.square.opening :: (t ++ [Bracket.square.closing])) ∨
    (∃ members t, v = .object members ∧ Listed (Member (TextOf room)) true members t ∧
      s = Bracket.brace.opening :: (t ++ [Bracket.brace.closing]))

theorem TextOf.scalar {room : Nat} {v : Json} {s : Bytes} (h : Scalar v s) : TextOf room v s := by
  cases room with
  | zero => exact h
  | succ room => exact .inl h

section Marks

theorem isBlank_quote : isBlank '"'.toUInt8 = false := rfl

theorem isBlank_comma : isBlank ','.toUInt8 = false := rfl

theorem isBlank_colon : isBlank ':'.toUInt8 = false := rfl

theorem Bracket.isBlank_opening (bracket : Bracket) : isBlank bracket.opening = false := by
  cases bracket <;> rfl

theorem Bracket.isBlank_closing (bracket : Bracket) : isBlank bracket.closing = false := by
  cases bracket <;> rfl

theorem Bracket.goesOn_closing (bracket : Bracket) : goesOn bracket.closing = false := by
  cases bracket <;> rfl

theorem Bracket.opening_ne_quote (bracket : Bracket) : bracket.opening ≠ '"'.toUInt8 := by
  cases bracket <;> decide

theorem Bracket.comma_ne_closing (bracket : Bracket) : ','.toUInt8 ≠ bracket.closing := by
  cases bracket <;> decide

theorem Bracket.quote_ne_closing (bracket : Bracket) : '"'.toUInt8 ≠ bracket.closing := by
  cases bracket <;> decide

theorem Bracket.brace_ne_square : Bracket.brace.opening ≠ Bracket.square.opening := by
  decide

end Marks

section Blanks
variable {b : Bytes} (hb : Blank b)
include hb

theorem skipBlanks_append {c : UInt8} (hc : isBlank c = false) (s : Bytes) :
    skipBlanks (b ++ c :: s) = c :: s := by
  induction b with
  | nil => simp [skipBlanks, hc]
  | cons x b ih =>
    obtain ⟨hx, hrest⟩ := List.forall_mem_cons.mp hb
    simpa [skipBlanks, hx] using ih hrest

theorem skipBlanks_blank : skipBlanks b = [] :=
  List.dropWhile_eq_nil_iff.mpr hb

theorem nextItem_end (first : Bool) (rest : Bytes) :
    nextItem first (b ++ Bracket.square.closing :: rest) = .ok none := by
  simp only [nextItem, skipBlanks_append hb (Bracket.isBlank_closing .square)]
  exact if_pos rfl

theorem nextName_end (first : Bool) (rest : Bytes) :
    nextName first (b ++ Bracket.brace.closing :: rest) = .ok none := by
  simp only [nextName, skipBlanks_append hb (Bracket.isBlank_closing .brace)]
  exact if_pos rfl

theorem readColon_append (s : Bytes) : readColon (b ++ ':'.toUInt8 :: s) = .ok s := by
  simp only [readColon, skipBlanks_append hb isBlank_colon, if_true]

theorem close_append (bracket : Bracket) (rest : Bytes) :
    bracket.close (b ++ bracket.closing :: rest) = .ok rest := by
  simp only [Bracket.close, skipBlanks_append hb bracket.isBlank_closing, if_true]

end Blanks

theorem nextItem_append {first : Bool} {lead : Bytes} (h : Lead first lead) {c : UInt8}
    (hblank : isBlank c = false) (hclose : c ≠ ']'.toUInt8) (s : Bytes) :
    nextItem first (lead ++ c :: s) = .ok (some (c :: s)) := by
  cases h with
  | first hb =>
    simp only [nextItem, skipBlanks_append hb hblank, if_neg hclose, if_true]
  | @next b b' hb hb' =>
    have hother : ','.toUInt8 ≠ ']'.toUInt8 := Bracket.comma_ne_closing .square
    simp only [List.append_assoc, List.cons_append, nextItem, skipBlanks_append hb isBlank_comma,
      if_neg hother, Bool.false_eq_true, if_false, ne_eq, not_true_eq_false,
      skipBlanks_append hb' hblank, if_neg hclose]

theorem nextName_append {first : Bool} {lead : Bytes} (h : Lead first lead) {name : String}
    {q : Bytes} (hq : Quoted name q) (s : Bytes) :
    nextName first (lead ++ '"'.toUInt8 :: (q ++ s)) = .ok (some (name, s)) := by
  have hclose : '"'.toUInt8 ≠ '\x7d'.toUInt8 := Bracket.quote_ne_closing .brace
  have hread : (readString (q ++ s)).map some = .ok (some (name, s)) := by
    rw [readString_append hq]
    rfl
  cases h with
  | first hb =>
    simp only [nextName, skipBlanks_append hb isBlank_quote, if_neg hclose, if_true, hread]
  | @next b b' hb hb' =>
    have hother : ','.toUInt8 ≠ '\x7d'.toUInt8 := Bracket.comma_ne_closing .brace
    simp only [List.append_assoc, List.cons_append, nextName, skipBlanks_append hb isBlank_comma,
      if_neg hother, Bool.false_eq_true, if_false, ne_eq, not_true_eq_false,
      skipBlanks_append hb' isBlank_quote, if_true, hread]

/-- What begins a value: neither a blank nor what ends brackets. -/
def Begins (s : Bytes) : Prop :=
  ∃ c t, s = c :: t ∧ isBlank c = false ∧ c ≠ ']'.toUInt8

private theorem goesOn_of_isBlank {c : UInt8} (h : isBlank c = true) : goesOn c = false := by
  simp only [isBlank, Bool.or_eq_true, beq_iff_eq] at h
  rcases h with ((rfl | rfl) | rfl) | rfl <;> decide

theorem Blank.endsNumber {b : Bytes} (hb : Blank b) : EndsNumber b :=
  fun _ hc => goesOn_of_isBlank (hb _ (List.mem_of_head? hc))

/-- A blank, a comma or a closing bracket ends a number. -/
theorem Blank.endsNumber_append {b : Bytes} (hb : Blank b) {c : UInt8} (hc : goesOn c = false)
    (s : Bytes) : EndsNumber (b ++ c :: s) := by
  intro x hx
  cases b with
  | nil =>
    obtain rfl := Option.some.inj hx
    exact hc
  | cons y b => exact hb.endsNumber x hx

theorem Lead.endsNumber {lead : Bytes} (h : Lead false lead) (s : Bytes) :
    EndsNumber (lead ++ s) := by
  cases h with
  | next hb =>
    rw [List.append_assoc, List.cons_append]
    exact hb.endsNumber_append (by decide) _

theorem Listed.endsNumber {α : Type} {P : α → Bytes → Prop} {as : List α} {s : Bytes}
    (h : Listed P false as s) {c : UInt8} (hc : goesOn c = false) (rest : Bytes) :
    EndsNumber (s ++ c :: rest) := by
  cases h with
  | nil hb => exact hb.endsNumber_append hc rest
  | cons hlead =>
    rw [List.append_assoc]
    exact hlead.endsNumber _

section Items
variable {α : Type} {P : α → Bytes → Prop} {bound : Nat}

/-- A reader reads all texts up to a length, after blanks and before what ends a number. -/
def Reads (item : Reader α) (P : α → Bytes → Prop) (bound : Nat) : Prop :=
  ∀ {a b t rest}, Blank b → P a t → t.length ≤ bound → EndsNumber rest →
    item (b ++ (t ++ rest)) = .ok (a, rest)

theorem Listed.length_le {first : Bool} {as : List α} {s : Bytes} (h : Listed P first as s)
    (hpos : ∀ a t, P a t → 0 < t.length) : as.length ≤ s.length := by
  induction h with
  | nil => exact Nat.zero_le _
  | cons hlead ht hs ih =>
    have := hpos _ _ ht
    simp only [List.length_cons, List.length_append]
    omega

theorem Listed.of_map {β : Type} {f : β → α} {first : Bool} {bs : List β} {s : Bytes}
    (h : Listed P first (bs.map f) s) : Listed (fun b => P (f b)) first bs s := by
  induction bs generalizing first s with
  | nil =>
    cases h with
    | nil hb => exact .nil hb
  | cons b bs ih =>
    cases h with
    | cons hlead ht hs => exact .cons hlead ht (ih hs)

/-- Items are read one after another, up to the blanks before the closing bracket. -/
theorem readItems_listed {item : Reader α} (hitem : Reads item P bound)
    (hbegins : ∀ a t, P a t → Begins t) {first : Bool} {as : List α} {s : Bytes}
    (h : Listed P first as s) {n : Nat} (hn : as.length ≤ n) (hs : s.length ≤ bound)
    (rest : Bytes) :
    ∃ b, Blank b ∧ readItems item n first (s ++ Bracket.square.closing :: rest) =
      .ok (as, b ++ Bracket.square.closing :: rest) := by
  induction h generalizing n with
  | @nil first b hb =>
    refine ⟨b, hb, ?_⟩
    cases n with
    | zero => rfl
    | succ n => rw [readItems, nextItem_end hb, ok_bind]; rfl
  | @cons first a as lead t s hlead ht hmore ih =>
    simp only [List.length_append, List.length_cons] at hn hs
    obtain ⟨n, rfl⟩ : ∃ m, n = m + 1 := ⟨n - 1, by omega⟩
    obtain ⟨b, hb, hread⟩ := ih (n := n) (by omega) (by omega)
    -- The byte that begins the item shows that the array does not end here.
    obtain ⟨c, u, rfl, hblank, hclose⟩ := hbegins a t ht
    have hone := hitem (b := []) (List.forall_mem_nil _) ht (by omega)
      (hmore.endsNumber (Bracket.goesOn_closing .square) rest)
    refine ⟨b, hb, ?_⟩
    rw [List.nil_append, List.cons_append] at hone
    simp only [readItems, List.append_assoc, List.cons_append, nextItem_append hlead hblank hclose,
      ok_bind, hone, hread]
    rfl

theorem Member.length_pos {m : String × α} {t : Bytes} (h : Member P m t) : 0 < t.length := by
  cases h
  exact Nat.succ_pos _

/-- Members are read one after another, up to the blanks before the closing bracket. -/
theorem readMembers_listed {value : Reader α} (hvalue : Reads value P bound) {first : Bool}
    {ms : List (String × α)} {s : Bytes} (h : Listed (Member P) first ms s) {n : Nat}
    (hn : ms.length ≤ n) (hs : s.length ≤ bound) (rest : Bytes) :
    ∃ b, Blank b ∧ readMembers value n first (s ++ Bracket.brace.closing :: rest) =
      .ok (ms, b ++ Bracket.brace.closing :: rest) := by
  induction h generalizing n with
  | @nil first b hb =>
    refine ⟨b, hb, ?_⟩
    cases n with
    | zero => rfl
    | succ n => rw [readMembers, nextName_end hb, ok_bind]; rfl
  | @cons first m ms lead t s hlead ht hmore ih =>
    obtain ⟨n, rfl⟩ : ∃ m, n = m + 1 := ⟨n - 1, by simp only [List.length_cons] at hn; omega⟩
    simp only [List.length_append, List.length_cons] at hn hs
    obtain ⟨b, hb, hread⟩ := ih (n := n) (by omega) (by omega)
    cases ht with
    | @mk name a q c c' u hq hc hc' hu =>
      simp only [List.length_cons, List.length_append] at hs
      have hone := hvalue hc' hu (by omega)
        (hmore.endsNumber (Bracket.goesOn_closing .brace) rest)
      refine ⟨b, hb, ?_⟩
      simp only [readMembers, List.append_assoc, List.cons_append, nextName_append hlead hq,
        ok_bind, readColon_append hc, hone, hread]
      rfl

theorem enclosed_append {bracket : Bracket} {body : Reader α} {a : α} {s b rest : Bytes}
    (hb : Blank b) (h : body s = .ok (a, b ++ bracket.closing :: rest)) :
    enclosed bracket body s = .ok (a, rest) := by
  simp only [enclosed, h, close_append hb]

end Items

section Scalars

theorem readWord_append (w rest : Bytes) : readWord w (w ++ rest) = .ok rest := by
  induction w with
  | nil => rfl
  | cons c w ih => simp [readWord, ih]

/-- Without its sign a number begins with a digit. -/
theorem Numeral.Magnitude.head {n : Numeral} {s : Bytes} (h : n.Magnitude s) :
    ∃ c t, s = c :: t ∧ isDigit c = true := by
  obtain ⟨d, ds, hwhole, -⟩ := h.begun
  obtain ⟨x, -, rfl⟩ := h.written
  have hd : d < 10 := h.digits d (by rw [hwhole]; exact List.mem_cons_self)
  rw [hwhole]
  exact ⟨_, _, rfl, isDigit_of_lt hd⟩

theorem ne_of_isDigit {c d : UInt8} (hc : isDigit c = true) (hd : isDigit d = false) :
    c ≠ d := by
  rintro rfl
  rw [hd] at hc
  cases hc

private theorem isBlank_of_isDigit {c : UInt8} (hc : isDigit c = true) : isBlank c = false := by
  have h1 := ne_of_isDigit hc (d := 0x20) (by decide)
  have h2 := ne_of_isDigit hc (d := 0x0A) (by decide)
  have h3 := ne_of_isDigit hc (d := 0x09) (by decide)
  have h4 := ne_of_isDigit hc (d := 0x0D) (by decide)
  simp [isBlank, h1, h2, h3, h4]

private theorem readScalar_digit {c : UInt8} (hc : isDigit c = true) (s : Bytes) :
    readScalar c s = readNumber false (c :: s) := by
  have hother (d : UInt8) (hd : isDigit d = false) : c ≠ d := ne_of_isDigit hc hd
  simp only [readScalar, if_pos hc, if_neg (hother 'n'.toUInt8 (by decide)),
    if_neg (hother 't'.toUInt8 (by decide)), if_neg (hother 'f'.toUInt8 (by decide)),
    if_neg (hother '-'.toUInt8 (by decide))]

/-- A number is recognised by its first byte; whether it is read depends on its value. -/
theorem readScalar_number {n : Numeral} {s : Bytes} (h : n.Text s) {rest : Bytes}
    (hrest : EndsNumber rest) :
    ∃ c t, s = c :: t ∧ (c = '-'.toUInt8 ∨ isDigit c = true) ∧
      readScalar c (t ++ rest) = match n.value with
        | .ok v => .ok (v, rest)
        | .error left => .error (.placed .numberOutOfRange (rest.length + left)) := by
  obtain ⟨t, ht, rfl⟩ := h
  have hread : readNumber n.negative (t ++ rest) = match n.value with
      | .ok v => .ok (v, rest)
      | .error left => .error (.placed .numberOutOfRange (rest.length + left)) := by
    cases hv : n.value <;> simp only [readNumber, readNumeral_append ht hrest, ok_bind, hv]
  cases hneg : n.negative with
  | true =>
    rw [hneg] at hread
    exact ⟨'-'.toUInt8, t, rfl, .inl rfl, hread⟩
  | false =>
    obtain ⟨c, u, rfl, hc⟩ := ht.head
    refine ⟨c, u, rfl, .inr hc, ?_⟩
    rw [hneg, List.cons_append] at hread
    rw [readScalar_digit hc, hread]

/-- The first byte of a value without brackets. -/
structure BeginsScalar (c : UInt8) : Prop where
  blank : isBlank c = false
  closing : c ≠ ']'.toUInt8
  square : c ≠ Bracket.square.opening
  brace : c ≠ Bracket.brace.opening

instance (c : UInt8) : Decidable (BeginsScalar c) :=
  decidable_of_iff (isBlank c = false ∧ c ≠ ']'.toUInt8 ∧ c ≠ Bracket.square.opening ∧
    c ≠ Bracket.brace.opening)
    ⟨fun ⟨blank, closing, square, brace⟩ => ⟨blank, closing, square, brace⟩,
      fun h => ⟨h.blank, h.closing, h.square, h.brace⟩⟩

theorem beginsScalar_number {c : UInt8} (h : c = '-'.toUInt8 ∨ isDigit c = true) :
    BeginsScalar c := by
  rcases h with rfl | h
  · decide
  · exact ⟨isBlank_of_isDigit h, ne_of_isDigit h (by decide), ne_of_isDigit h (by decide),
      ne_of_isDigit h (by decide)⟩

theorem readScalar_append {v : Json} {s : Bytes} (h : Scalar v s) {rest : Bytes}
    (hrest : EndsNumber rest) :
    ∃ c t, s = c :: t ∧ BeginsScalar c ∧ readScalar c (t ++ rest) = .ok (v, rest) := by
  have hword (w : Bytes) (v : Json) :
      (readWord w (w ++ rest)).map (v, ·) = .ok (v, rest) := by
    rw [readWord_append]
    rfl
  cases h with
  | null =>
    exact ⟨'n'.toUInt8, Utf8.encode "ull", by decide, by decide,
      hword (Utf8.encode "ull") .null⟩
  | true =>
    exact ⟨'t'.toUInt8, Utf8.encode "rue", by decide, by decide,
      hword (Utf8.encode "rue") (.bool true)⟩
  | false =>
    exact ⟨'f'.toUInt8, Utf8.encode "alse", by decide, by decide,
      hword (Utf8.encode "alse") (.bool false)⟩
  | number hs hv =>
    obtain ⟨c, t, rfl, hc, hread⟩ := readScalar_number hs hrest
    exact ⟨c, t, rfl, beginsScalar_number hc, by rw [hread, hv]⟩
  | @string text s hs =>
    have hread : readScalar '"'.toUInt8 (s ++ rest) =
        (readString (s ++ rest)).map fun p => (Json.string p.1, p.2) := rfl
    refine ⟨_, _, rfl, by decide, ?_⟩
    rw [hread, readString_append hs]
    rfl

end Scalars

section Values

theorem TextOf.begins {room : Nat} {v : Json} {s : Bytes} (h : TextOf room v s) : Begins s := by
  have hscalar (h : Scalar v s) : Begins s := by
    obtain ⟨c, t, rfl, hc, -⟩ := readScalar_append h endsNumber_nil
    exact ⟨c, t, rfl, hc.blank, hc.closing⟩
  cases room with
  | zero => exact hscalar h
  | succ room =>
    rcases h with h | ⟨items, t, -, -, rfl⟩ | ⟨members, t, -, -, rfl⟩
    · exact hscalar h
    · exact ⟨_, _, rfl, by decide, by decide⟩
    · exact ⟨_, _, rfl, by decide, by decide⟩

theorem Begins.length_pos {s : Bytes} (h : Begins s) : 0 < s.length := by
  obtain ⟨c, t, rfl, -⟩ := h
  exact Nat.succ_pos _

/-- A value without brackets is read in the same way at any depth. -/
theorem readValue_scalar (bound room : Nat) {b : Bytes} (hb : Blank b) {c : UInt8}
    (hc : BeginsScalar c) (s : Bytes) : readValue bound room (b ++ c :: s) = readScalar c s := by
  cases room with
  | zero =>
    simp only [readValue, skipBlanks_append hb hc.blank]
    exact if_neg (not_or.mpr ⟨hc.square, hc.brace⟩)
  | succ room =>
    simp only [readValue, skipBlanks_append hb hc.blank, if_neg hc.square, if_neg hc.brace]

/-- Every text of a value is read as that value. -/
theorem readValue_textOf (bound room : Nat) : Reads (readValue bound room) (TextOf room) bound := by
  have hscalar {room : Nat} {v : Json} {b s rest : Bytes} (hb : Blank b) (h : Scalar v s)
      (hrest : EndsNumber rest) : readValue bound room (b ++ (s ++ rest)) = .ok (v, rest) := by
    obtain ⟨c, t, rfl, hc, hread⟩ := readScalar_append h hrest
    rw [List.cons_append, readValue_scalar bound room hb hc, hread]
  -- On the room: what is in brackets is read with one bracket less.
  induction room with
  | zero =>
    intro v b s rest hb h _ hrest
    exact hscalar hb h hrest
  | succ room ih =>
    intro v b s rest hb h hs hrest
    rcases h with h | ⟨items, t, rfl, ht, rfl⟩ | ⟨members, t, rfl, ht, rfl⟩
    · exact hscalar hb h hrest
    · simp only [List.length_cons, List.length_append, List.length_nil] at hs
      have hcount := ht.length_le fun _ _ h => h.begins.length_pos
      obtain ⟨b', hb', hread⟩ := readItems_listed ih (fun _ _ h => h.begins) ht (n := bound)
        (by omega) (by omega) rest
      simp only [readValue, List.cons_append, List.append_assoc, List.nil_append,
        skipBlanks_append hb (Bracket.isBlank_opening .square), if_true, enclosed_append hb' hread]
      rfl
    · simp only [List.length_cons, List.length_append, List.length_nil] at hs
      have hcount := ht.length_le fun _ _ h => h.length_pos
      obtain ⟨b', hb', hread⟩ := readMembers_listed ih ht (n := bound) (by omega) (by omega) rest
      simp only [readValue, List.cons_append, List.append_assoc, List.nil_append,
        skipBlanks_append hb (Bracket.isBlank_opening .brace), if_neg Bracket.brace_ne_square,
        if_true, enclosed_append hb' hread]
      rfl

/-- A text of a value with blanks around it is read as that value. -/
theorem parse_textOf {v : Json} {b s b' : Bytes} (hb : Blank b) (h : TextOf maxDepth v s)
    (hb' : Blank b') : parse (b ++ (s ++ b')) = .ok v := by
  have hread := readValue_textOf (b ++ (s ++ b')).length maxDepth hb h
    (by simp only [List.length_append]; omega) hb'.endsNumber
  simp only [parse, readText, hread, skipBlanks_blank hb']

/-- A number by itself is read if its value is in range. -/
theorem parse_number {n : Numeral} {s : Bytes} (h : n.Text s) {v : Json} :
    parse s = .ok v ↔ n.value = .ok v := by
  obtain ⟨c, t, rfl, hc, hscalar⟩ := readScalar_number h endsNumber_nil
  have hread := readValue_scalar (c :: t).length maxDepth (b := []) (List.forall_mem_nil _)
    (beginsScalar_number hc) t
  rw [List.append_nil] at hscalar
  rw [List.nil_append, hscalar] at hread
  simp only [parse, readText, hread]
  cases n.value with
  | ok w => simp [skipBlanks]
  | error left => simp

end Values

end ModelChat.Json
