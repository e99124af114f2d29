import ModelChat.Text.Utf8

/-! Reading UTF-8 gives back what was written, whatever stands behind it. -/
namespace ModelChat.Text.Utf8

theorem length_next_le (a : UInt8) (s : Bytes) : (next a s).2.length ≤ s.length := by
  unfold next
  repeat' split
  all_goals simp
  all_goals omega

private theorem toNat_ofNat {n : Nat} (h : n < 256) : (UInt8.ofNat n).toNat = n := by
  simpa using Nat.mod_eq_of_lt h

theorem isTail_iff (b : UInt8) : isTail b = true ↔ 0x80 ≤ b.toNat ∧ b.toNat < 0xC0 := by
  simp [isTail, UInt8.le_iff_toNat_le, UInt8.lt_iff_toNat_lt]

theorem isSecond_iff (a b : UInt8) :
    isSecond a b = true ↔ isTail b = true ∧ (a.toNat = 0xE0 → 0xA0 ≤ b.toNat) ∧
      (a.toNat = 0xED → b.toNat < 0xA0) ∧ (a.toNat = 0xF0 → 0x90 ≤ b.toNat) ∧
      (a.toNat = 0xF4 → b.toNat < 0x90) := by
  have himp (n : UInt8) (p : Prop) : ¬ a = n ∨ p ↔ a.toNat = n.toNat → p := by
    rw [UInt8.toNat_inj, Decidable.imp_iff_not_or]
  simp [isSecond, UInt8.le_iff_toNat_le, UInt8.lt_iff_toNat_lt, himp, and_assoc]

private theorem isTail_ofNat {n : Nat} (h : n < 64) : isTail (.ofNat (0x80 + n)) = true := by
  have hb := toNat_ofNat (show 0x80 + n < 256 by omega)
  rw [isTail_iff, hb]
  omega

private theorem next_one {v : Nat} (h : v < 0x80) (s : Bytes) :
    next (.ofNat v) s = (some (.ofNat v), s) := by
  have ha := toNat_ofNat (show v < 256 by omega)
  simp [next, UInt8.lt_iff_toNat_lt, ha, h]

private theorem next_two {v : Nat} (h : 0x80 ≤ v) (h' : v < 0x800) (s : Bytes) :
    next (.ofNat (0xC0 + v / 64)) (.ofNat (0x80 + v % 64) :: s) = (some (.ofNat v), s) := by
  have ha := toNat_ofNat (show 0xC0 + v / 64 < 256 by omega)
  have hb := toNat_ofNat (show 0x80 + v % 64 < 256 by omega)
  have htail := isTail_ofNat (show v % 64 < 64 by omega)
  have hvalue : (0xC0 + v / 64 - 0xC0) * 64 + (0x80 + v % 64 - 0x80) = v := by omega
  have h1 : ¬ 0xC0 + v / 64 < 128 := by omega
  have h2 : ¬ (0xC0 + v / 64 < 194 ∨ 244 < 0xC0 + v / 64) := by omega
  have h3 : 0xC0 + v / 64 < 224 := by omega
  simp only [next, UInt8.lt_iff_toNat_lt, ha, hb, htail, hvalue, UInt8.reduceToNat,
    Bool.or_eq_true, decide_eq_true_eq]
  rw [if_neg h1, if_neg h2, if_pos h3, if_pos trivial]

private theorem next_three {v : Nat} (h : 0x800 ≤ v) (h' : v < 0x10000)
    (hv : v < 0xD800 ∨ 0xDFFF < v) (s : Bytes) :
    next (.ofNat (0xE0 + v / 4096)) (.ofNat (0x80 + v / 64 % 64) :: .ofNat (0x80 + v % 64) :: s) =
      (some (.ofNat v), s) := by
  have ha := toNat_ofNat (show 0xE0 + v / 4096 < 256 by omega)
  have hb := toNat_ofNat (show 0x80 + v / 64 % 64 < 256 by omega)
  have hc := toNat_ofNat (show 0x80 + v % 64 < 256 by omega)
  have htail := isTail_ofNat (show v % 64 < 64 by omega)
  have hsecond : isSecond (.ofNat (0xE0 + v / 4096)) (.ofNat (0x80 + v / 64 % 64)) = true := by
    rw [isSecond_iff, ha, hb]
    exact ⟨isTail_ofNat (by omega), by omega, by omega, by omega, by omega⟩
  have hvalue : (0xE0 + v / 4096 - 0xE0) * 4096 + (0x80 + v / 64 % 64 - 0x80) * 64
      + (0x80 + v % 64 - 0x80) = v := by omega
  have h1 : ¬ 0xE0 + v / 4096 < 128 := by omega
  have h2 : ¬ (0xE0 + v / 4096 < 194 ∨ 244 < 0xE0 + v / 4096) := by omega
  have h3 : ¬ 0xE0 + v / 4096 < 224 := by omega
  have h4 : 0xE0 + v / 4096 < 240 := by omega
  simp only [next, UInt8.lt_iff_toNat_lt, ha, hb, hc, htail, hsecond, hvalue, UInt8.reduceToNat,
    Bool.not_true, Bool.or_eq_true, decide_eq_true_eq]
  rw [if_neg h1, if_neg h2, if_neg h3, if_neg Bool.false_ne_true, if_neg Bool.false_ne_true,
    if_pos h4]

private theorem next_four {v : Nat} (h : 0x10000 ≤ v) (h' : v < 0x110000) (s : Bytes) :
    next (.ofNat (0xF0 + v / 262144)) (.ofNat (0x80 + v / 4096 % 64) ::
      .ofNat (0x80 + v / 64 % 64) :: .ofNat (0x80 + v % 64) :: s) = (some (.ofNat v), s) := by
  have ha := toNat_ofNat (show 0xF0 + v / 262144 < 256 by omega)
  have hb := toNat_ofNat (show 0x80 + v / 4096 % 64 < 256 by omega)
  have hc := toNat_ofNat (show 0x80 + v / 64 % 64 < 256 by omega)
  have hd := toNat_ofNat (show 0x80 + v % 64 < 256 by omega)
  have htail := isTail_ofNat (show v % 64 < 64 by omega)
  have htail' := isTail_ofNat (show v / 64 % 64 < 64 by omega)
  have hsecond : isSecond (.ofNat (0xF0 + v / 262144)) (.ofNat (0x80 + v / 4096 % 64)) = true := by
    rw [isSecond_iff, ha, hb]
    exact ⟨isTail_ofNat (by omega), by omega, by omega, by omega, by omega⟩
  have hvalue : (0xF0 + v / 262144 - 0xF0) * 262144 + (0x80 + v / 4096 % 64 - 0x80) * 4096
      + (0x80 + v / 64 % 64 - 0x80) * 64 + (0x80 + v % 64 - 0x80) = v := by omega
  have h1 : ¬ 0xF0 + v / 262144 < 128 := by omega
  have h2 : ¬ (0xF0 + v / 262144 < 194 ∨ 244 < 0xF0 + v / 262144) := by omega
  have h3 : ¬ 0xF0 + v / 262144 < 224 := by omega
  have h4 : ¬ 0xF0 + v / 262144 < 240 := by omega
  simp only [next, UInt8.lt_iff_toNat_lt, ha, hb, hc, hd, htail, htail', hsecond, hvalue,
    UInt8.reduceToNat, Bool.not_true, Bool.or_eq_true, decide_eq_true_eq]
  rw [if_neg h1, if_neg h2, if_neg h3, if_neg Bool.false_ne_true, if_neg Bool.false_ne_true,
    if_neg h4, if_pos trivial]

/-- The four written forms and the numbers they are for. -/
private theorem encodeChar_cases (c : Char) :
    (c.toNat < 0x80 ∧ encodeChar c = [.ofNat c.toNat]) ∨
    (0x80 ≤ c.toNat ∧ c.toNat < 0x800 ∧
      encodeChar c = [.ofNat (0xC0 + c.toNat / 64), .ofNat (0x80 + c.toNat % 64)]) ∨
    (0x800 ≤ c.toNat ∧ c.toNat < 0x10000 ∧ (c.toNat < 0xD800 ∨ 0xDFFF < c.toNat) ∧
      encodeChar c = [.ofNat (0xE0 + c.toNat / 4096), .ofNat (0x80 + c.toNat / 64 % 64),
        .ofNat (0x80 + c.toNat % 64)]) ∨
    (0x10000 ≤ c.toNat ∧ c.toNat < 0x110000 ∧
      encodeChar c = [.ofNat (0xF0 + c.toNat / 262144), .ofNat (0x80 + c.toNat / 4096 % 64),
        .ofNat (0x80 + c.toNat / 64 % 64), .ofNat (0x80 + c.toNat % 64)]) := by
  have hvalid : c.toNat < 0xD800 ∨ (0xDFFF < c.toNat ∧ c.toNat < 0x110000) := c.valid
  simp only [encodeChar]
  by_cases h1 : c.toNat < 0x80
  · exact .inl ⟨h1, if_pos h1⟩
  by_cases h2 : c.toNat < 0x800
  · exact .inr (.inl ⟨by omega, h2, by rw [if_neg h1, if_pos h2]⟩)
  by_cases h3 : c.toNat < 0x10000
  · exact .inr (.inr (.inl ⟨by omega, h3, by omega, by rw [if_neg h1, if_neg h2, if_pos h3]⟩))
  · exact .inr (.inr (.inr ⟨by omega, by omega, by rw [if_neg h1, if_neg h2, if_neg h3]⟩))

/-- The character written first is read first, and nothing behind it is touched. -/
theorem next_encodeChar (c : Char) :
    ∃ a s, encodeChar c = a :: s ∧ ∀ rest, next a (s ++ rest) = (some c, rest) := by
  have hc : Char.ofNat c.toNat = c := Char.ofNat_toNat c
  rcases encodeChar_cases c with ⟨h, he⟩ | ⟨h, h', he⟩ | ⟨h, h', hv, he⟩ | ⟨h, h', he⟩
  · exact ⟨_, _, he, fun rest => (next_one h rest).trans (by rw [hc])⟩
  · exact ⟨_, _, he, fun rest => (next_two h h' rest).trans (by rw [hc])⟩
  · exact ⟨_, _, he, fun rest => (next_three h h' hv rest).trans (by rw [hc])⟩
  · exact ⟨_, _, he, fun rest => (next_four h h' rest).trans (by rw [hc])⟩

theorem encodeChar_of_ascii {c : Char} (h : c.toNat < 0x80) : encodeChar c = [.ofNat c.toNat] :=
  if_pos h

/-- All bytes of a character beyond ASCII are beyond ASCII. -/
theorem le_of_mem_encodeChar {c : Char} (h : 0x80 ≤ c.toNat) {b : UInt8} (hb : b ∈ encodeChar c) :
    0x80 ≤ b := by
  have hlong : ∃ n, 0x80 ≤ n ∧ n < 256 ∧ b = .ofNat n := by
    rcases encodeChar_cases c with ⟨h, he⟩ | ⟨h, h', he⟩ | ⟨h, h', hv, he⟩ | ⟨h, h', he⟩
    · omega
    · simp only [he, List.mem_cons, List.not_mem_nil, or_false] at hb
      rcases hb with rfl | rfl <;> exact ⟨_, by omega, by omega, rfl⟩
    · simp only [he, List.mem_cons, List.not_mem_nil, or_false] at hb
      rcases hb with rfl | rfl | rfl <;> exact ⟨_, by omega, by omega, rfl⟩
    · simp only [he, List.mem_cons, List.not_mem_nil, or_false] at hb
      rcases hb with rfl | rfl | rfl | rfl <;> exact ⟨_, by omega, by omega, rfl⟩
  obtain ⟨n, hn, hbyte, rfl⟩ := hlong
  rw [UInt8.le_iff_toNat_le, toNat_ofNat hbyte]
  exact hn

private theorem piecesWithin_eq {n m : Nat} {s : Bytes} (hn : s.length ≤ n) (hm : s.length ≤ m) :
    piecesWithin n s = piecesWithin m s := by
  induction n generalizing m s with
  | zero =>
    obtain rfl : s = [] := List.eq_nil_of_length_eq_zero (by omega)
    cases m <;> rfl
  | succ n ih =>
    cases s with
    | nil => cases m <;> rfl
    | cons a s =>
      cases m with
      | zero => cases hm
      | succ m =>
        have hrest := length_next_le a s
        simp only [List.length_cons] at hn hm
        simp only [piecesWithin]
        rw [ih (m := m) (by omega) (by omega)]

@[simp] theorem pieces_nil : pieces [] = [] := rfl

theorem pieces_cons (a : UInt8) (s : Bytes) :
    pieces (a :: s) = (next a s).1 :: pieces (next a s).2 := by
  have hrest := length_next_le a s
  simp only [pieces, List.length_cons, piecesWithin]
  rw [piecesWithin_eq hrest (Nat.le_refl _)]

/-- What has been written is read as it was, and the rest by itself. -/
theorem pieces_encodeChars_append (cs : List Char) (s : Bytes) :
    pieces (encodeChars cs ++ s) = cs.map some ++ pieces s := by
  induction cs with
  | nil => rfl
  | cons c cs ih =>
    obtain ⟨a, t, hc, hnext⟩ := next_encodeChar c
    have hread : encodeChars (c :: cs) ++ s = a :: (t ++ (encodeChars cs ++ s)) := by
      simp [encodeChars, hc]
    rw [hread, pieces_cons, hnext, ih, List.map_cons, List.cons_append]

theorem decodeLossy_encode (s : String) : decodeLossy (encode s) = s := by
  have h := pieces_encodeChars_append s.toList []
  rw [List.append_nil, pieces_nil, List.append_nil] at h
  simp [decodeLossy, encode, h, Function.comp_def]

theorem decode?_encode (s : String) : decode? (encode s) = some s := by
  have h := pieces_encodeChars_append s.toList []
  rw [List.append_nil, pieces_nil, List.append_nil] at h
  have hall (cs : List Char) : (cs.map some).mapM id = some cs := by
    induction cs with
    | nil => rfl
    | cons c cs ih => simp [List.mapM_cons, ih]
  rw [decode?, encode, h, hall, Option.map_some, String.ofList_toList]

/-- Different texts have different bytes. -/
theorem encode_injective {s t : String} (h : encode s = encode t) : s = t := by
  rw [← decodeLossy_encode s, h, decodeLossy_encode]

/-- A character within ASCII ends what is before it: no piece reaches over it. -/
theorem next_append_ascii {b : UInt8} (hb : b < 0x80) (a : UInt8) (s rest : Bytes) :
    next a (s ++ b :: rest) = ((next a s).1, (next a s).2 ++ b :: rest) := by
  have htail : isTail b = false := by
    rw [← Bool.not_eq_true, isTail_iff]
    have h : b.toNat < 0x80 := UInt8.lt_iff_toNat_lt.mp hb
    omega
  have hsecond : isSecond a b = false := by
    simp only [isSecond, htail, Bool.false_and]
  unfold next
  -- A piece takes at most three bytes of `s`; where it takes all of them, `b` has to stop it.
  match s with
  | [] => simp only [htail, hsecond, List.nil_append]; grind
  | [x] => simp only [htail, List.cons_append, List.nil_append]; grind
  | [x, y] => simp only [htail, List.cons_append, List.nil_append]; grind
  | x :: y :: z :: s => simp only [List.cons_append]; grind

/-- What stands before a character within ASCII is read by itself, malformed or not. -/
theorem pieces_append_ascii {b : UInt8} (hb : b < 0x80) (s rest : Bytes) :
    pieces (s ++ b :: rest) = pieces s ++ some (.ofNat b.toNat) :: pieces rest := by
  induction hn : s.length using Nat.strongRecOn generalizing s with
  | ind n ih =>
    cases s with
    | nil =>
      have hnext : next b rest = (some (.ofNat b.toNat), rest) := if_pos hb
      rw [List.nil_append, pieces_cons, hnext]
      rfl
    | cons a s =>
      have hlength := length_next_le a s
      rw [List.length_cons] at hn
      have hrest := ih (next a s).2.length (by omega) (next a s).2 rfl
      rw [List.cons_append, pieces_cons, pieces_cons, next_append_ascii hb, hrest, List.cons_append]

theorem decodeLossy_append_ascii {b : UInt8} (hb : b < 0x80) (s rest : Bytes) :
    (decodeLossy (s ++ b :: rest)).toList =
      (decodeLossy s).toList ++ .ofNat b.toNat :: (decodeLossy rest).toList := by
  simp [decodeLossy, pieces_append_ascii hb]

theorem encodeChars_append (cs ds : List Char) :
    encodeChars (cs ++ ds) = encodeChars cs ++ encodeChars ds :=
  List.flatMap_append

theorem encode_append (s t : String) : encode (s ++ t) = encode s ++ encode t := by
  rw [encode, String.toList_append, encodeChars_append]
  rfl

theorem toNat_charOfNat {n : Nat} (h : n.isValidChar) : (Char.ofNat n).toNat = n := by
  rw [Char.ofNat, dif_pos h]
  rfl

/-- Bytes within ASCII are the text of the characters with their numbers. -/
theorem encodeChars_ascii {bs : Bytes} (h : ∀ b ∈ bs, b < 0x80) :
    encodeChars (bs.map fun b => .ofNat b.toNat) = bs := by
  induction bs with
  | nil => rfl
  | cons b bs ih =>
    obtain ⟨hb, hbs⟩ := List.forall_mem_cons.mp h
    have hlt : b.toNat < 0x80 := UInt8.lt_iff_toNat_lt.mp hb
    have hchar : (Char.ofNat b.toNat).toNat = b.toNat := toNat_charOfNat (.inl (by omega))
    have hone : encodeChar (.ofNat b.toNat) = [b] := by
      rw [encodeChar_of_ascii (by rw [hchar]; exact hlt), hchar, UInt8.ofNat_toNat]
    have hrest := ih hbs
    simp only [encodeChars, List.map_cons, List.flatMap_cons, hone] at hrest ⊢
    rw [hrest, List.singleton_append]

section Written
variable {a b d e : UInt8}

private theorem ofNat_eq {n : Nat} (h : n = a.toNat) : UInt8.ofNat n = a := by
  rw [h, UInt8.ofNat_toNat]

private theorem encodeChar_one (ha : a.toNat < 0x80) : encodeChar (.ofNat a.toNat) = [a] := by
  have hvalue := toNat_charOfNat (n := a.toNat) (.inl (by omega))
  rw [encodeChar, hvalue, if_pos ha, ofNat_eq rfl]

private theorem encodeChar_two (ha : 0xC2 ≤ a.toNat) (ha' : a.toNat < 0xE0)
    (hb : isTail b = true) :
    encodeChar (.ofNat ((a.toNat - 0xC0) * 64 + (b.toNat - 0x80))) = [a, b] := by
  obtain ⟨hlow, hhigh⟩ := (isTail_iff b).mp hb
  have hvalue := toNat_charOfNat (n := (a.toNat - 0xC0) * 64 + (b.toNat - 0x80)) (.inl (by omega))
  rw [encodeChar, hvalue, if_neg (by omega), if_pos (by omega), ofNat_eq (a := a) (by omega),
    ofNat_eq (a := b) (by omega)]

private theorem encodeChar_three (ha : 0xE0 ≤ a.toNat) (ha' : a.toNat < 0xF0)
    (hb : isSecond a b = true) (hd : isTail d = true) :
    encodeChar (.ofNat ((a.toNat - 0xE0) * 4096 + (b.toNat - 0x80) * 64 + (d.toNat - 0x80))) =
      [a, b, d] := by
  obtain ⟨htail, hoverlong, hsurrogate, -, -⟩ := (isSecond_iff a b).mp hb
  obtain ⟨hlow, hhigh⟩ := (isTail_iff b).mp htail
  obtain ⟨hlow', hhigh'⟩ := (isTail_iff d).mp hd
  have hvalue := toNat_charOfNat
    (n := (a.toNat - 0xE0) * 4096 + (b.toNat - 0x80) * 64 + (d.toNat - 0x80))
    (by unfold Nat.isValidChar; omega)
  rw [encodeChar, hvalue, if_neg (by omega), if_neg (by omega), if_pos (by omega),
    ofNat_eq (a := a) (by omega), ofNat_eq (a := b) (by omega), ofNat_eq (a := d) (by omega)]

private theorem encodeChar_four (ha : 0xF0 ≤ a.toNat) (ha' : a.toNat ≤ 0xF4)
    (hb : isSecond a b = true) (hd : isTail d = true) (he : isTail e = true) :
    encodeChar (.ofNat ((a.toNat - 0xF0) * 262144 + (b.toNat - 0x80) * 4096
      + (d.toNat - 0x80) * 64 + (e.toNat - 0x80))) = [a, b, d, e] := by
  obtain ⟨htail, -, -, hoverlong, hlast⟩ := (isSecond_iff a b).mp hb
  obtain ⟨hlow, hhigh⟩ := (isTail_iff b).mp htail
  obtain ⟨hlow', hhigh'⟩ := (isTail_iff d).mp hd
  obtain ⟨hlow'', hhigh''⟩ := (isTail_iff e).mp he
  have hvalue := toNat_charOfNat (n := (a.toNat - 0xF0) * 262144 + (b.toNat - 0x80) * 4096
    + (d.toNat - 0x80) * 64 + (e.toNat - 0x80)) (by unfold Nat.isValidChar; omega)
  rw [encodeChar, hvalue, if_neg (by omega), if_neg (by omega), if_neg (by omega),
    ofNat_eq (a := a) (by omega), ofNat_eq (a := b) (by omega), ofNat_eq (a := d) (by omega),
    ofNat_eq (a := e) (by omega)]

/-- A character that is read is written as the bytes it was read from. -/
theorem encodeChar_of_next {c : Char} {s rest : Bytes} (h : next a s = (some c, rest)) :
    a :: s = encodeChar c ++ rest := by
  have hread {c' : Char} {s' : Bytes} (h : (some c', s') = (some c, rest)) :
      encodeChar c' ++ s' = encodeChar c ++ rest := by
    obtain ⟨hc, rfl⟩ := Prod.mk.inj h
    rw [Option.some.inj hc]
  -- One case for each number of bytes; every other end of the reader gives no character.
  unfold next at h
  dsimp only at h
  split at h
  next hone =>
    have hone : a.toNat < 0x80 := by simpa [UInt8.lt_iff_toNat_lt] using hone
    rw [← hread h, encodeChar_one hone, List.singleton_append]
  split at h
  next => cases h
  next hfirst =>
  have hfirst : 0xC2 ≤ a.toNat ∧ a.toNat ≤ 0xF4 := by
    simpa [UInt8.lt_iff_toNat_lt] using hfirst
  split at h
  next => cases h
  next b s₁ =>
  split at h
  next htwo =>
    have htwo : a.toNat < 0xE0 := by simpa [UInt8.lt_iff_toNat_lt] using htwo
    split at h
    next htail =>
      rw [← hread h, encodeChar_two hfirst.1 htwo htail]
      rfl
    next => cases h
  next htwo =>
  have htwo : 0xE0 ≤ a.toNat := by simpa [UInt8.lt_iff_toNat_lt] using htwo
  split at h
  next => cases h
  next hsecond =>
  have hsecond : isSecond a b = true := by simpa using hsecond
  split at h
  next => cases h
  next d s₂ =>
  split at h
  next => cases h
  next hthird =>
  have hthird : isTail d = true := by simpa using hthird
  split at h
  next hthree =>
    have hthree : a.toNat < 0xF0 := by simpa [UInt8.lt_iff_toNat_lt] using hthree
    rw [← hread h, encodeChar_three htwo hthree hsecond hthird]
    rfl
  next hthree =>
  have hthree : 0xF0 ≤ a.toNat := by simpa [UInt8.lt_iff_toNat_lt] using hthree
  split at h
  next => cases h
  next e s₃ =>
  split at h
  next hfourth =>
    rw [← hread h, encodeChar_four hthree hfirst.2 hsecond hthird hfourth]
    rfl
  next => cases h

end Written

/-- Only a byte within ASCII reads as its character: longer forms stand for numbers past it. -/
theorem eq_of_next {c : Char} (hc : c.toNat < 0x80) {a : UInt8} {s : Bytes}
    (h : (next a s).1 = some c) : a = .ofNat c.toNat := by
  have hwritten := encodeChar_of_next (Prod.ext h rfl : next a s = (some c, (next a s).2))
  rw [encodeChar_of_ascii hc] at hwritten
  exact (List.cons.inj hwritten).1

theorem suffix_next (a : UInt8) (s : Bytes) : (next a s).2 <:+ s := by
  unfold next
  repeat' split
  all_goals simp [List.suffix_cons_iff]

/-- A character within ASCII that is read stands among the bytes. -/
theorem mem_of_mem_decodeLossy {c : Char} (hc : c.toNat < 0x80) {s : Bytes}
    (h : c ∈ (decodeLossy s).toList) : .ofNat c.toNat ∈ s := by
  have hother : '\uFFFD'.toNat = 0xFFFD := by decide
  rw [decodeLossy, String.toList_ofList] at h
  obtain ⟨piece, hpiece, hread⟩ := List.mem_map.mp h
  obtain rfl : piece = some c := by
    cases piece with
    | none =>
      rw [← hread] at hc
      simp [hother] at hc
    | some d => exact congrArg some hread
  clear h hread
  induction hn : s.length using Nat.strongRecOn generalizing s with
  | ind n ih =>
    cases s with
    | nil => cases hpiece
    | cons a s =>
      rw [pieces_cons, List.mem_cons] at hpiece
      rcases hpiece with hfirst | hrest
      · rw [eq_of_next hc hfirst.symm]
        exact List.mem_cons_self
      · have hlength := length_next_le a s
        rw [List.length_cons] at hn
        have hmem := ih _ (by omega) hrest rfl
        exact List.mem_cons_of_mem a ((suffix_next a s).subset hmem)

/-- A character within ASCII stands among the characters of a text if its byte does among the
bytes. -/
theorem mem_of_mem_encodeChars {c : Char} (hc : c.toNat < 0x80) {cs : List Char}
    (h : .ofNat c.toNat ∈ encodeChars cs) : c ∈ cs := by
  obtain ⟨d, hd, hbyte⟩ := List.mem_flatMap.mp h
  have hvalue : (UInt8.ofNat c.toNat).toNat = c.toNat := toNat_ofNat (by omega)
  by_cases hascii : d.toNat < 0x80
  · rw [encodeChar_of_ascii hascii, List.mem_singleton] at hbyte
    have heq : c.toNat = d.toNat := by
      rw [← hvalue, hbyte, toNat_ofNat (by omega)]
    rwa [← Char.ofNat_toNat c, heq, Char.ofNat_toNat]
  · have hlong := UInt8.le_iff_toNat_le.mp (le_of_mem_encodeChar (Nat.le_of_not_lt hascii) hbyte)
    rw [hvalue] at hlong
    exact absurd hlong (Nat.not_le_of_lt hc)

/-- The bytes of no other character begin with a byte of ASCII. -/
theorem eq_of_encodeChar_cons {c d : Char} (hd : d.toNat < 0x80) {s : Bytes}
    (h : encodeChar c = .ofNat d.toNat :: s) : c = d := by
  have hmem : .ofNat d.toNat ∈ encodeChars [c] := by
    rw [encodeChars, List.flatMap_singleton, h]
    exact List.mem_cons_self
  exact (List.mem_singleton.mp (mem_of_mem_encodeChars hd hmem)).symm

theorem encodeChars_eq_nil {cs : List Char} : encodeChars cs = [] ↔ cs = [] := by
  cases cs with
  | nil => exact iff_of_true rfl rfl
  | cons c cs =>
    obtain ⟨a, s, hc, -⟩ := next_encodeChar c
    simp [encodeChars, hc]

/-- Bytes without a malformed piece are those of their characters. -/
theorem encodeChars_of_pieces {cs : List Char} {s : Bytes} (h : pieces s = cs.map some) :
    s = encodeChars cs := by
  induction cs generalizing s with
  | nil =>
    cases s with
    | nil => rfl
    | cons a s => simp [pieces_cons] at h
  | cons c cs ih =>
    cases s with
    | nil => cases h
    | cons a s =>
      rw [pieces_cons, List.map_cons] at h
      obtain ⟨hc, hrest⟩ := List.cons.inj h
      rw [encodeChar_of_next (Prod.ext hc rfl : next a s = (some c, (next a s).2)), ih hrest]
      rfl

private theorem eq_map_some {ps : List (Option Char)} {cs : List Char} (h : ps.mapM id = some cs) :
    ps = cs.map some := by
  induction ps generalizing cs with
  | nil =>
    cases h
    rfl
  | cons p ps ih =>
    simp only [List.mapM_cons, id, Option.bind_eq_bind, Option.bind_eq_some_iff] at h
    obtain ⟨c, rfl, cs', hcs', hpure⟩ := h
    cases hpure
    rw [ih hcs', List.map_cons]

theorem decode?_eq_some {s : Bytes} {t : String} : decode? s = some t ↔ s = encode t := by
  constructor
  · intro h
    obtain ⟨cs, hcs, rfl⟩ := Option.map_eq_some_iff.mp h
    rw [encode, String.toList_ofList]
    exact encodeChars_of_pieces (eq_map_some hcs)
  · rintro rfl
    exact decode?_encode t

/-- What reads as a text in which nothing has been replaced is that text. -/
theorem eq_encode_of_decodeLossy {s : Bytes} {t : String} (h : decodeLossy s = t)
    (ht : '\uFFFD' ∉ t.toList) : s = encode t := by
  subst h
  rw [decodeLossy, String.toList_ofList] at ht
  have hall : ∀ p ∈ pieces s, some (p.getD '\uFFFD') = id p := by
    intro p hp
    cases p with
    | some c => rfl
    | none => exact absurd (List.mem_map_of_mem hp) ht
  rw [encode, decodeLossy, String.toList_ofList]
  apply encodeChars_of_pieces
  rw [List.map_map]
  exact ((List.map_congr_left hall).trans (List.map_id _)).symm

end ModelChat.Text.Utf8
