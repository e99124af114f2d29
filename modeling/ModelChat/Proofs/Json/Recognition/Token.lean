import ModelChat.Proofs.Json.Grammar

/-! What is read as a value without brackets. Main statement: whatever is read as a number, a string
or a word is a text of it. -/
namespace ModelChat.Json
open Text

/-- All that a reader reads is a text of what it gives. -/
def Recognises {α : Type} (read : Reader α) (P : α → Bytes → Prop) : Prop :=
  ∀ {s a rest}, read s = .ok (a, rest) → ∃ t, P a t ∧ s = t ++ rest

theorem exists_blank (s : Bytes) : ∃ b, Blank b ∧ s = b ++ skipBlanks s :=
  ⟨s.takeWhile isBlank, fun _ => List.mem_takeWhile_imp, List.takeWhile_append_dropWhile.symm⟩

section Numbers

private theorem digit_eq {c : UInt8} (h : isDigit c = true) :
    c.toNat - 0x30 < 10 ∧ UInt8.ofNat (0x30 + (c.toNat - 0x30)) = c := by
  simp only [isDigit, Bool.and_eq_true, decide_eq_true_eq, UInt8.le_iff_toNat_le] at h
  have hlow : 0x30 ≤ c.toNat := h.1
  have hhigh : c.toNat ≤ 0x39 := h.2
  refine ⟨by omega, ?_⟩
  rw [Nat.add_sub_cancel' hlow, UInt8.ofNat_toNat]

theorem spanDigits_eq {s rest : Bytes} {ds : List Nat} (h : spanDigits s = (ds, rest)) :
    AreDigits ds ∧ s = digitsText ds ++ rest := by
  induction s generalizing ds with
  | nil =>
    cases h
    exact ⟨List.forall_mem_nil _, rfl⟩
  | cons c s ih =>
    unfold spanDigits at h
    split at h
    next hc =>
      obtain ⟨rfl, rfl⟩ := Prod.mk.inj h
      obtain ⟨hlt, hdigit⟩ := digit_eq hc
      obtain ⟨hdigits, htext⟩ := ih rfl
      refine ⟨List.forall_mem_cons.mpr ⟨hlt, hdigits⟩, ?_⟩
      rw [digitsText, List.map_cons, hdigit, List.cons_append]
      exact congrArg (c :: ·) htext
    next =>
      cases h
      exact ⟨List.forall_mem_nil _, rfl⟩

theorem recognises_readWhole : Recognises readWhole fun ds t =>
    AreDigits ds ∧ (∃ d tail, ds = d :: tail ∧ (d = 0 → tail = [])) ∧ t = digitsText ds := by
  intro s ds rest h
  have hzero : AreDigits [0] := List.forall_mem_singleton.mpr (by decide)
  unfold readWhole at h
  split at h
  · cases h
  next c s =>
    split at h
    next hc =>
      subst hc
      split at h
      · split at h
        · cases h
        · cases h
          exact ⟨_, ⟨hzero, ⟨0, [], rfl, fun _ => rfl⟩, rfl⟩, rfl⟩
      · cases h
        exact ⟨_, ⟨hzero, ⟨0, [], rfl, fun _ => rfl⟩, rfl⟩, rfl⟩
    next hc =>
      split at h
      next hdigit =>
        have hspan := Except.ok.inj h
        obtain ⟨hdigits, htext⟩ := spanDigits_eq hspan
        refine ⟨_, ⟨hdigits, ?_, rfl⟩, htext⟩
        simp only [spanDigits, hdigit, if_true] at hspan
        obtain ⟨rfl, -⟩ := Prod.mk.inj hspan
        refine ⟨_, _, rfl, fun hd => absurd ?_ hc⟩
        rw [← (digit_eq hdigit).2, hd]
        rfl
      next => cases h

theorem recognises_readFraction : Recognises readFraction fun ds t =>
    AreDigits ds ∧ t = fractionText ds := by
  intro s ds rest h
  unfold readFraction at h
  split at h
  · cases h
    exact ⟨_, ⟨List.forall_mem_nil _, rfl⟩, rfl⟩
  next c s =>
    split at h
    next hc =>
      subst hc
      split at h
      · cases h
      · cases h
      next hnil hsome =>
        obtain ⟨hdigits, htext⟩ := spanDigits_eq (Except.ok.inj h)
        refine ⟨_, ⟨hdigits, rfl⟩, ?_⟩
        cases ds with
        | nil => exact absurd (Except.ok.inj h) (hsome rest)
        | cons d ds =>
          rw [fractionText, htext, List.cons_append]
          exact List.cons_ne_nil d ds
    next =>
      cases h
      exact ⟨_, ⟨List.forall_mem_nil _, rfl⟩, rfl⟩

theorem readSign_eq {s rest : Bytes} {negative : Bool} (h : readSign s = (negative, rest)) :
    ∃ t, SignText negative t ∧ s = t ++ rest := by
  unfold readSign at h
  split at h
  · cases h
    exact ⟨_, .none, rfl⟩
  · split at h
    next hc =>
      cases h
      exact ⟨_, .plus, by rw [hc]; rfl⟩
    next =>
      split at h
      next hc =>
        cases h
        exact ⟨_, .minus, by rw [hc]; rfl⟩
      next =>
        cases h
        exact ⟨_, .none, rfl⟩

theorem recognises_readExponent : Recognises readExponent ExponentText := by
  intro s e rest h
  unfold readExponent at h
  split at h
  · cases h
    exact ⟨_, .none, rfl⟩
  next c s =>
    split at h
    next hmark =>
      generalize hsigned : readSign s = signed at h
      obtain ⟨negative, s'⟩ := signed
      obtain ⟨sign, hsign, rfl⟩ := readSign_eq hsigned
      cases s' with
      | nil => cases h
      | cons d t =>
        simp only at h
        split at h
        next hdigit =>
          generalize hspan : spanDigits (d :: t) = spanned at h
          obtain ⟨ds, rest'⟩ := spanned
          obtain ⟨rfl, rfl⟩ := Prod.mk.inj (Except.ok.inj h)
          obtain ⟨hdigits, htext⟩ := spanDigits_eq hspan
          have hne : ds ≠ [] := by
            rintro rfl
            simp [spanDigits, hdigit] at hspan
          exact ⟨_, .some hmark hsign hdigits hne, by rw [htext]; simp⟩
        next => cases h
    next =>
      cases h
      exact ⟨_, .none, rfl⟩

theorem recognises_readNumeral (negative : Bool) :
    Recognises (readNumeral negative) fun n t => n.negative = negative ∧ n.Magnitude t := by
  intro s n rest h
  simp only [readNumeral, bind_eq_ok] at h
  obtain ⟨⟨whole, s₁⟩, hwhole, ⟨fraction, s₂⟩, hfraction, ⟨exponent, s₃⟩, hexponent, h⟩ := h
  obtain ⟨rfl, rfl⟩ := Prod.mk.inj (Except.ok.inj h)
  obtain ⟨_, ⟨hdigits, hbegun, rfl⟩, rfl⟩ := recognises_readWhole hwhole
  obtain ⟨_, ⟨hpart, rfl⟩, rfl⟩ := recognises_readFraction hfraction
  obtain ⟨x, hx, rfl⟩ := recognises_readExponent hexponent
  exact ⟨_, ⟨rfl, hdigits, hbegun, hpart, x, hx, rfl⟩, by simp⟩

theorem recognises_readNumber (negative : Bool) : Recognises (readNumber negative) fun v t =>
    ∃ n : Numeral, n.negative = negative ∧ n.Magnitude t ∧ n.value = .ok v := by
  intro s v rest h
  simp only [readNumber, bind_eq_ok] at h
  obtain ⟨⟨n, s'⟩, hnumeral, h⟩ := h
  obtain ⟨t, ⟨hnegative, ht⟩, rfl⟩ := recognises_readNumeral negative hnumeral
  split at h
  next hvalue =>
    cases h
    exact ⟨t, ⟨n, hnegative, ht, hvalue⟩, rfl⟩
  next => cases h

end Numbers

section Strings

private theorem hexValue_lt {b : UInt8} {n : Nat} (h : hexValue b = some n) : n < 16 := by
  unfold hexValue at h
  dsimp only at h
  repeat' split at h
  all_goals cases h
  all_goals omega

private theorem HexText.lt {n : Nat} {t : Bytes} (h : HexText n t) : n < 0x10000 := by
  cases h with
  | digits ha hb hc hd =>
    have := hexValue_lt ha
    have := hexValue_lt hb
    have := hexValue_lt hc
    have := hexValue_lt hd
    omega

theorem recognises_readHex : Recognises readHex HexText := by
  intro s n rest h
  unfold readHex at h
  split at h
  · split at h
    next ha hb hc hd =>
      cases h
      exact ⟨_, .digits ha hb hc hd, rfl⟩
    next => cases h
  · cases h

theorem recognises_readTrailing (lead : Nat) : Recognises (readTrailing lead) fun c t =>
    ∃ trail u, HexText trail u ∧ isTrailingSurrogate trail = true ∧
      c = .ofNat (0x10000 + (lead - 0xD800) * 0x400 + (trail - 0xDC00)) ∧
      t = '\\'.toUInt8 :: 'u'.toUInt8 :: u := by
  intro s c rest h
  unfold readTrailing at h
  split at h
  next => cases h
  split at h
  next => cases h
  next hslash =>
  split at h
  next => cases h
  split at h
  next => cases h
  next hletter =>
  split at h
  next => cases h
  next hhex =>
  split at h
  next htrail =>
    obtain ⟨hchar, rfl⟩ := Prod.mk.inj (Except.ok.inj h)
    obtain ⟨u, hu, rfl⟩ := recognises_readHex hhex
    rw [Decidable.not_not.mp hslash, Decidable.not_not.mp hletter]
    exact ⟨_, ⟨_, u, hu, htrail, hchar.symm, rfl⟩, rfl⟩
  next => cases h

theorem recognises_readCodePoint : Recognises readCodePoint fun c t =>
    CharText c ('\\'.toUInt8 :: 'u'.toUInt8 :: t) := by
  intro s c rest h
  unfold readCodePoint at h
  split at h
  next => cases h
  next n s' hhex =>
  obtain ⟨t, ht, rfl⟩ := recognises_readHex hhex
  have hlt := ht.lt
  split at h
  next => cases h
  next htrail =>
  simp only [isTrailingSurrogate, Bool.and_eq_true, decide_eq_true_eq] at htrail
  split at h
  next hlead =>
    obtain ⟨_, ⟨trail, u, hu, hsecond, hchar, rfl⟩, rfl⟩ := recognises_readTrailing n h
    have hrange : 0xDC00 ≤ trail ∧ trail < 0xE000 := by
      simpa [isTrailingSurrogate] using hsecond
    have hvalue := Utf8.toNat_charOfNat
      (n := 0x10000 + (n - 0xD800) * 0x400 + (trail - 0xDC00)) (.inr (by omega))
    rw [← hchar] at hvalue
    refine ⟨t ++ '\\'.toUInt8 :: 'u'.toUInt8 :: u, ?_, by simp⟩
    exact .pair ht hu hlead.1 hlead.2 hsecond hvalue
  next hlead =>
    cases h
    have hvalue := Utf8.toNat_charOfNat (n := n) (by unfold Nat.isValidChar; omega)
    exact ⟨t, .numbered (by rwa [hvalue]), rfl⟩

theorem recognises_readEscape :
    Recognises readEscape fun c t => CharText c ('\\'.toUInt8 :: t) := by
  intro s c rest h
  unfold readEscape at h
  split at h
  next => cases h
  split at h
  next hshort =>
    cases h
    exact ⟨_, .short hshort, rfl⟩
  next =>
    split at h
    next hletter =>
      obtain ⟨t, ht, rfl⟩ := recognises_readCodePoint h
      rw [hletter]
      exact ⟨_, ht, rfl⟩
    next => cases h

/-- A string with a malformed piece is not read. -/
private theorem readChars_spoilt (done : List Char) (length n : Nat) (s : Bytes)
    (p : String × Bytes) : readChars done (some length) n s ≠ .ok p := by
  induction n generalizing done length s with
  | zero =>
    intro h
    unfold readChars at h
    cases h
  | succ n ih =>
    cases s with
    | nil =>
      intro h
      unfold readChars at h
      cases h
    | cons c s =>
      intro h
      unfold readChars at h
      dsimp only [Option.map_some] at h
      split at h
      next => cases h
      split at h
      next =>
        split at h
        next => cases h
        next => exact ih _ _ _ h
      next =>
        split at h
        next => cases h
        split at h
        next => exact ih _ _ _ h
        next => exact ih _ _ _ h

/-- What is read in one step and is no escape stands for itself. -/
private theorem charText_of_next {a : UInt8} {s rest : Bytes} {c : Char}
    (h : Utf8.next a s = (some c, rest)) (hquote : a ≠ '"'.toUInt8) (hslash : a ≠ '\\'.toUInt8)
    (hcontrol : ¬ a < 0x20) : CharText c (Utf8.encodeChar c) := by
  have hfirst (hc : c.toNat < 0x80) : a = .ofNat c.toNat :=
    Utf8.eq_of_next hc (congrArg Prod.fst h)
  refine .plain ?_ ?_ ?_
  · by_contra hlow
    have hvalue : (UInt8.ofNat c.toNat).toNat = c.toNat := by
      rw [UInt8.toNat_ofNat']
      omega
    refine hcontrol ?_
    rw [hfirst (by omega), UInt8.lt_iff_toNat_lt, hvalue]
    exact Nat.lt_of_not_le hlow
  · rintro rfl
    exact hquote (hfirst (by decide))
  · rintro rfl
    exact hslash (hfirst (by decide))

private theorem readChars_eq {done : List Char} {n : Nat} {s rest : Bytes} {text : String}
    (h : readChars done none n s = .ok (text, rest)) : ∃ cs t, CharsText cs t ∧
      text = String.ofList (done.reverse ++ cs) ∧ s = t ++ '"'.toUInt8 :: rest := by
  -- One character is read in each step; only those read before it differ.
  induction n generalizing done s with
  | zero =>
    unfold readChars at h
    cases h
  | succ n ih =>
    cases s with
    | nil =>
      unfold readChars at h
      cases h
    | cons a s =>
      have hmore {c : Char} {t s' : Bytes} (ht : CharText c t) (hsplit : a :: s = t ++ s')
          (hread : readChars (c :: done) none n s' = .ok (text, rest)) : ∃ cs t, CharsText cs t ∧
            text = String.ofList (done.reverse ++ cs) ∧ a :: s = t ++ '"'.toUInt8 :: rest := by
        obtain ⟨cs, u, hu, htext, rfl⟩ := ih hread
        exact ⟨c :: cs, t ++ u, .cons ht hu, by simpa using htext, by simp [hsplit]⟩
      unfold readChars at h
      dsimp only [Option.map_none] at h
      split at h
      next hquote =>
        cases h
        exact ⟨[], [], .nil, by simp, by rw [hquote]; rfl⟩
      next hquote =>
        split at h
        next hslash =>
          split at h
          next => cases h
          next hescape =>
            obtain ⟨t, ht, rfl⟩ := recognises_readEscape hescape
            exact hmore ht (by rw [hslash]; rfl) h
        next hslash =>
          split at h
          next => cases h
          next hcontrol =>
            split at h
            next hnext =>
              exact hmore (charText_of_next hnext hquote hslash hcontrol)
                (Utf8.encodeChar_of_next hnext) h
            next => exact absurd h (readChars_spoilt _ _ _ _ _)

theorem recognises_readString : Recognises readString Quoted := by
  intro s text rest h
  obtain ⟨cs, t, ht, rfl, rfl⟩ := readChars_eq h
  exact ⟨t ++ ['"'.toUInt8], ⟨t, by simpa using ht, rfl⟩, by simp⟩

end Strings

section Scalars

theorem readWord_eq {w s rest : Bytes} (h : readWord w s = .ok rest) : s = w ++ rest := by
  induction w generalizing s with
  | nil => exact Except.ok.inj h
  | cons c w ih =>
    cases s with
    | nil => cases h
    | cons a s =>
      unfold readWord at h
      split at h
      next hc =>
        rw [hc, ih h]
        rfl
      next => cases h

private theorem readWord_map_eq {w s rest : Bytes} {v a : Json}
    (h : (readWord w s).map (v, ·) = .ok (a, rest)) : a = v ∧ s = w ++ rest := by
  obtain ⟨_, hread, heq⟩ := map_eq_ok.mp h
  cases heq
  exact ⟨rfl, readWord_eq hread⟩

/-- A value without brackets is read from one of its texts. -/
theorem recognises_readScalar (c : UInt8) :
    Recognises (readScalar c) fun v t => Scalar v (c :: t) := by
  intro s v rest h
  unfold readScalar at h
  split at h
  next hc =>
    obtain ⟨rfl, rfl⟩ := readWord_map_eq h
    rw [hc]
    exact ⟨_, .null, rfl⟩
  split at h
  next hc =>
    obtain ⟨rfl, rfl⟩ := readWord_map_eq h
    rw [hc]
    exact ⟨_, .true, rfl⟩
  split at h
  next hc =>
    obtain ⟨rfl, rfl⟩ := readWord_map_eq h
    rw [hc]
    exact ⟨_, .false, rfl⟩
  split at h
  next hc =>
    obtain ⟨t, ⟨n, hnegative, ht, hvalue⟩, rfl⟩ := recognises_readNumber true h
    exact ⟨t, .number ⟨t, ht, by rw [hnegative, hc]; rfl⟩ hvalue, rfl⟩
  split at h
  next =>
    obtain ⟨t, ⟨n, hnegative, ht, hvalue⟩, hsplit⟩ := recognises_readNumber false h
    obtain ⟨d, u, rfl, -⟩ := ht.head
    obtain ⟨rfl, rfl⟩ := List.cons.inj hsplit
    exact ⟨u, .number ⟨_, ht, by rw [hnegative]; rfl⟩ hvalue, rfl⟩
  split at h
  next hc =>
    obtain ⟨⟨text, s'⟩, hread, heq⟩ := map_eq_ok.mp h
    cases heq
    obtain ⟨t, ht, rfl⟩ := recognises_readString hread
    rw [hc]
    exact ⟨t, .string ht, rfl⟩
  next => cases h

end Scalars
end ModelChat.Json
