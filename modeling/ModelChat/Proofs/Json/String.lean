import ModelChat.Json.Printer
import ModelChat.Json.Skip
import ModelChat.Proofs.Text.Utf8

/-! Strings as they stand in JSON texts. Main statement: every way to write a string is read as
that string, and can be passed over, whatever stands behind it; the printed form is one of them. -/
namespace ModelChat.Json
open Text

/-- Four hexadecimal digits of a number, in either case. -/
inductive HexText : Nat → Bytes → Prop
  | digits {a b c d : UInt8} {i j k l : Nat} :
    hexValue a = some i → hexValue b = some j → hexValue c = some k → hexValue d = some l →
    HexText (((i * 16 + j) * 16 + k) * 16 + l) [a, b, c, d]

/-- Ways to write a character in a string: as it is, or escaped by a letter, by its number, or by
the two numbers of a surrogate pair. -/
inductive CharText : Char → Bytes → Prop
  | plain {c : Char} : 0x20 ≤ c.toNat → c ≠ '"' → c ≠ '\\' → CharText c (Utf8.encodeChar c)
  | short {letter : UInt8} {c : Char} :
    shortEscape letter = some c → CharText c ['\\'.toUInt8, letter]
  | numbered {c : Char} {s : Bytes} :
    HexText c.toNat s → CharText c ('\\'.toUInt8 :: 'u'.toUInt8 :: s)
  | pair {c : Char} {lead trail : Nat} {s t : Bytes} :
    HexText lead s → HexText trail t → 0xD800 ≤ lead → lead < 0xDC00 →
    isTrailingSurrogate trail = true →
    c.toNat = 0x10000 + (lead - 0xD800) * 0x400 + (trail - 0xDC00) →
    CharText c ('\\'.toUInt8 :: 'u'.toUInt8 :: s ++ '\\'.toUInt8 :: 'u'.toUInt8 :: t)

/-- Ways to write characters one after another. -/
inductive CharsText : List Char → Bytes → Prop
  | nil : CharsText [] []
  | cons {c : Char} {cs : List Char} {t s : Bytes} :
    CharText c t → CharsText cs s → CharsText (c :: cs) (t ++ s)

/-- Ways to write a string, after its opening quote. -/
def Quoted (text : String) (s : Bytes) : Prop :=
  ∃ t, CharsText text.toList t ∧ s = t ++ ['"'.toUInt8]

theorem readHex_append {n : Nat} {s : Bytes} (h : HexText n s) (rest : Bytes) :
    readHex (s ++ rest) = .ok (n, rest) := by
  cases h with
  | digits ha hb hc hd => simp [readHex, ha, hb, hc, hd]

private theorem toNat_ne {c d : Char} (h : c ≠ d) : c.toNat ≠ d.toNat := by
  intro hn
  rw [← Char.ofNat_toNat c, hn, Char.ofNat_toNat] at h
  exact h rfl

/-- No byte of a plain character is taken for a quote, an escape or a control character. -/
theorem plain_bytes {c : Char} (hlow : 0x20 ≤ c.toNat) (hquote : c ≠ '"') (hslash : c ≠ '\\') :
    ∀ b ∈ Utf8.encodeChar c, b ≠ '"'.toUInt8 ∧ b ≠ '\\'.toUInt8 ∧ ¬ b < 0x20 := by
  intro b hb
  suffices h : b.toNat ≠ 0x22 ∧ b.toNat ≠ 0x5C ∧ 0x20 ≤ b.toNat by
    refine ⟨fun he => h.1 (congrArg UInt8.toNat he), fun he => h.2.1 (congrArg UInt8.toNat he), ?_⟩
    rw [UInt8.lt_iff_toNat_lt]
    exact Nat.not_lt.mpr h.2.2
  by_cases hc : c.toNat < 0x80
  · rw [Utf8.encodeChar_of_ascii hc, List.mem_singleton] at hb
    have hnat : b.toNat = c.toNat := by
      rw [hb, UInt8.toNat_ofNat']
      omega
    rw [hnat]
    exact ⟨toNat_ne hquote, toNat_ne hslash, hlow⟩
  · have hhigh : 0x80 ≤ b.toNat :=
      UInt8.le_iff_toNat_le.mp (Utf8.le_of_mem_encodeChar (Nat.le_of_not_lt hc) hb)
    omega

theorem readEscape_numbered {c : Char} {s : Bytes} (h : HexText c.toNat s) (rest : Bytes) :
    readEscape ('u'.toUInt8 :: (s ++ rest)) = .ok (c, rest) := by
  have hvalid : c.toNat < 0xD800 ∨ (0xDFFF < c.toNat ∧ c.toNat < 0x110000) := c.valid
  have htrail : ¬ isTrailingSurrogate c.toNat = true := by
    simp only [isTrailingSurrogate, Bool.and_eq_true, decide_eq_true_eq]
    omega
  have hlead : ¬ (0xD800 ≤ c.toNat ∧ c.toNat < 0xDC00) := by omega
  have hread : readEscape ('u'.toUInt8 :: (s ++ rest)) = readCodePoint (s ++ rest) := rfl
  rw [hread, readCodePoint, readHex_append h]
  simp only [if_neg htrail, if_neg hlead, Char.ofNat_toNat]

theorem readEscape_pair {c : Char} {lead trail : Nat} {s t : Bytes} (hs : HexText lead s)
    (ht : HexText trail t) (hlow : 0xD800 ≤ lead) (hhigh : lead < 0xDC00)
    (htrail : isTrailingSurrogate trail = true)
    (hc : c.toNat = 0x10000 + (lead - 0xD800) * 0x400 + (trail - 0xDC00)) (rest : Bytes) :
    readEscape ('u'.toUInt8 :: (s ++ '\\'.toUInt8 :: 'u'.toUInt8 :: (t ++ rest))) =
      .ok (c, rest) := by
  have hlead : ¬ isTrailingSurrogate lead = true := by
    simp only [isTrailingSurrogate, Bool.and_eq_true, decide_eq_true_eq]
    omega
  have hread : readEscape ('u'.toUInt8 :: (s ++ '\\'.toUInt8 :: 'u'.toUInt8 :: (t ++ rest))) =
      readCodePoint (s ++ '\\'.toUInt8 :: 'u'.toUInt8 :: (t ++ rest)) := rfl
  rw [hread, readCodePoint, readHex_append hs]
  simp only [if_neg hlead, if_pos (And.intro hlow hhigh), readTrailing, ne_eq, not_true_eq_false,
    if_false, readHex_append ht, htrail, if_true, ← hc, Char.ofNat_toNat]

private theorem readChars_escape {c : Char} {s rest : Bytes} (h : readEscape s = .ok (c, rest))
    (done : List Char) (n : Nat) :
    readChars done none (n + 1) ('\\'.toUInt8 :: s) = readChars (c :: done) none n rest := by
  have hquote : '\\'.toUInt8 ≠ '"'.toUInt8 := by decide
  simp only [readChars, if_neg hquote, if_true, h, Option.map_none]

/-- One character is read in one step. -/
theorem readChars_char {c : Char} {t : Bytes} (h : CharText c t) (done : List Char) (n : Nat)
    (rest : Bytes) :
    readChars done none (n + 1) (t ++ rest) = readChars (c :: done) none n rest := by
  cases h with
  | plain hlow hquote hslash =>
    obtain ⟨a, s, he, hnext⟩ := Utf8.next_encodeChar c
    obtain ⟨hq, hb, hctl⟩ := plain_bytes hlow hquote hslash a (by rw [he]; exact List.mem_cons_self)
    rw [he, List.cons_append, readChars]
    simp only [if_neg hq, if_neg hb, if_neg hctl, hnext rest, Option.map_none]
  | @short letter c hshort => exact readChars_escape (by simp [readEscape, hshort]) done n
  | numbered hs => exact readChars_escape (readEscape_numbered hs rest) done n
  | @pair c lead trail s t hs ht hlow hhigh htrail hc =>
    have hread := readEscape_pair hs ht hlow hhigh htrail hc rest
    have hsplit : '\\'.toUInt8 :: 'u'.toUInt8 :: s ++ '\\'.toUInt8 :: 'u'.toUInt8 :: t ++ rest =
        '\\'.toUInt8 :: 'u'.toUInt8 :: (s ++ '\\'.toUInt8 :: 'u'.toUInt8 :: (t ++ rest)) := by
      simp
    rw [hsplit]
    exact readChars_escape hread done n

theorem CharText.length_pos {c : Char} {t : Bytes} (h : CharText c t) : 0 < t.length := by
  cases h with
  | plain =>
    obtain ⟨a, s, he, -⟩ := Utf8.next_encodeChar c
    rw [he]
    exact Nat.succ_pos _
  | short => exact Nat.succ_pos _
  | numbered => exact Nat.succ_pos _
  | pair => exact Nat.succ_pos _

private theorem readChars_chars {cs : List Char} {t : Bytes} (h : CharsText cs t) (done : List Char)
    {n : Nat} (hn : t.length < n) (rest : Bytes) :
    readChars done none n (t ++ '"'.toUInt8 :: rest) =
      .ok (String.ofList (done.reverse ++ cs), rest) := by
  induction h generalizing done n with
  | nil =>
    obtain ⟨n, rfl⟩ := Nat.exists_eq_add_of_lt hn
    simp [readChars]
  | @cons c cs t s ht hs ih =>
    have hpos := ht.length_pos
    rw [List.length_append] at hn
    obtain ⟨m, rfl⟩ : ∃ m, n = m + 1 := ⟨n - 1, by omega⟩
    rw [List.append_assoc, readChars_char ht, ih (c :: done) (by omega)]
    simp

/-- A written string is read as it is, up to its closing quote. -/
theorem readString_append {text : String} {s : Bytes} (h : Quoted text s) (rest : Bytes) :
    readString (s ++ rest) = .ok (text, rest) := by
  obtain ⟨t, ht, rfl⟩ := h
  have hbound : t.length < (t ++ '"'.toUInt8 :: rest).length := by
    rw [List.length_append, List.length_cons]
    omega
  rw [List.append_assoc, List.singleton_append, readString, readChars_chars ht [] hbound]
  simp

private theorem skipChars_plain {t : Bytes}
    (h : ∀ b ∈ t, b ≠ '"'.toUInt8 ∧ b ≠ '\\'.toUInt8 ∧ ¬ b < 0x20) (n : Nat) (rest : Bytes) :
    skipChars (n + t.length) (t ++ rest) = skipChars n rest := by
  induction t with
  | nil => rfl
  | cons b t ih =>
    obtain ⟨⟨hq, hb, hctl⟩, ht⟩ := List.forall_mem_cons.mp h
    rw [List.length_cons, ← Nat.add_assoc, List.cons_append, skipChars]
    simp only [if_neg hq, if_neg hb, if_neg hctl]
    exact ih ht

private theorem skipChars_escape {s rest : Bytes} (h : skipEscape s = .ok rest) (n : Nat) :
    skipChars (n + 1) ('\\'.toUInt8 :: s) = skipChars n rest := by
  have hquote : '\\'.toUInt8 ≠ '"'.toUInt8 := by decide
  simp only [skipChars, if_neg hquote, if_true, h]

private theorem skipEscape_numbered {n : Nat} {s : Bytes} (h : HexText n s) (rest : Bytes) :
    skipEscape ('u'.toUInt8 :: (s ++ rest)) = .ok rest := by
  have hread : skipEscape ('u'.toUInt8 :: (s ++ rest)) = (readHex (s ++ rest)).map (·.2) := rfl
  rw [hread, readHex_append h]
  rfl

/-- Passing over a character takes no more steps than it has bytes. -/
private theorem skipChars_char {c : Char} {t : Bytes} (h : CharText c t) {n : Nat}
    (hn : t.length ≤ n) (rest : Bytes) :
    ∃ m, n ≤ m + t.length ∧ skipChars n (t ++ rest) = skipChars m rest := by
  cases h with
  | plain hlow hquote hslash =>
    refine ⟨n - (Utf8.encodeChar c).length, by omega, ?_⟩
    have hskip := skipChars_plain (plain_bytes hlow hquote hslash)
      (n - (Utf8.encodeChar c).length) rest
    rwa [Nat.sub_add_cancel hn] at hskip
  | @short letter c hshort =>
    simp only [List.length_cons, List.length_nil] at hn
    obtain ⟨m, rfl⟩ : ∃ m, n = m + 1 := ⟨n - 1, by omega⟩
    exact ⟨m, by simp, skipChars_escape (by simp [skipEscape, hshort]) m⟩
  | @numbered c s hs =>
    simp only [List.length_cons] at hn
    obtain ⟨m, rfl⟩ : ∃ m, n = m + 1 := ⟨n - 1, by omega⟩
    refine ⟨m, by simp only [List.length_cons]; omega, ?_⟩
    exact skipChars_escape (skipEscape_numbered hs rest) m
  | @pair c lead trail s t hs ht =>
    simp only [List.length_cons, List.length_append] at hn
    obtain ⟨m, rfl⟩ : ∃ m, n = m + 1 + 1 := ⟨n - 2, by omega⟩
    refine ⟨m, by simp only [List.length_cons, List.length_append]; omega, ?_⟩
    have hsplit : '\\'.toUInt8 :: 'u'.toUInt8 :: s ++ '\\'.toUInt8 :: 'u'.toUInt8 :: t ++ rest =
        '\\'.toUInt8 :: 'u'.toUInt8 :: (s ++ '\\'.toUInt8 :: 'u'.toUInt8 :: (t ++ rest)) := by
      simp
    rw [hsplit, skipChars_escape (skipEscape_numbered hs _),
      skipChars_escape (skipEscape_numbered ht rest)]

private theorem skipChars_chars {cs : List Char} {t : Bytes} (h : CharsText cs t) {n : Nat}
    (hn : t.length < n) (rest : Bytes) :
    skipChars n (t ++ '"'.toUInt8 :: rest) = .ok rest := by
  -- A character beyond ASCII takes a step for each byte, so the steps left are only bounded.
  induction h generalizing n with
  | nil =>
    obtain ⟨m, rfl⟩ : ∃ m, n = m + 1 := ⟨n - 1, by simp at hn; omega⟩
    simp [skipChars]
  | @cons c cs t s ht hs ih =>
    rw [List.length_append] at hn
    obtain ⟨m, hm, hskip⟩ := skipChars_char ht (show t.length ≤ n by omega)
      (s ++ '"'.toUInt8 :: rest)
    rw [List.append_assoc, hskip]
    exact ih (by omega)

/-- A written string can be passed over. -/
theorem skipString_append {text : String} {s : Bytes} (h : Quoted text s) (rest : Bytes) :
    skipString (s ++ rest) = .ok rest := by
  obtain ⟨t, ht, rfl⟩ := h
  have hbound : t.length < (t ++ '"'.toUInt8 :: rest).length := by
    rw [List.length_append, List.length_cons]
    omega
  rw [List.append_assoc, List.singleton_append, skipString, skipChars_chars ht hbound]

/-- A control character is written by its number. -/
private theorem charText_control {c : Char} (h : c.toNat < 0x20) :
    CharText c (Utf8.encodeChars ['\\', 'u', '0', '0', Nat.digitChar (c.toNat / 16),
      Nat.digitChar (c.toNat % 16)]) := by
  have hdigit : ∀ n < 16, Utf8.encodeChar (Nat.digitChar n) = [(Nat.digitChar n).toUInt8] ∧
      hexValue (Nat.digitChar n).toUInt8 = some n := by decide
  obtain ⟨hhigh, hhighValue⟩ := hdigit (c.toNat / 16) (by omega)
  obtain ⟨hlow, hlowValue⟩ := hdigit (c.toNat % 16) (by omega)
  have hzero : hexValue '0'.toUInt8 = some 0 := by decide
  have hhex := HexText.digits hzero hzero hhighValue hlowValue
  rw [show ((0 * 16 + 0) * 16 + c.toNat / 16) * 16 + c.toNat % 16 = c.toNat by omega] at hhex
  have hwritten : Utf8.encodeChars ['\\', 'u', '0', '0', Nat.digitChar (c.toNat / 16),
      Nat.digitChar (c.toNat % 16)] = '\\'.toUInt8 :: 'u'.toUInt8 :: ['0'.toUInt8, '0'.toUInt8,
        (Nat.digitChar (c.toNat / 16)).toUInt8, (Nat.digitChar (c.toNat % 16)).toUInt8] := by
    simp only [Utf8.encodeChars, List.flatMap_cons, List.flatMap_nil, hhigh, hlow]
    rfl
  rw [hwritten]
  exact .numbered hhex

/-- The printed form of a character is one of the ways to write it. -/
theorem charText_escapeChar (c : Char) : CharText c (Utf8.encodeChars (escapeChar c)) := by
  unfold escapeChar
  split
  · exact .short rfl
  · exact .short rfl
  · exact .short rfl
  · exact .short rfl
  · exact .short rfl
  · exact .short rfl
  · exact .short rfl
  next c hquote hslash _ _ _ _ _ =>
    split
    next hctl => exact charText_control hctl
    next hctl =>
      have hplain := CharText.plain (Nat.le_of_not_lt hctl) hquote hslash
      simpa [Utf8.encodeChars] using hplain

theorem charsText_escape (cs : List Char) :
    CharsText cs (Utf8.encodeChars (cs.flatMap escapeChar)) := by
  induction cs with
  | nil => exact .nil
  | cons c cs ih =>
    rw [List.flatMap_cons, Utf8.encodeChars_append]
    exact .cons (charText_escapeChar c) ih

/-- A string is printed after a quote in one of the ways to write it. -/
theorem stringText_quoted (s : String) :
    ∃ t, Utf8.encodeChars (stringText s) = '"'.toUInt8 :: t ∧ Quoted s t := by
  refine ⟨_, ?_, _, charsText_escape s.toList, rfl⟩
  rw [stringText, Utf8.encodeChars_append]
  rfl

end ModelChat.Json
