import ModelChat.Json.Printer
import ModelChat.Proofs.Json.Number
import ModelChat.Proofs.Text.Utf8

/-! Numbers as they are printed. Main statements: an integer of 64 bits is printed as a numeral of
its value, and a finite floating-point number as some numeral. -/
namespace ModelChat.Json
open Decimal Text
open Float.Model.UnpackedFloat (unpack unpackExponent unpackMantissa)

/-- What digits stand for. -/
def digitValues (cs : List Char) : List Nat :=
  cs.map (·.toNat - '0'.toNat)

def AllDigits (cs : List Char) : Prop :=
  ∀ c ∈ cs, c.isDigit = true

theorem AllDigits.append {cs ds : List Char} (hcs : AllDigits cs) (hds : AllDigits ds) :
    AllDigits (cs ++ ds) :=
  List.forall_mem_append.mpr ⟨hcs, hds⟩

theorem allDigits_zeros (n : Nat) : AllDigits (List.replicate n '0') := by
  intro c hc
  rw [List.eq_of_mem_replicate hc]
  rfl

theorem allDigits_toDigits (n : Nat) : AllDigits (Nat.toDigits 10 n) :=
  fun _ hc => Nat.isDigit_of_mem_toDigits (by decide) (by decide) hc

private theorem digit_bounds {c : Char} (h : c.isDigit = true) :
    0x30 ≤ c.toNat ∧ c.toNat ≤ 0x39 := by
  simpa [Char.isDigit, UInt32.le_iff_toNat_le] using h

theorem areDigits_values {cs : List Char} (h : AllDigits cs) : AreDigits (digitValues cs) := by
  intro d hd
  obtain ⟨c, hc, rfl⟩ := List.mem_map.mp hd
  have hbounds := digit_bounds (h c hc)
  have hzero : '0'.toNat = 0x30 := rfl
  omega

theorem encodeChars_digits {cs : List Char} (h : AllDigits cs) :
    Utf8.encodeChars cs = digitsText (digitValues cs) := by
  induction cs with
  | nil => rfl
  | cons c cs ih =>
    obtain ⟨hc, hcs⟩ := List.forall_mem_cons.mp h
    obtain ⟨hlow, hhigh⟩ := digit_bounds hc
    have hbyte : Utf8.encodeChar c = [.ofNat (0x30 + (c.toNat - '0'.toNat))] := by
      have hzero : '0'.toNat = 0x30 := rfl
      rw [Utf8.encodeChar_of_ascii (by omega), hzero, Nat.add_sub_cancel' hlow]
    have hrest := ih hcs
    simp only [Utf8.encodeChars, List.flatMap_cons, hbyte, digitsText, digitValues, List.map_cons]
      at hrest ⊢
    rw [hrest, List.singleton_append]

/-- Only zero begins with zero. -/
theorem head_toDigits {n : Nat} (h : (Nat.toDigits 10 n).head? = some '0') : n = 0 := by
  induction n using Nat.strongRecOn with
  | ind n ih =>
    by_cases hn : n < 10
    · have hdigit : ∀ n < 10, (Nat.toDigits 10 n).head? = some '0' → n = 0 := by decide
      exact hdigit n hn h
    · -- A number of several digits begins like its tenth.
      have hsplit := Nat.toDigits_of_base_le (by decide) (Nat.le_of_not_lt hn)
      obtain ⟨c, cs, hcs⟩ :=
        List.exists_cons_of_ne_nil (Nat.toDigits_ne_nil (b := 10) (n := n / 10))
      have hfront : (Nat.toDigits 10 (n / 10)).head? = some '0' := by
        rw [hsplit, hcs] at h
        rw [hcs]
        exact h
      have hzero := ih (n / 10) (by omega) hfront
      omega

theorem foldl_toDigits (n : Nat) :
    (digitValues (Nat.toDigits 10 n)).foldl (fun n d => n * 10 + d) 0 = n := by
  have h := Nat.ofDigitChars_ten_toDigits (n := n)
  rw [Nat.ofDigitChars_eq_foldl] at h
  rw [digitValues, List.foldl_map]
  simpa only [Nat.mul_comm 10] using h

/-- All digits of a number below `2 ^ 64` fit. -/
theorem appendDigits_eq {ds : List Nat} {m : Nat}
    (h : ds.foldl (fun n d => n * 10 + d) m < Nat.pow 2 64) :
    appendDigits m ds = (ds.foldl (fun n d => n * 10 + d) m, 0) := by
  have hgrows (ds : List Nat) (n : Nat) : n ≤ ds.foldl (fun n d => n * 10 + d) n := by
    induction ds generalizing n with
    | nil => exact Nat.le_refl n
    | cons d ds ih => exact Nat.le_trans (by omega) (ih (n * 10 + d))
  induction ds generalizing m with
  | nil => rfl
  | cons d ds ih =>
    rw [List.foldl_cons] at h ⊢
    rw [appendDigits, if_pos (Nat.lt_of_le_of_lt (hgrows ds _) h), ih h]

/-- A numeral in characters: digits, a fraction if there is one, and an exponent. -/
private theorem magnitude_chars {w f : List Char} (hwhole : AllDigits w)
    (hbegun : ∃ c cs, w = c :: cs ∧ (c = '0' → cs = [])) (hfraction : AllDigits f)
    {e : Option (Bool × List Nat)} {x : List Char} (hx : ExponentText e (Utf8.encodeChars x))
    (negative : Bool) :
    Numeral.Magnitude ⟨negative, digitValues w, digitValues f, e⟩
      (Utf8.encodeChars (w ++ ((if f = [] then [] else '.' :: f) ++ x))) where
  digits := areDigits_values hwhole
  begun := by
    obtain ⟨c, cs, rfl, hzero⟩ := hbegun
    refine ⟨_, _, rfl, fun hd => ?_⟩
    obtain ⟨hlow, -⟩ := digit_bounds (hwhole c List.mem_cons_self)
    have hc : c = '0' := by
      have hvalue : c.toNat - '0'.toNat = 0 := hd
      have hnum : '0'.toNat = 0x30 := rfl
      rw [← Char.ofNat_toNat c, show c.toNat = 0x30 by omega]
    rw [hzero hc]
    rfl
  fraction := areDigits_values hfraction
  written := by
    have hpart : Utf8.encodeChars (if f = [] then [] else '.' :: f) =
        fractionText (digitValues f) := by
      cases f with
      | nil => rfl
      | cons c cs =>
        rw [if_neg (List.cons_ne_nil c cs), Utf8.encodeChars, List.flatMap_cons,
          ← Utf8.encodeChars, encodeChars_digits hfraction]
        rfl
    refine ⟨_, hx, ?_⟩
    rw [Utf8.encodeChars_append, Utf8.encodeChars_append, hpart, encodeChars_digits hwhole]

/-- A sign before it makes a numeral negative. -/
private theorem text_of_magnitude {negative : Bool} {whole fraction : List Nat}
    {e : Option (Bool × List Nat)} {cs : List Char}
    (h : Numeral.Magnitude ⟨negative, whole, fraction, e⟩ (Utf8.encodeChars cs)) :
    Numeral.Text ⟨negative, whole, fraction, e⟩
      (Utf8.encodeChars ((if negative then ['-'] else []) ++ cs)) := by
  refine ⟨_, h, ?_⟩
  cases negative <;> rfl

private theorem begun_toDigits (n : Nat) :
    ∃ c cs, Nat.toDigits 10 n = c :: cs ∧ (c = '0' → cs = []) := by
  obtain ⟨c, cs, hcs⟩ := List.exists_cons_of_ne_nil (Nat.toDigits_ne_nil (b := 10) (n := n))
  refine ⟨c, cs, hcs, ?_⟩
  rintro rfl
  have hn : n = 0 := head_toDigits (by rw [hcs]; rfl)
  subst hn
  exact (List.cons.inj hcs).2.symm

/-- The numeral of an integer. -/
def integerNumeral (i : Int) : Numeral :=
  ⟨i < 0, digitValues (Nat.toDigits 10 i.natAbs), [], none⟩

theorem integerText_numeral (i : Int) :
    (integerNumeral i).Text (Utf8.encodeChars (integerText i)) := by
  have h := text_of_magnitude (magnitude_chars (allDigits_toDigits i.natAbs)
    (begun_toDigits i.natAbs) (List.forall_mem_nil _) .none (i < 0) (x := []))
  simp only [if_true, List.append_nil] at h
  have hread : integerText i =
      (if decide (i < 0) = true then ['-'] else []) ++ Nat.toDigits 10 i.natAbs := by
    unfold integerText
    by_cases hi : i < 0 <;> simp [hi]
  rw [hread]
  exact h

/-- Integers of 64 bits, with a sign or without. -/
def IsWord (i : Int) : Prop :=
  -(Nat.pow 2 63 : Nat) ≤ i ∧ i < (Nat.pow 2 64 : Nat)

theorem integerNumeral_value {i : Int} (h : IsWord i) :
    (integerNumeral i).value = .ok (.integer i) := by
  obtain ⟨hlow, hhigh⟩ := h
  have hpow : Nat.pow 2 63 < Nat.pow 2 64 := by decide
  have hdigits : appendDigits 0 (digitValues (Nat.toDigits 10 i.natAbs)) = (i.natAbs, 0) := by
    rw [appendDigits_eq, foldl_toDigits]
    rw [foldl_toDigits]
    omega
  by_cases hi : i < 0
  · have hfit : i.natAbs ≠ 0 ∧ i.natAbs ≤ Nat.pow 2 63 := by omega
    have hvalue : -(i.natAbs : Int) = i := by omega
    have hread : (integerNumeral i).value = .ok (.integer (-(i.natAbs : Int))) := by
      simp only [integerNumeral, Numeral.value, hdigits, hi, and_self, if_true, decide_true,
        Bool.not_true, Bool.false_eq_true, if_false, if_pos hfit]
    rw [hread, hvalue]
  · have hvalue : (i.natAbs : Int) = i := by omega
    simp [integerNumeral, Numeral.value, hdigits, hi, hvalue]

private theorem binary_num_pos {m : Nat} (hm : 0 < m) (q : Int) : 0 < (Ratio.binary m q).num := by
  unfold Ratio.binary
  split
  · exact Nat.mul_pos hm (Nat.pow_pos (by decide))
  · exact hm

private theorem decimal_zero (e : Int) :
    (Ratio.decimal 0 e).num = 0 ∧ 0 < (Ratio.decimal 0 e).den := by
  unfold Ratio.decimal
  split
  · exact ⟨Nat.zero_mul _, Nat.one_pos⟩
  · exact ⟨rfl, Nat.pow_pos (by decide)⟩

/-- No number but zero is read from zero. -/
private theorem reads_zero {b : Binary} (hb : b.significand ≠ 0) (e : Int) :
    b.reads (Ratio.decimal 0 e) = false := by
  obtain ⟨hnum, hden⟩ := decimal_zero e
  have hlower : 0 < b.lower.num := by
    unfold Binary.lower
    split
    · exact binary_num_pos (by omega) _
    · exact binary_num_pos (by omega) _
  have hpos : 0 < b.lower.num * (Ratio.decimal 0 e).den := Nat.mul_pos hlower hden
  have hle : b.lower.le (Ratio.decimal 0 e) = false := by
    simp only [Ratio.le, hnum, Nat.zero_mul, decide_eq_false_iff_not]
    omega
  have hlt : b.lower.lt (Ratio.decimal 0 e) = false := by
    simp only [Ratio.lt, hnum, Nat.zero_mul, decide_eq_false_iff_not]
    omega
  simp [Binary.reads, hle, hlt]

/-- A neighbour reads back. -/
private theorem reads_neighbour {b : Binary} {e : Int} {d : Digits}
    (h : neighbour? b e = some d) : b.reads (.decimal d.digits e) = true := by
  unfold neighbour? at h
  extract_lets r scaled below above twice middle at h
  cases hbelow : b.reads (.decimal below e) with
  | false =>
    cases habove : b.reads (.decimal above e) with
    | false => simp [hbelow, habove] at h
    | true =>
      obtain rfl : ⟨above, e⟩ = d := by simpa [hbelow, habove] using h
      exact habove
  | true =>
    cases habove : b.reads (.decimal above e) with
    | false =>
      obtain rfl : ⟨below, e⟩ = d := by simpa [hbelow, habove] using h
      exact hbelow
    | true =>
      obtain rfl | rfl : ⟨below, e⟩ = d ∨ ⟨above, e⟩ = d := by
        simp only [hbelow, habove] at h
        repeat' split at h
        all_goals simp_all
      · exact hbelow
      · exact habove

private theorem neighbour?_ne_zero {b : Binary} (hb : b.significand ≠ 0) {e : Int} {d : Digits}
    (h : neighbour? b e = some d) : d.digits ≠ 0 := by
  intro hzero
  have hreads := reads_neighbour h
  rw [hzero, reads_zero hb] at hreads
  cases hreads

private theorem search_zero {b : Binary} (hb : b.significand ≠ 0) (n : Nat) (e : Int) :
    (search b e n).digits ≠ 0 ∨ search b e n = ⟨0, 0⟩ := by
  induction n generalizing e with
  | zero =>
    unfold search
    cases h : neighbour? b e with
    | none => exact .inr rfl
    | some d => exact .inl (neighbour?_ne_zero hb h)
  | succ n ih =>
    unfold search
    cases h : neighbour? b e with
    | none => exact ih (e - 1)
    | some d => exact .inl (neighbour?_ne_zero hb h)

private theorem trim_zero {d : Digits} (n : Nat) (h : d.digits ≠ 0 ∨ d = ⟨0, 0⟩) :
    (d.trim n).digits ≠ 0 ∨ d.trim n = ⟨0, 0⟩ := by
  induction n generalizing d with
  | zero => exact h
  | succ n ih =>
    unfold Digits.trim
    split
    next hzeros =>
      refine ih (.inl ?_)
      change d.digits / 10 ≠ 0
      omega
    · exact h

/-- Digits of zero carry no power of ten. -/
private theorem shortest_zero {b : Binary} (hb : b.significand ≠ 0) (h : b.shortest.digits = 0) :
    b.shortest.exponent = 0 := by
  rcases trim_zero 20 (search_zero hb 17 b.leading) with hne | heq
  · exact absurd h hne
  · exact congrArg Digits.exponent heq

private theorem exponentText_chars (e : Int) :
    ExponentText (some (e < 0, digitValues (Nat.toDigits 10 e.natAbs)))
      (Utf8.encodeChars ('e' :: (if e < 0 then '-' else '+') :: Nat.toDigits 10 e.natAbs)) := by
  have hdigits := allDigits_toDigits e.natAbs
  have hne : digitValues (Nat.toDigits 10 e.natAbs) ≠ [] := by
    simp [digitValues, Nat.toDigits_ne_nil]
  rw [Utf8.encodeChars, List.flatMap_cons, List.flatMap_cons, ← Utf8.encodeChars,
    encodeChars_digits hdigits]
  by_cases he : e < 0
  · simp only [he, if_true, decide_true]
    exact .some (.inl rfl) .minus (areDigits_values hdigits) hne
  · simp only [he, if_false, decide_false]
    exact .some (.inl rfl) .plus (areDigits_values hdigits) hne

private theorem isFinite_unpack (spec : Float.Model.Format) (b : BitVec spec.numBits) :
    (unpack spec b).isFinite = false ↔ unpackExponent b = -1#(spec.exponentBits) := by
  have hfinite : ¬ true = false := by decide
  unfold unpack
  by_cases h : unpackExponent b = -1#(spec.exponentBits)
  · rw [if_pos h]
    by_cases hmantissa : unpackMantissa b = 0#(spec.mantissaBitsWithoutImplicit)
    · rw [if_pos hmantissa]
      exact iff_of_true rfl h
    · rw [if_neg hmantissa]
      exact iff_of_true rfl h
  · rw [if_neg h]
    by_cases hexponent : unpackExponent b = 0#(spec.exponentBits)
    · rw [if_pos hexponent]
      by_cases hmantissa : unpackMantissa b = 0#(spec.mantissaBitsWithoutImplicit)
      · rw [dif_pos hmantissa]
        exact iff_of_false hfinite h
      · rw [dif_neg hmantissa]
        exact iff_of_false hfinite h
    · rw [if_neg hexponent]
      exact iff_of_false hfinite h

/-- Neither infinite nor not a number. -/
theorem ofFloat?_eq_none {x : Float} : Binary.ofFloat? x = none ↔ x.isFinite = false := by
  rw [Float.isFinite, Float.Model.isFinite, Float.Model.unpack, isFinite_unpack]
  have hbits : x.toBits.toNat = x.toModel.toBits.toBitVec.toNat := rfl
  simp only [Binary.ofFloat?, hbits]
  generalize x.toModel.toBits.toBitVec = v
  have hexp : @unpackExponent .binary64 v = -1#11 ↔
      v.toNat / Nat.pow 2 52 % Nat.pow 2 11 = 2047 := by
    rw [← BitVec.toNat_inj]
    simp [unpackExponent, BitVec.extractLsb, Nat.shiftRight_eq_div_pow]
  rw [hexp]
  split
  next h => exact ⟨fun _ => h, fun _ => rfl⟩
  next h => split <;> exact ⟨nofun, fun he => absurd he h⟩

/-- Characters that write some numeral after its sign. -/
private def WritesMagnitude (negative : Bool) (text : List Char) : Prop :=
  ∃ w f e, Numeral.Magnitude ⟨negative, w, f, e⟩ (Utf8.encodeChars text)

section Places
variable (negative : Bool) {c : Char} {cs : List Char} (hdigits : AllDigits (c :: cs))
include hdigits

/-- One digit before the point, and an exponent. -/
private theorem writes_scientific (lead : Int) :
    WritesMagnitude negative ((c :: cs).take 1 ++ (if (c :: cs).length = 1 then [] else ['.']) ++
      (c :: cs).drop 1 ++ 'e' :: (if lead < 0 then '-' else '+') ::
        Nat.toDigits 10 lead.natAbs) := by
  obtain ⟨hfirst, hrest⟩ := List.forall_mem_cons.mp hdigits
  have hm := magnitude_chars (List.forall_mem_singleton.mpr hfirst) ⟨c, [], rfl, fun _ => rfl⟩ hrest
    (exponentText_chars lead) negative
  cases cs <;> exact ⟨_, _, _, hm⟩

/-- All digits after the point, behind zeros. -/
private theorem writes_behind (n : Nat) :
    WritesMagnitude negative ('0' :: '.' :: List.replicate n '0' ++ c :: cs) := by
  have hm := magnitude_chars (w := ['0']) (f := List.replicate n '0' ++ c :: cs) (x := [])
    (allDigits_zeros 1) ⟨'0', [], rfl, fun _ => rfl⟩ ((allDigits_zeros n).append hdigits)
    .none negative
  rw [if_neg (by simp), List.append_nil] at hm
  exact ⟨_, _, _, hm⟩

variable (hbegun : c = '0' → cs = [])
include hbegun

/-- All digits before the point, filled up with zeros. -/
private theorem writes_filled (n : Nat) (hzero : c = '0' → n = 0) :
    WritesMagnitude negative (c :: cs ++ List.replicate n '0' ++ ['.', '0']) := by
  refine ⟨_, _, _, magnitude_chars (hdigits.append (allDigits_zeros n)) ⟨c, _, rfl, ?_⟩
    (allDigits_zeros 1) .none negative (x := [])⟩
  intro h
  rw [hbegun h, hzero h]
  rfl

/-- The point stands among the digits. -/
private theorem writes_among {n : Nat} (hn : n + 1 < (c :: cs).length) :
    WritesMagnitude negative ((c :: cs).take (n + 1) ++ '.' :: (c :: cs).drop (n + 1)) := by
  have hdrop : (c :: cs).drop (n + 1) ≠ [] := by
    rw [Ne, List.drop_eq_nil_iff]
    omega
  have hm := magnitude_chars (w := (c :: cs).take (n + 1)) (f := (c :: cs).drop (n + 1)) (x := [])
    (fun x hx => hdigits x (List.mem_of_mem_take hx))
    ⟨c, cs.take n, rfl, fun h => by simp [hbegun h]⟩
    (fun x hx => hdigits x (List.mem_of_mem_drop hx)) .none negative
  rw [if_neg hdrop, List.append_nil] at hm
  exact ⟨_, _, _, hm⟩

end Places

/-- A finite number is printed as a numeral. -/
theorem realText_of_finite {x : Float} (hx : x.isFinite = true) :
    ∃ n : Numeral, n.Text (Utf8.encodeChars (realText x)) := by
  obtain ⟨b, h⟩ : ∃ b, Binary.ofFloat? x = some b := by
    refine Option.ne_none_iff_exists'.mp fun hnone => ?_
    rw [ofFloat?_eq_none.mp hnone] at hx
    cases hx
  have hsigned : ∀ text, WritesMagnitude b.negative text →
      ∃ n : Numeral, n.Text (Utf8.encodeChars ((if b.negative then ['-'] else []) ++ text)) := by
    rintro text ⟨w, f, e, hm⟩
    exact ⟨_, text_of_magnitude hm⟩
  simp only [realText, h]
  split
  · exact hsigned _ (writes_filled b.negative (allDigits_zeros 1) (fun _ => rfl) 0 fun _ => rfl)
  next hb =>
    have hzero := shortest_zero hb
    generalize b.shortest = d at hzero
    have hdigits := allDigits_toDigits d.digits
    obtain ⟨c, cs, hcs, hbegun⟩ := begun_toDigits d.digits
    have hplain : c = '0' → d.exponent.toNat = 0 := by
      rintro rfl
      rw [hzero (head_toDigits (by rw [hcs]; rfl))]
      rfl
    rw [hcs] at hdigits ⊢
    refine hsigned _ ?_
    split
    · exact writes_scientific b.negative hdigits _
    · split
      · exact writes_filled b.negative hdigits hbegun _ hplain
      · split
        · exact writes_among b.negative hdigits hbegun (by omega)
        · exact writes_behind b.negative hdigits _

/-- A number that is not finite is printed as null. -/
theorem realText_of_not_finite {x : Float} (h : x.isFinite = false) :
    realText x = "null".toList := by
  rw [realText, ofFloat?_eq_none.mpr h]

end ModelChat.Json
