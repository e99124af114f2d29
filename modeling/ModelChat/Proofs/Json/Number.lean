import ModelChat.Json.Skip

/-! Numbers as they stand in JSON texts. Main statement: the written form of a numeral is read as
that numeral, and can be passed over, whatever stands behind it. -/
namespace ModelChat.Json

section Steps
variable {ε α β : Type}

@[simp] theorem ok_bind (a : α) (f : α → Except ε β) : (Except.ok a >>= f) = f a := rfl

theorem map_eq_ok {x : Except ε α} {f : α → β} {b : β} :
    x.map f = .ok b ↔ ∃ a, x = .ok a ∧ f a = b := by
  cases x <;> simp [Except.map]

/-- A step after another succeeds when both do. -/
theorem bind_eq_ok {x : Except ε α} {f : α → Except ε β} {b : β} :
    (x >>= f) = .ok b ↔ ∃ a, x = .ok a ∧ f a = .ok b := by
  cases x with
  | error e => exact ⟨nofun, nofun⟩
  | ok a => simp

end Steps

/-- Digits as they are written. -/
def digitsText (ds : List Nat) : Bytes :=
  ds.map fun d => .ofNat (0x30 + d)

def AreDigits (ds : List Nat) : Prop :=
  ∀ d ∈ ds, d < 10

def fractionText : List Nat → Bytes
  | [] => []
  | ds => '.'.toUInt8 :: digitsText ds

/-- Written forms of the sign of an exponent. -/
inductive SignText : Bool → Bytes → Prop
  | none : SignText false []
  | plus : SignText false ['+'.toUInt8]
  | minus : SignText true ['-'.toUInt8]

/-- Written forms of an exponent. -/
inductive ExponentText : Option (Bool × List Nat) → Bytes → Prop
  | none : ExponentText none []
  | some {mark : UInt8} {negative : Bool} {sign : Bytes} {ds : List Nat} :
    (mark = 'e'.toUInt8 ∨ mark = 'E'.toUInt8) → SignText negative sign → AreDigits ds → ds ≠ [] →
    ExponentText (some (negative, ds)) (mark :: sign ++ digitsText ds)

/-- Written forms of a numeral without its sign. Zero is the only one to begin with zero. -/
structure Numeral.Magnitude (n : Numeral) (s : Bytes) : Prop where
  digits : AreDigits n.whole
  begun : ∃ d ds, n.whole = d :: ds ∧ (d = 0 → ds = [])
  fraction : AreDigits n.fraction
  written : ∃ x, ExponentText n.exponent x ∧
    s = digitsText n.whole ++ (fractionText n.fraction ++ x)

/-- Written forms of a numeral. -/
def Numeral.Text (n : Numeral) (s : Bytes) : Prop :=
  ∃ t, n.Magnitude t ∧ s = if n.negative then '-'.toUInt8 :: t else t

/-- What would go on a number. -/
def goesOn (c : UInt8) : Bool :=
  isDigit c || c = '.'.toUInt8 || c = 'e'.toUInt8 || c = 'E'.toUInt8

/-- What can stand behind a number. -/
def EndsNumber (s : Bytes) : Prop :=
  ∀ c, s.head? = some c → goesOn c = false

theorem endsNumber_nil : EndsNumber [] :=
  nofun

theorem EndsNumber.digit {s : Bytes} (h : EndsNumber s) (c : UInt8) (hc : s.head? = some c) :
    isDigit c = false := by
  have hstop := h c hc
  simp only [goesOn, Bool.or_eq_false_iff] at hstop
  exact hstop.1.1.1

theorem isDigit_of_lt {d : Nat} (h : d < 10) : isDigit (.ofNat (0x30 + d)) = true := by
  have : ∀ d < 10, isDigit (.ofNat (0x30 + d)) = true := by decide
  exact this d h

theorem toNat_digit {d : Nat} (h : d < 10) : (UInt8.ofNat (0x30 + d)).toNat - 0x30 = d := by
  have : ∀ d < 10, (UInt8.ofNat (0x30 + d)).toNat - 0x30 = d := by decide
  exact this d h

section Digits
variable {rest : Bytes} (hrest : ∀ c, rest.head? = some c → isDigit c = false)
include hrest

theorem spanDigits_append {ds : List Nat} (h : AreDigits ds) :
    spanDigits (digitsText ds ++ rest) = (ds, rest) := by
  induction ds with
  | nil =>
    cases rest with
    | nil => rfl
    | cons c rest => simp [digitsText, spanDigits, hrest c rfl]
  | cons d ds ih =>
    obtain ⟨hd, hds⟩ := List.forall_mem_cons.mp h
    simp only [digitsText, List.map_cons, List.cons_append, spanDigits, isDigit_of_lt hd,
      toNat_digit hd, if_true]
    rw [show ds.map (fun d => UInt8.ofNat (0x30 + d)) = digitsText ds from rfl, ih hds]

theorem readWhole_append {d : Nat} {ds : List Nat} (h : AreDigits (d :: ds))
    (hzero : d = 0 → ds = []) : readWhole (digitsText (d :: ds) ++ rest) = .ok (d :: ds, rest) := by
  have hspan := spanDigits_append hrest h
  by_cases hd : d = 0
  · obtain rfl := hzero hd
    subst hd
    cases rest with
    | nil => rfl
    | cons c rest =>
      have hc := hrest c rfl
      change readWhole ('0'.toUInt8 :: c :: rest) = _
      simp [readWhole, hc]
  · have hdigit : isDigit (UInt8.ofNat (0x30 + d)) = true := isDigit_of_lt (h d List.mem_cons_self)
    have hnonzero : UInt8.ofNat (0x30 + d) ≠ '0'.toUInt8 := by
      intro he
      have := toNat_digit (h d List.mem_cons_self)
      rw [he] at this
      exact hd this.symm
    simp only [digitsText, List.map_cons, List.cons_append] at hspan ⊢
    unfold readWhole
    simp only [if_neg hnonzero, if_pos hdigit, hspan]

end Digits

theorem readFraction_append {ds : List Nat} (h : AreDigits ds) {rest : Bytes}
    (hrest : ∀ c, rest.head? = some c → isDigit c = false)
    (hpoint : ∀ c, rest.head? = some c → c ≠ '.'.toUInt8) :
    readFraction (fractionText ds ++ rest) = .ok (ds, rest) := by
  cases ds with
  | nil =>
    cases rest with
    | nil => rfl
    | cons c rest => simp [fractionText, readFraction, hpoint c rfl]
  | cons d ds => simp [fractionText, readFraction, spanDigits_append hrest h]

theorem readSign_append {negative : Bool} {sign : Bytes} (h : SignText negative sign) {d : Nat}
    (hd : d < 10) (s : Bytes) : readSign (sign ++ .ofNat (0x30 + d) :: s) =
      (negative, .ofNat (0x30 + d) :: s) := by
  have hplus : ∀ d < 10, UInt8.ofNat (0x30 + d) ≠ '+'.toUInt8 := by decide
  have hminus : ∀ d < 10, UInt8.ofNat (0x30 + d) ≠ '-'.toUInt8 := by decide
  cases h with
  | none => rw [List.nil_append, readSign, if_neg (hplus d hd), if_neg (hminus d hd)]
  | plus => rfl
  | minus => rfl

theorem readExponent_append {e : Option (Bool × List Nat)} {x : Bytes} (h : ExponentText e x)
    {rest : Bytes} (hrest : EndsNumber rest) : readExponent (x ++ rest) = .ok (e, rest) := by
  cases h with
  | none =>
    cases rest with
    | nil => rfl
    | cons c rest =>
      have hc := hrest c rfl
      simp only [goesOn, Bool.or_eq_false_iff, decide_eq_false_iff_not] at hc
      simp [readExponent, hc]
  | @some mark negative sign ds hmark hsign hdigits hne =>
    obtain ⟨d, ds, rfl⟩ := List.exists_cons_of_ne_nil hne
    have hd : d < 10 := hdigits d List.mem_cons_self
    have hspan := spanDigits_append (fun c hc => (hrest.digit c hc)) hdigits
    have hread := readSign_append hsign hd (digitsText ds ++ rest)
    simp only [digitsText, List.map_cons, List.cons_append, List.append_assoc] at hspan hread ⊢
    simp only [readExponent, if_pos hmark, hread, isDigit_of_lt hd, if_true, hspan]

/-- An exponent or what comes after it neither goes on a fraction nor begins one. -/
private theorem exponent_head {e : Option (Bool × List Nat)} {x : Bytes} (h : ExponentText e x)
    {rest : Bytes} (hrest : EndsNumber rest) (c : UInt8) (hc : (x ++ rest).head? = some c) :
    isDigit c = false ∧ c ≠ '.'.toUInt8 := by
  cases h with
  | none =>
    have hstop := hrest c hc
    simp only [goesOn, Bool.or_eq_false_iff, decide_eq_false_iff_not] at hstop
    exact ⟨hstop.1.1.1, hstop.1.1.2⟩
  | some hmark =>
    obtain rfl := Option.some.inj hc
    rcases hmark with rfl | rfl <;> decide

private theorem fraction_head (ds : List Nat) {s : Bytes}
    (hs : ∀ c, s.head? = some c → isDigit c = false) (c : UInt8)
    (hc : (fractionText ds ++ s).head? = some c) : isDigit c = false := by
  cases ds with
  | nil => exact hs c hc
  | cons d ds =>
    obtain rfl := Option.some.inj hc
    decide

/-- A numeral is read from its written form without the sign. -/
theorem readNumeral_append {n : Numeral} {s : Bytes} (h : n.Magnitude s) {rest : Bytes}
    (hrest : EndsNumber rest) : readNumeral n.negative (s ++ rest) = .ok (n, rest) := by
  obtain ⟨negative, whole, fraction, exponent⟩ := n
  obtain ⟨hdigits, ⟨d, ds, rfl, hzero⟩, hfraction, x, hx, rfl⟩ := h
  have hexponent := exponent_head hx hrest
  have hwhole := readWhole_append (fraction_head fraction fun c hc => (hexponent c hc).1)
    hdigits hzero
  have hpart := readFraction_append hfraction (fun c hc => (hexponent c hc).1)
    fun c hc => (hexponent c hc).2
  simp only [readNumeral, List.append_assoc, hwhole, hpart, readExponent_append hx hrest, ok_bind]
  rfl

theorem dropDigits_eq (s : Bytes) : dropDigits s = (spanDigits s).2 := by
  induction s with
  | nil => rfl
  | cons c s ih => by_cases hc : isDigit c <;> simp_all [dropDigits, spanDigits]

theorem startsWithDigit_iff (s : Bytes) : startsWithDigit s = true ↔ (spanDigits s).1 ≠ [] := by
  cases s with
  | nil => simp [startsWithDigit, spanDigits]
  | cons c s => by_cases hc : isDigit c <;> simp [startsWithDigit, spanDigits, hc]

private theorem skipWhole_of_readWhole {s rest : Bytes} {ds : List Nat}
    (h : readWhole s = .ok (ds, rest)) : skipWhole s = .ok rest := by
  unfold readWhole at h
  unfold skipWhole
  split at h
  · cases h
  next c s =>
    by_cases hzero : c = '0'.toUInt8
    · simp only [if_pos hzero] at h ⊢
      split at h
      next d t =>
        split at h
        · cases h
        next hd =>
          obtain ⟨-, rfl⟩ := Prod.mk.inj (Except.ok.inj h)
          simp [startsWithDigit, hd]
      next =>
        obtain ⟨-, rfl⟩ := Prod.mk.inj (Except.ok.inj h)
        rfl
    · simp only [if_neg hzero] at h ⊢
      split at h
      next hdigit =>
        have hspan := dropDigits_eq (c :: s)
        rw [Except.ok.inj h] at hspan
        simpa [dropDigits, hdigit] using hspan
      next => cases h

private theorem skipFraction_of_readFraction {s rest : Bytes} {ds : List Nat}
    (h : readFraction s = .ok (ds, rest)) : skipFraction s = .ok rest := by
  unfold readFraction at h
  unfold skipFraction
  split at h
  · obtain ⟨-, rfl⟩ := Prod.mk.inj (Except.ok.inj h)
    rfl
  next c s =>
    split at h
    next hpoint =>
      split at h
      · cases h
      · cases h
      next read hnil hsome =>
        have hspan : spanDigits s = (ds, rest) := Except.ok.inj h
        have hdigit : startsWithDigit s = true := by
          rw [startsWithDigit_iff, hspan]
          rintro rfl
          exact hsome rest hspan
        simp only [if_pos hpoint, if_pos hdigit, dropDigits_eq, hspan]
    next hpoint =>
      obtain ⟨-, rfl⟩ := Prod.mk.inj (Except.ok.inj h)
      simp only [if_neg hpoint]

private theorem skipExponent_of_readExponent {s rest : Bytes} {e : Option (Bool × List Nat)}
    (h : readExponent s = .ok (e, rest)) : skipExponent s = .ok rest := by
  unfold readExponent at h
  unfold skipExponent
  split at h
  · obtain ⟨-, rfl⟩ := Prod.mk.inj (Except.ok.inj h)
    rfl
  next c s =>
    split at h
    next hmark =>
      simp only [if_pos hmark]
      generalize readSign s = signed at h ⊢
      obtain ⟨negative, s'⟩ := signed
      cases s' with
      | nil => cases h
      | cons d t =>
        simp only at h
        split at h
        next hdigit =>
          obtain ⟨-, rfl⟩ := Prod.mk.inj (Except.ok.inj h)
          simp [startsWithDigit, hdigit, dropDigits_eq]
        next => cases h
    next hmark =>
      obtain ⟨-, rfl⟩ := Prod.mk.inj (Except.ok.inj h)
      simp only [if_neg hmark]

/-- What is read as a numeral can be passed over. -/
theorem skipNumber_of_readNumeral {negative : Bool} {s rest : Bytes} {n : Numeral}
    (h : readNumeral negative s = .ok (n, rest)) : skipNumber s = .ok rest := by
  simp only [readNumeral, bind_eq_ok] at h
  obtain ⟨⟨whole, s₁⟩, hwhole, ⟨fraction, s₂⟩, hfraction, ⟨exponent, s₃⟩, hexponent, h⟩ := h
  obtain ⟨-, rfl⟩ := Prod.mk.inj (Except.ok.inj h)
  rw [skipNumber, skipWhole_of_readWhole hwhole, ok_bind, skipFraction_of_readFraction hfraction,
    ok_bind, skipExponent_of_readExponent hexponent]

end ModelChat.Json
