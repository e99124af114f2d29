import Mathlib.Logic.Basic
import ModelChat.Decimal.Natural

/-! Whole numbers as they are written. Main statement: what is read as a number up to a bound is a
sign at most and digits, however many zeros come first, and stands for that number. -/
namespace ModelChat.Decimal

/-- The ways to write a number: a plus sign or none, and one or more digits. -/
def Writes (s : String) (n : Nat) : Prop :=
  ∃ digits : List Char, digits ≠ [] ∧ (∀ c ∈ digits, c.isDigit = true) ∧
    Nat.ofDigitChars 10 digits 0 = n ∧ (s.toList = digits ∨ s.toList = '+' :: digits)

/-- More digits never make a number smaller. -/
theorem le_ofDigitChars (cs : List Char) (acc : Nat) : acc ≤ Nat.ofDigitChars 10 cs acc := by
  induction cs generalizing acc with
  | nil => exact Nat.le_refl acc
  | cons c cs ih =>
    rw [Nat.ofDigitChars_cons]
    exact Nat.le_trans (by omega) (ih _)

/-- A number that passes the bound within its digits does so at its end too. -/
theorem readDigits_eq_ok {bound acc n : Nat} {cs : List Char} (h : acc ≤ bound) :
    readDigits bound acc cs = .ok n ↔
      (∀ c ∈ cs, c.isDigit = true) ∧ Nat.ofDigitChars 10 cs acc = n ∧ n ≤ bound := by
  induction cs generalizing acc with
  | nil =>
    constructor
    · intro hread
      obtain rfl := Except.ok.inj hread
      exact ⟨List.forall_mem_nil _, rfl, h⟩
    · rintro ⟨-, rfl, -⟩
      rfl
  | cons c cs ih =>
    rw [List.forall_mem_cons, Nat.ofDigitChars_cons, readDigits, Nat.mul_comm acc]
    by_cases hc : c.isDigit = true
    · rw [if_pos hc, and_iff_right hc]
      by_cases hbound : bound < 10 * acc + (c.toNat - '0'.toNat)
      · rw [if_pos hbound]
        refine iff_of_false nofun ?_
        rintro ⟨-, rfl, hn⟩
        have hgrows := le_ofDigitChars cs (10 * acc + (c.toNat - '0'.toNat))
        omega
      · rw [if_neg hbound]
        exact ih (Nat.le_of_not_lt hbound)
    · rw [if_neg hc]
      exact iff_of_false nofun fun hall => hc hall.1.1

/-- The sign is dropped if digits follow it. -/
private theorem writes_iff {s : String} {c : Char} {cs : List Char} (hs : s.toList = c :: cs)
    {n : Nat} : Writes s n ↔ (if c = '+' then cs else c :: cs) ≠ [] ∧
      (∀ d ∈ if c = '+' then cs else c :: cs, d.isDigit = true) ∧
      Nat.ofDigitChars 10 (if c = '+' then cs else c :: cs) 0 = n := by
  have hsign : '+'.isDigit = false := rfl
  unfold Writes
  rw [hs]
  constructor
  · rintro ⟨digits, hne, hdigits, hn, rfl | hplus⟩
    · have hc : c ≠ '+' := by
        rintro rfl
        have hdigit := hdigits '+' List.mem_cons_self
        rw [hsign] at hdigit
        cases hdigit
      rw [if_neg hc]
      exact ⟨hne, hdigits, hn⟩
    · obtain ⟨rfl, rfl⟩ := List.cons.inj hplus
      rw [if_pos rfl]
      exact ⟨hne, hdigits, hn⟩
  · rintro ⟨hne, hdigits, hn⟩
    refine ⟨_, hne, hdigits, hn, ?_⟩
    by_cases hc : c = '+'
    · rw [if_pos hc, hc]
      exact .inr rfl
    · rw [if_neg hc]
      exact .inl rfl

/-- A number is read from every way to write it, up to the bound, and from nothing else. -/
theorem readNatural_eq_ok {bound n : Nat} {s : String} :
    readNatural bound s = .ok n ↔ Writes s n ∧ n ≤ bound := by
  unfold readNatural
  match hs : s.toList with
  | [] =>
    refine iff_of_false nofun ?_
    rintro ⟨⟨digits, hne, -, -, hdigits | hplus⟩, -⟩
    · exact hne (hdigits.symm.trans hs)
    · cases hs.symm.trans hplus
  | [c] =>
    dsimp only
    rw [writes_iff hs]
    by_cases hc : c = '+' ∨ c = '-'
    · rw [if_pos hc]
      refine iff_of_false nofun ?_
      rcases hc with rfl | rfl
      · exact fun h => h.1.1 rfl
      · exact fun h => absurd (h.1.2.1 '-' List.mem_cons_self) (by decide)
    · rw [if_neg hc, if_neg fun hplus => hc (.inl hplus), readDigits_eq_ok (Nat.zero_le bound)]
      simp only [ne_eq, List.cons_ne_nil, not_false_eq_true, true_and, and_assoc]
  | c :: d :: cs =>
    dsimp only
    have hne : (if c = '+' then d :: cs else c :: d :: cs) ≠ [] := by
      split <;> exact List.cons_ne_nil _ _
    rw [writes_iff hs, readDigits_eq_ok (Nat.zero_le bound), and_iff_right hne, and_assoc]

end ModelChat.Decimal
