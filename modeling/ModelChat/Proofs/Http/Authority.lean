import Mathlib.Data.List.TakeWhile
import ModelChat.Http.Url

/-! Where an address leads is settled before its path. Main statement: what is put behind an
address with a host leaves scheme and authority as they are. -/
namespace ModelChat.Http.Url
open Text

/-- Text behind an authority: none, or it begins with what ends one. -/
def IsBehind (r : List Char) : Prop :=
  ∀ c, r.head? = some c → endsAuthority true c = true

/-- What does not go on a run leaves it as it is. -/
theorem takeWhile_behind {p : Char → Bool} (xs : List Char) {r : List Char}
    (hr : ∀ c, r.head? = some c → p c = false) : (xs ++ r).takeWhile p = xs.takeWhile p := by
  induction xs with
  | nil =>
    cases r with
    | nil => rfl
    | cons c r => simp [hr c rfl]
  | cons x xs ih => by_cases hx : p x <;> simp [hx, ih]

theorem dropWhile_behind {p : Char → Bool} (xs : List Char) {r : List Char}
    (hr : ∀ c, r.head? = some c → p c = false) :
    (xs ++ r).dropWhile p = xs.dropWhile p ++ r := by
  induction xs with
  | nil =>
    cases r with
    | nil => rfl
    | cons c r => simp [hr c rfl]
  | cons x xs ih => by_cases hx : p x <;> simp [hx, ih]

/-- Without a host there is no address of a known scheme. -/
theorem host_nil : Host.parse? [] = none := by
  decide +kernel

section Behind
variable {r : List Char} (hr : IsBehind r)
include hr

private theorem not_digit_behind (c : Char) (h : r.head? = some c) : c.isDigit = false := by
  have hends := hr c h
  simp only [endsAuthority, isSlash, Bool.true_and, Bool.or_eq_true, decide_eq_true_eq] at hends
  rcases hends with ((rfl | rfl) | rfl) | rfl <;> decide

private theorem not_colon_behind (h : r.head? = some ':') : False := by
  have hends := hr ':' h
  revert hends
  decide

theorem splitHost_append (inside : Bool) {cs : List Char}
    (hcs : ∀ c ∈ cs, endsAuthority true c = false) :
    splitHost true inside (cs ++ r) =
      ((splitHost true inside cs).1, (splitHost true inside cs).2 ++ r) := by
  induction cs generalizing inside with
  | nil =>
    cases r with
    | nil => rfl
    | cons c r => simp [splitHost, hr c rfl]
  | cons c cs ih =>
    obtain ⟨hc, hcs⟩ := List.forall_mem_cons.mp hcs
    by_cases hcolon : c = ':' ∧ inside = false
    · simp [splitHost, hcolon]
    · simp [splitHost, hc, hcolon, ih _ hcs]

theorem readPort_append (scheme : String) (cs : List Char) :
    readPort scheme (cs ++ r) = (readPort scheme cs).map fun p => (p.1, p.2 ++ r) := by
  have hdigits := takeWhile_behind cs (not_digit_behind hr)
  have hrest := dropWhile_behind cs (not_digit_behind hr)
  have hnext : (cs.dropWhile Char.isDigit ++ r).head?.any (!endsAuthority true ·) =
      (cs.dropWhile Char.isDigit).head?.any (!endsAuthority true ·) := by
    cases cs.dropWhile Char.isDigit with
    | cons d ds => rfl
    | nil =>
      cases r with
      | nil => rfl
      | cons c r => simp [hr c rfl]
  simp only [readPort, hdigits, hrest, hnext]
  split <;> rfl

end Behind

/-- The port after a host, if a colon follows it. -/
private def readPort? : List Char → Option (Option Nat × List Char)
  | ':' :: cs => readPort "http" cs
  | cs => some (none, cs)

/-- Host and port, after user and password. -/
private def readPlace (user : String) (password : Option String) (cs : List Char) :
    Option (Authority × List Char) :=
  let (hostText, cs) := splitHost true false cs
  (Host.parse? hostText).bind fun host =>
    if host = .name "" ∧ (cs.head? = some ':' ∨ !user.isEmpty ∨ password.isSome) then none
    else (readPort? cs).map fun p => (⟨user, password, host, p.1⟩, p.2)

private theorem readAuthority_eq (cs : List Char) :
    readAuthority "http" cs = (readUser true cs).bind fun u => readPlace u.1.1 u.1.2 u.2 := by
  have hspecial : isSpecial "http" = true := rfl
  simp only [readAuthority, hspecial, Option.bind_eq_bind]
  cases readUser true cs with
  | none => rfl
  | some u =>
    obtain ⟨⟨user, password⟩, cs⟩ := u
    simp only [Option.bind_some, readPlace, readPort?]
    generalize splitHost true false cs = place
    obtain ⟨hostText, port⟩ := place
    rw [if_pos trivial]
    congr 1
    funext host
    split
    · rfl
    · cases port with
      | nil => rfl
      | cons c port =>
        by_cases hc : c = ':'
        · subst hc
          change (readPort "http" port).bind _ = (readPort "http" port).map _
          rw [Option.map_eq_bind]
          rfl
        · simp [hc]

private theorem readPort?_append {r : List Char} (hr : IsBehind r) (cs : List Char) :
    readPort? (cs ++ r) = (readPort? cs).map fun p => (p.1, p.2 ++ r) := by
  cases cs with
  | cons c cs =>
    by_cases hc : c = ':'
    · subst hc
      exact readPort_append hr "http" cs
    · simp [readPort?, hc]
  | nil =>
    cases r with
    | nil => rfl
    | cons c r =>
      have hc : c ≠ ':' := by
        rintro rfl
        exact not_colon_behind hr rfl
      simp [readPort?, hc]

private theorem readPlace_append {r : List Char} (hr : IsBehind r) (user : String)
    (password : Option String) {cs : List Char} (hcs : ∀ c ∈ cs, endsAuthority true c = false) :
    readPlace user password (cs ++ r) =
      (readPlace user password cs).map fun p => (p.1, p.2 ++ r) := by
  simp only [readPlace, splitHost_append hr false hcs]
  generalize splitHost true false cs = place
  obtain ⟨hostText, port⟩ := place
  have hcolon : (port ++ r).head? = some ':' ↔ port.head? = some ':' := by
    cases port with
    | cons c port => rfl
    | nil => exact ⟨fun h => (not_colon_behind hr h).elim, fun h => nomatch h⟩
  simp only [hcolon, readPort?_append hr, Option.map_bind]
  congr 1
  funext host
  simp only [Function.comp_apply]
  split
  · rfl
  · simp [Function.comp_def]

theorem mem_of_mem_split {α : Type} {p : α → Bool} {xs part : List α} {x : α}
    (hpart : part ∈ split p xs) (hx : x ∈ part) : x ∈ xs := by
  induction xs generalizing part with
  | nil =>
    obtain rfl := List.mem_singleton.mp hpart
    exact hx
  | cons a xs ih =>
    unfold split at hpart
    split at hpart
    · rcases List.mem_cons.mp hpart with rfl | hpart
      · cases hx
      · exact List.mem_cons_of_mem a (ih hpart hx)
    · split at hpart
      next hnil =>
        obtain rfl := List.mem_singleton.mp hpart
        exact List.mem_singleton.mp hx ▸ List.mem_cons_self
      next first parts hsplit =>
        rcases List.mem_cons.mp hpart with rfl | hpart
        · rcases List.mem_cons.mp hx with rfl | hx
          · exact List.mem_cons_self
          · exact List.mem_cons_of_mem a (ih (hsplit ▸ List.mem_cons_self) hx)
        · exact List.mem_cons_of_mem a (ih (hsplit ▸ List.mem_cons_of_mem first hpart) hx)

/-- What follows the last at sign is a part of the text. -/
private theorem mem_of_splitUser {cs before host : List Char}
    (h : splitUser? cs = some (before, host)) : ∀ c ∈ host, c ∈ cs := by
  intro c hc
  unfold splitUser? at h
  split at h
  · cases h
  · cases h
  next parts hone htwo =>
    obtain ⟨-, rfl⟩ := Prod.mk.inj (Option.some.inj h)
    cases hlast : (split (· = '@') cs).getLast? with
    | none => simp [hlast] at hc
    | some part =>
      rw [hlast] at hc
      exact mem_of_mem_split (List.mem_of_getLast? hlast) hc

private theorem readPlace_nil : readPlace "" none [] = none := by
  simp [readPlace, splitHost, host_nil]

theorem readAuthority_nil : readAuthority "http" [] = none := by
  rw [readAuthority_eq]
  exact readPlace_nil

/-- Who is addressed does not depend on what is behind. -/
theorem readAuthority_append {r : List Char} (hr : IsBehind r) {cs : List Char}
    (hcs : ∀ c ∈ cs, endsAuthority true c = false) :
    (readAuthority "http" (cs ++ r)).map Prod.fst = (readAuthority "http" cs).map Prod.fst := by
  have hplace {cs : List Char} (hcs : ∀ c ∈ cs, endsAuthority true c = false) (user : String)
      (password : Option String) : (readPlace user password (cs ++ r)).map Prod.fst =
        (readPlace user password cs).map Prod.fst := by
    rw [readPlace_append hr user password hcs]
    cases readPlace user password cs <;> rfl
  have hinside : ∀ c ∈ cs, (!endsAuthority true c) = true := fun c hc => by simp [hcs c hc]
  have hstop : ∀ c, r.head? = some c → (!endsAuthority true c) = false :=
    fun c hc => by simp [hr c hc]
  have htake : cs.takeWhile (!endsAuthority true ·) = cs := List.takeWhile_eq_self_iff.mpr hinside
  have hdrop : cs.dropWhile (!endsAuthority true ·) = [] := List.dropWhile_eq_nil_iff.mpr hinside
  simp only [readAuthority_eq, readUser, takeWhile_behind cs hstop, dropWhile_behind cs hstop,
    htake, hdrop, List.nil_append]
  cases huser : splitUser? cs with
  | none => simpa using hplace hcs "" none
  | some parts =>
    obtain ⟨before, host⟩ := parts
    have hhost : ∀ c ∈ host, endsAuthority true c = false :=
      fun c hc => hcs c (mem_of_splitUser huser c hc)
    cases before with
    | cons c before => simpa using hplace hhost _ _
    | nil =>
      cases host with
      | cons c host => simpa using hplace hhost _ _
      | nil => cases r <;> simp [readPlace_nil]

end ModelChat.Http.Url
