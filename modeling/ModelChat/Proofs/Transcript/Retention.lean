import ModelChat.Transcript

/-! What a limit leaves of messages: all but the oldest turns above it. -/
namespace ModelChat.Transcript

/-- The messages without their first turns, as many as given. All else stays in place. -/
def dropTurns : Nat → List Message → List Message
  | 0, ms => ms
  | _ + 1, [] => []
  | n + 1, m :: ms => if m.isTurn then dropTurns n ms else m :: dropTurns (n + 1) ms

/-- The last messages, as many as a limit allows. -/
def recent (limit : Option Limit) (ms : List Message) : List Message :=
  match limit with
  | none => ms
  | some l => ms.drop (ms.length - l.count)

private theorem withoutOldest_none {ms : List Message} (h : withoutOldest? ms = none) :
    countTurns ms = 0 := by
  induction ms with
  | nil => rfl
  | cons m ms ih =>
    by_cases ht : m.isTurn
    · simp [withoutOldest?, ht] at h
    · have hrest : withoutOldest? ms = none := by simpa [withoutOldest?, ht] using h
      simpa [countTurns, ht] using ih hrest

theorem dropTurns_system {m : Message} (hm : m.isTurn = false) (n : Nat)
    (ms : List Message) : dropTurns n (m :: ms) = m :: dropTurns n ms := by
  cases n with
  | zero => simp [dropTurns]
  | succ n => simp [dropTurns, hm]

private theorem dropTurns_withoutOldest {ms rest : List Message} (h : withoutOldest? ms = some rest)
    (n : Nat) : dropTurns (n + 1) ms = dropTurns n rest := by
  induction ms generalizing rest with
  | nil => simp [withoutOldest?] at h
  | cons m ms ih =>
    by_cases ht : m.isTurn
    · have he : ms = rest := by simpa [withoutOldest?, ht] using h
      simp [dropTurns, ht, he]
    · obtain ⟨tail, htail, rfl⟩ : ∃ tail, withoutOldest? ms = some tail ∧ m :: tail = rest := by
        simpa [withoutOldest?, ht] using h
      have hm : m.isTurn = false := by simpa using ht
      rw [dropTurns_system hm, dropTurns_system hm, ih htail]

/-- Dropping one turn after another is one pass over the messages. -/
theorem evict_eq (max : Nat) (ms : List Message) :
    evict max ms = (dropTurns (countTurns ms - max) ms, countTurns ms - max) := by
  fun_induction evict max ms with
  | case1 ms hmax rest hrest kept gone he ih =>
    have hcount := countTurns_withoutOldest hrest
    have hexcess : countTurns ms - max = (countTurns rest - max) + 1 := by omega
    rw [he] at ih
    obtain ⟨rfl, rfl⟩ := Prod.mk.inj ih
    rw [hexcess, dropTurns_withoutOldest hrest]
  | case2 ms hmax hnone =>
    have hcount := withoutOldest_none hnone
    omega
  | case3 ms hmax =>
    rw [Nat.sub_eq_zero_of_le (Nat.le_of_not_lt hmax), dropTurns]

theorem countTurns_of_turns {ms : List Message} (h : ∀ m ∈ ms, m.isTurn) :
    countTurns ms = ms.length :=
  List.countP_eq_length.mpr h

theorem dropTurns_of_turns {ms : List Message} (h : ∀ m ∈ ms, m.isTurn) (n : Nat) :
    dropTurns n ms = ms.drop n := by
  induction ms generalizing n with
  | nil => cases n <;> rfl
  | cons m ms ih =>
    cases n with
    | zero => simp [dropTurns]
    | succ n =>
      have hm : m.isTurn := h m List.mem_cons_self
      have hms : ∀ x ∈ ms, x.isTurn := fun x hx => h x (List.mem_cons_of_mem m hx)
      simp [dropTurns, hm, ih hms n]

/-- Messages from the system in front are never touched. -/
theorem retain_append (limit : Option Limit) {front ms : List Message}
    (hfront : ∀ m ∈ front, m.isTurn = false) (hms : ∀ m ∈ ms, m.isTurn) :
    (retain limit (front ++ ms)).1 = front ++ recent limit ms := by
  cases limit with
  | none => rfl
  | some l =>
    simp only [retain, evict_eq, recent]
    induction front with
    | nil => rw [List.nil_append, countTurns_of_turns hms, dropTurns_of_turns hms, List.nil_append]
    | cons m front ih =>
      have hm := hfront m List.mem_cons_self
      have hcount : countTurns (m :: (front ++ ms)) = countTurns (front ++ ms) := by
        simp [countTurns, hm]
      rw [List.cons_append, hcount, dropTurns_system hm,
        ih fun x hx => hfront x (List.mem_cons_of_mem m hx)]
      rfl

theorem recent_subset (limit : Option Limit) (ms : List Message) : recent limit ms ⊆ ms := by
  cases limit with
  | none => exact List.Subset.refl ms
  | some l => exact List.drop_subset _ ms

theorem recent_suffix (limit : Option Limit) (ms : List Message) : recent limit ms <:+ ms := by
  cases limit with
  | none => exact List.suffix_refl ms
  | some l => exact List.drop_suffix _ ms

/-- The last message is always kept, after the end of the others. -/
theorem recent_concat (limit : Option Limit) (ms : List Message) (m : Message) :
    ∃ kept, kept <:+ ms ∧ recent limit (ms ++ [m]) = kept ++ [m] := by
  cases limit with
  | none => exact ⟨ms, List.suffix_refl ms, rfl⟩
  | some l =>
    have hpos := l.pos
    refine ⟨ms.drop (ms.length + 1 - l.count), List.drop_suffix _ ms, ?_⟩
    rw [recent, List.length_append, List.length_singleton]
    exact List.drop_append_of_le_length (by omega)

/-- A limit is positive, so the last message is always kept. -/
theorem recent_eq_nil {limit : Option Limit} {ms : List Message} :
    recent limit ms = [] ↔ ms = [] := by
  cases limit with
  | none => rfl
  | some l =>
    have hpos := l.pos
    simp only [recent, List.drop_eq_nil_iff]
    constructor
    · intro h
      exact List.eq_nil_of_length_eq_zero (by omega)
    · rintro rfl
      exact Nat.zero_le _

/-- What was dropped before makes no difference to what is kept later. -/
theorem recent_recent_append (limit : Option Limit) (ms : List Message) (m : Message) :
    recent limit (recent limit ms ++ [m]) = recent limit (ms ++ [m]) := by
  cases limit with
  | none => rfl
  | some l =>
    let gone := ms.length - l.count
    have hgone : gone ≤ ms.length := Nat.sub_le _ _
    have hkept : ms.drop gone ++ [m] = (ms ++ [m]).drop gone :=
      (List.drop_append_of_le_length hgone).symm
    have hlength : ((ms ++ [m]).drop gone).length = ms.length - gone + 1 := by
      rw [← hkept, List.length_append, List.length_drop, List.length_singleton]
    have htotal : gone + (ms.length - gone + 1 - l.count) = ms.length + 1 - l.count := by
      omega
    change (ms.drop gone ++ [m]).drop ((ms.drop gone ++ [m]).length - l.count) =
      (ms ++ [m]).drop ((ms ++ [m]).length - l.count)
    rw [hkept, hlength, List.drop_drop, htotal, List.length_append, List.length_singleton]

end ModelChat.Transcript
