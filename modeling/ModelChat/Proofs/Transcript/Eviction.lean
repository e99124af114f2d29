import ModelChat.Proofs.Transcript.Edits

/-! Dropping turns round by round, over messages from anyone in any order. Main statement: as many
rounds are made as there are turns too many, and what they leave is one pass over the messages. -/
namespace ModelChat.Transcript

/-- What a round comes to: nothing is left to do, a message has gone, or there are too many turns
and yet none is found. -/
inductive Round where
  | over
  | dropped (rest : List Message)
  | stuck
  deriving DecidableEq, Repr

/-- Counts the turns, and erases the message at the first place with a turn if there are too
many. -/
def round (max : Nat) (ms : List Message) : Round :=
  if max < countTurns ms then
    match ms.findIdx? Message.isTurn with
    | some i => .dropped (ms.eraseIdx i)
    | none => .stuck
  else .over

/-- Rounds that each drop a message, as many as given, and what they leave. -/
inductive Rounds (max : Nat) : Nat → List Message → List Message → Prop
  | none (ms : List Message) : Rounds max 0 ms ms
  | next {n : Nat} {ms rest kept : List Message} :
    round max ms = .dropped rest → Rounds max n rest kept → Rounds max (n + 1) ms kept

/-- One pass over the messages: a turn stays if as many turns as given are before it, and all else
stays. -/
def withoutTurns (n : Nat) (ms : List Message) : List Message :=
  (ms.zipIdx.filter fun (m, i) => !m.isTurn || n ≤ countTurns (ms.take i)).map (·.1)

theorem withoutOldest?_eq_eraseIdx (ms : List Message) :
    withoutOldest? ms = (ms.findIdx? Message.isTurn).map ms.eraseIdx := by
  induction ms with
  | nil => rfl
  | cons m ms ih =>
    by_cases hm : m.isTurn
    · simp [withoutOldest?, List.findIdx?_cons, hm]
    · simp [withoutOldest?, List.findIdx?_cons, hm, ih, Function.comp_def]

/-- Turns are dropped in rounds. -/
theorem evict_eq_round (max : Nat) (ms : List Message) :
    evict max ms = match round max ms with
      | .over => (ms, 0)
      | .dropped rest => ((evict max rest).1, (evict max rest).2 + 1)
      | .stuck => (ms, 0) := by
  rw [evict, round]
  have holdest := withoutOldest?_eq_eraseIdx ms
  by_cases hmax : max < countTurns ms
  · rw [if_pos hmax, if_pos hmax]
    cases hplace : ms.findIdx? Message.isTurn with
    | none =>
      rw [hplace] at holdest
      split <;> simp_all
    | some i =>
      rw [hplace] at holdest
      split <;> simp_all
  · rw [if_neg hmax, if_neg hmax]

section Rounds
variable {max n : Nat} {ms rest kept : List Message}

theorem round_eq_dropped :
    round max ms = .dropped rest ↔ max < countTurns ms ∧ withoutOldest? ms = some rest := by
  rw [round, withoutOldest?_eq_eraseIdx]
  by_cases hmax : max < countTurns ms
  · rw [if_pos hmax, and_iff_right hmax]
    cases ms.findIdx? Message.isTurn <;> simp
  · simp [hmax]

theorem round_eq_over : round max ms = .over ↔ countTurns ms ≤ max := by
  unfold round
  split
  next hmax =>
    refine iff_of_false ?_ (Nat.not_le_of_lt hmax)
    split <;> nofun
  next hmax => exact iff_of_true rfl (Nat.le_of_not_lt hmax)

/-- Where turns are counted there is one to find. -/
theorem round_ne_stuck : round max ms ≠ .stuck := by
  unfold round
  split
  next hmax =>
    have hsome : ∃ m ∈ ms, m.isTurn := List.countP_pos_iff.mp (Nat.zero_lt_of_lt hmax)
    have hplace : (ms.findIdx? Message.isTurn).isSome := by simpa using hsome
    obtain ⟨i, hi⟩ := Option.isSome_iff_exists.mp hplace
    rw [hi]
    nofun
  next => nofun

end Rounds

theorem rounds_evict (max : Nat) (ms : List Message) :
    Rounds max (evict max ms).2 ms (evict max ms).1 ∧ round max (evict max ms).1 = .over := by
  fun_induction evict max ms with
  | case1 ms hmax rest hrest kept gone he ih =>
    rw [he] at ih
    exact ⟨.next (round_eq_dropped.mpr ⟨hmax, hrest⟩) ih.1, ih.2⟩
  | case2 ms hmax hnone =>
    have hstuck : round max ms = .stuck := by
      rw [withoutOldest?_eq_eraseIdx, Option.map_eq_none_iff] at hnone
      rw [round, if_pos hmax, hnone]
    exact absurd hstuck round_ne_stuck
  | case3 ms hmax => exact ⟨.none ms, round_eq_over.mpr (Nat.le_of_not_lt hmax)⟩

/-- Rounds that end with nothing left to do are all there is to dropping. -/
theorem rounds_iff {max n : Nat} {ms kept : List Message} :
    Rounds max n ms kept ∧ round max kept = .over ↔ evict max ms = (kept, n) := by
  constructor
  · rintro ⟨hrounds, hover⟩
    induction hrounds with
    | none ms => simp only [evict_eq_round, hover]
    | next hround _ ih =>
      rw [evict_eq_round, hround]
      simp only [ih hover]
  · intro h
    have hrounds := rounds_evict max ms
    rwa [h] at hrounds

section Pass
variable {m : Message} (n : Nat) (ms : List Message)

theorem withoutTurns_zero : withoutTurns 0 ms = ms := by
  have hall : ms.zipIdx.filter (fun (m, i) => !m.isTurn || 0 ≤ countTurns (ms.take i)) =
      ms.zipIdx := List.filter_eq_self.mpr fun x _ => by simp
  rw [withoutTurns, hall, List.zipIdx_map_fst]

theorem withoutTurns_turn (hm : m.isTurn) : withoutTurns (n + 1) (m :: ms) = withoutTurns n ms := by
  have hcount (front : List Message) : countTurns (m :: front) = countTurns front + 1 := by
    simp [countTurns, hm]
  have hnone : countTurns [] = 0 := rfl
  simp [withoutTurns, List.zipIdx_succ, List.filter_map, hm, hcount, hnone, Function.comp_def]

theorem withoutTurns_system (hm : m.isTurn = false) :
    withoutTurns n (m :: ms) = m :: withoutTurns n ms := by
  have hcount (front : List Message) : countTurns (m :: front) = countTurns front := by
    simp [countTurns, hm]
  simp [withoutTurns, List.zipIdx_succ, List.filter_map, hm, hcount, Function.comp_def]

theorem dropTurns_eq_withoutTurns : dropTurns n ms = withoutTurns n ms := by
  induction ms generalizing n with
  | nil => cases n <;> rfl
  | cons m ms ih =>
    by_cases hm : m.isTurn
    · cases n with
      | zero => rw [dropTurns, withoutTurns_zero]
      | succ n => rw [withoutTurns_turn n ms hm, dropTurns, if_pos hm, ih]
    · rw [Bool.not_eq_true] at hm
      rw [dropTurns_system hm, withoutTurns_system n ms hm, ih]

end Pass

/-- Under a limit, a message goes in each round until no more turns are left than the limit allows,
and never is there none to go. The messages may be from anyone in any order: one pass that leaves
out the first turns comes to the same, and there is nothing to do for another. Without a limit
nothing goes. -/
theorem eviction_in_one_pass (limit : Limit) (ms : List Message) :
    let excess := countTurns ms - limit.count
    let kept := (retain (some limit) ms).1
    (retain (some limit) ms).2 = excess ∧
    (∀ n rest, Rounds limit.count n ms rest ∧ round limit.count rest = .over ↔
      n = excess ∧ rest = kept) ∧
    (∀ n rest, Rounds limit.count n ms rest → round limit.count rest ≠ .stuck) ∧
    kept = withoutTurns excess ms ∧
    kept.Sublist ms ∧
    kept.filter Message.isTurn = (ms.filter Message.isTurn).drop excess ∧
    kept.filter (!·.isTurn) = ms.filter (!·.isTurn) ∧
    retain (some limit) kept = (kept, 0) ∧
    retain none ms = (ms, 0) := by
  intro excess kept
  have hpass := evict_eq limit.count ms
  have hgone : (evict limit.count ms).2 = excess := by rw [hpass]
  have hevict : evict limit.count ms = (kept, excess) := Prod.ext rfl hgone
  have hkept : kept = lastTurns limit.count ms :=
    (congrArg Prod.fst hpass).trans (dropTurns_eq_lastTurns limit.count ms)
  refine ⟨hgone, fun n rest => ?_, fun n rest _ => round_ne_stuck, ?_, ?_, ?_, ?_,
    ?_, rfl⟩
  · rw [rounds_iff, hevict, Prod.mk.injEq]
    exact and_comm.trans (and_congr eq_comm eq_comm)
  · rw [← dropTurns_eq_withoutTurns, hkept, dropTurns_eq_lastTurns]
  · rw [hkept]
    exact lastTurns_sublist limit.count ms
  · rw [hkept]
    exact filter_turn_lastTurns limit.count ms
  · rw [hkept]
    exact filter_system_lastTurns limit.count ms
  · obtain ⟨hrounds, hover⟩ := rounds_iff.mpr hevict
    exact rounds_iff.mp ⟨.none kept, hover⟩

end ModelChat.Transcript
