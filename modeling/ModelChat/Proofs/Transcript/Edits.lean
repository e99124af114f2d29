import ModelChat.Proofs.Transcript.Retention

/-! Transcripts by themselves: messages from anyone, under limits that change between them.
Main statement: what is kept is read off all that was pushed and one number. -/
namespace ModelChat.Transcript

/-- All messages from the system, and of the turns the last ones, as many as given. -/
def lastTurns (n : Nat) : List Message → List Message
  | [] => []
  | m :: ms => if m.isTurn ∧ n ≤ countTurns ms then lastTurns n ms else m :: lastTurns n ms

/-- What can be done with a transcript. -/
inductive Edit where
  | push (message : Message)
  | limit (limit : Option Limit)
  deriving DecidableEq, Repr

/-- The message that an edit brings. -/
def Edit.added : Edit → List Message
  | .push m => [m]
  | .limit _ => []

/-- A transcript after an edit, how many messages had to go, and what was noted. -/
structure Revision where
  transcript : Transcript
  gone : Nat
  events : List Event
  deriving DecidableEq, Repr

def edit (t : Transcript) (e : Edit) : Revision :=
  let (transcript, gone) := match e with
    | .push m => t.push m
    | .limit limit => t.withLimit limit
  ⟨transcript, gone, events gone⟩

/-- The transcript that edits leave of an empty one. -/
def edited (es : List Edit) : Transcript :=
  es.foldl (fun t e => (t.edit e).transcript) empty

/-- A number, or the limit if that is less. -/
def cap (limit : Option Limit) (n : Nat) : Nat :=
  match limit with
  | none => n
  | some l => min n l.count

/-- The course of edits: all that was pushed, the limit now, and how many turns are kept. -/
structure Ledger where
  pushed : List Message
  limit : Option Limit
  kept : Nat
  deriving DecidableEq, Repr

namespace Ledger

/-- A message from the system leaves the number of turns as it is, and a higher limit brings none
back. -/
def note (b : Ledger) : Edit → Ledger
  | .push m =>
    ⟨b.pushed ++ [m], b.limit, if m.role = .system then b.kept else cap b.limit (b.kept + 1)⟩
  | .limit limit => ⟨b.pushed, limit, cap limit b.kept⟩

def ofEdits (es : List Edit) : Ledger :=
  es.foldl note ⟨[], none, 0⟩

/-- The transcript that the ledger accounts for. -/
def transcript (b : Ledger) : Transcript :=
  ⟨lastTurns b.kept b.pushed, b.limit⟩

/-- The turns kept have been pushed, and the limit allows them. -/
structure Fits (b : Ledger) : Prop where
  pushed : b.kept ≤ countTurns b.pushed
  allowed : cap b.limit b.kept = b.kept

end Ledger

theorem dropTurns_eq_lastTurns (n : Nat) (ms : List Message) :
    dropTurns (countTurns ms - n) ms = lastTurns n ms := by
  induction ms with
  | nil => simp [countTurns, dropTurns, lastTurns]
  | cons m ms ih =>
    by_cases hm : m.isTurn
    · have hcount : countTurns (m :: ms) = countTurns ms + 1 := by simp [countTurns, hm]
      by_cases hn : n ≤ countTurns ms
      · have hone : countTurns ms + 1 - n = (countTurns ms - n) + 1 := by omega
        simp [hcount, hone, dropTurns, lastTurns, hm, hn, ih]
      · have hnone : countTurns ms + 1 - n = 0 := by omega
        have hall : countTurns ms - n = 0 := by omega
        rw [hall, dropTurns] at ih
        simp [hcount, hnone, dropTurns, lastTurns, hn, ← ih]
    · have hcount : countTurns (m :: ms) = countTurns ms := by simp [countTurns, hm]
      rw [hcount, dropTurns_system (by simpa using hm), ih]
      simp [lastTurns, hm]

theorem countTurns_lastTurns (n : Nat) (ms : List Message) :
    countTurns (lastTurns n ms) = min n (countTurns ms) := by
  induction ms with
  | nil => simp [lastTurns, countTurns]
  | cons m ms ih =>
    unfold countTurns at ih ⊢
    by_cases hm : m.isTurn
    · by_cases hn : n ≤ ms.countP Message.isTurn
      · simp only [lastTurns, countTurns, hm, hn, and_self, if_true, ih, List.countP_cons_of_pos]
        omega
      · simp only [lastTurns, countTurns, hm, hn, and_false, if_false, List.countP_cons_of_pos, ih]
        omega
    · simp [lastTurns, hm, ih]

theorem lastTurns_lastTurns (a b : Nat) (ms : List Message) :
    lastTurns a (lastTurns b ms) = lastTurns (min a b) ms := by
  induction ms with
  | nil => rfl
  | cons m ms ih =>
    by_cases hm : m.isTurn
    · by_cases hb : b ≤ countTurns ms
      · have hmin : min a b ≤ countTurns ms := by omega
        simp [lastTurns, hm, hb, hmin, ih]
      · have hmin : min a b ≤ countTurns ms ↔ a ≤ min b (countTurns ms) := by omega
        simp [lastTurns, hm, hb, ih, countTurns_lastTurns, hmin]
    · simp [lastTurns, hm, ih]

theorem countTurns_concat (ms : List Message) (m : Message) :
    countTurns (ms ++ [m]) = if m.isTurn then countTurns ms + 1 else countTurns ms := by
  by_cases hm : m.isTurn <;> simp [countTurns, List.countP_append, hm]

/-- A new turn is one more of the last ones. -/
theorem lastTurns_concat (n : Nat) (ms : List Message) (m : Message) :
    lastTurns n ms ++ [m] = lastTurns (if m.isTurn then n + 1 else n) (ms ++ [m]) := by
  induction ms with
  | nil => by_cases hm : m.isTurn <;> simp [lastTurns, countTurns, hm]
  | cons x ms ih =>
    have hcount : (if m.isTurn then n + 1 else n) ≤ countTurns (ms ++ [m]) ↔ n ≤ countTurns ms := by
      rw [countTurns_concat]
      by_cases hm : m.isTurn <;> simp [hm]
    by_cases hx : x.isTurn ∧ n ≤ countTurns ms
    · simp only [lastTurns, List.cons_append, hcount, if_pos hx, ih]
    · simp only [lastTurns, List.cons_append, hcount, if_neg hx, ih]

theorem lastTurns_sublist (n : Nat) (ms : List Message) : (lastTurns n ms).Sublist ms := by
  induction ms with
  | nil => exact List.Sublist.refl []
  | cons m ms ih =>
    by_cases hm : m.isTurn ∧ n ≤ countTurns ms
    · simpa only [lastTurns, if_pos hm] using ih.cons m
    · simpa only [lastTurns, if_neg hm] using ih.cons_cons m

theorem filter_system_lastTurns (n : Nat) (ms : List Message) :
    (lastTurns n ms).filter (!·.isTurn) = ms.filter (!·.isTurn) := by
  induction ms with
  | nil => rfl
  | cons m ms ih =>
    by_cases hm : m.isTurn
    · by_cases hn : n ≤ countTurns ms <;> simp [lastTurns, hm, hn, ih]
    · simp [lastTurns, hm, ih]

theorem filter_turn_lastTurns (n : Nat) (ms : List Message) :
    (lastTurns n ms).filter Message.isTurn =
      (ms.filter Message.isTurn).drop (countTurns ms - n) := by
  rw [← dropTurns_eq_lastTurns]
  -- The number dropped goes down along the messages; the number kept would not.
  generalize countTurns ms - n = gone
  induction ms generalizing gone with
  | nil => cases gone <;> rfl
  | cons m ms ih =>
    cases gone with
    | zero => rfl
    | succ gone => by_cases hm : m.isTurn <;> simp [dropTurns, hm, ih]

/-- What a limit leaves of last turns is fewer of them. -/
theorem retain_lastTurns (limit : Option Limit) {n : Nat} {ms : List Message}
    (hn : n ≤ countTurns ms) :
    retain limit (lastTurns n ms) = (lastTurns (cap limit n) ms, n - cap limit n) := by
  cases limit with
  | none => simp [retain, cap]
  | some l =>
    have hgone : min n (countTurns ms) - l.count = n - min n l.count := by omega
    rw [retain, evict_eq, dropTurns_eq_lastTurns, lastTurns_lastTurns, countTurns_lastTurns, hgone,
      cap, Nat.min_comm]

theorem cap_le (limit : Option Limit) (n : Nat) : cap limit n ≤ n := by
  cases limit with
  | none => exact Nat.le_refl n
  | some l => exact Nat.min_le_left n l.count

theorem cap_cap (limit : Option Limit) (n : Nat) : cap limit (cap limit n) = cap limit n := by
  cases limit with
  | none => rfl
  | some l => simp [cap]

/-- How many turns go when one comes: one, if the limit has been reached. -/
theorem succ_sub_cap {limit : Option Limit} {n : Nat} (h : cap limit n = n) :
    n + 1 - cap limit (n + 1) = if ∃ l, limit = some l ∧ n = l.count then 1 else 0 := by
  cases limit with
  | none => simp [cap]
  | some l =>
    simp only [cap, Option.some.injEq, exists_eq_left'] at h ⊢
    split <;> omega

namespace Ledger
variable {b : Ledger} (h : b.Fits)
include h

theorem Fits.note (e : Edit) : (b.note e).Fits := by
  obtain ⟨hpushed, hallowed⟩ := h
  cases e with
  | limit limit => exact ⟨Nat.le_trans (cap_le limit b.kept) hpushed, cap_cap limit b.kept⟩
  | push m =>
    by_cases hm : m.role = .system
    · have hcount : countTurns (b.pushed ++ [m]) = countTurns b.pushed := by
        simp [countTurns_concat, Message.isTurn, hm]
      refine ⟨?_, ?_⟩
      · simpa only [Ledger.note, if_pos hm, hcount] using hpushed
      · simpa only [Ledger.note, if_pos hm] using hallowed
    · have hcount : countTurns (b.pushed ++ [m]) = countTurns b.pushed + 1 := by
        simp [countTurns_concat, Message.isTurn, hm]
      refine ⟨?_, ?_⟩
      · simp only [Ledger.note, if_neg hm, hcount]
        exact Nat.le_trans (cap_le b.limit _) (Nat.succ_le_succ hpushed)
      · simp only [Ledger.note, if_neg hm, cap_cap]

/-- What an edit does to the transcript that a ledger accounts for. -/
theorem Fits.edit (e : Edit) :
    (b.transcript.edit e).transcript = (b.note e).transcript ∧
    (b.transcript.edit e).gone = match e with
      | .push m =>
        if m.role ≠ .system ∧ ∃ l, b.limit = some l ∧ b.kept = l.count then 1 else 0
      | .limit limit => b.kept - cap limit b.kept := by
  obtain ⟨hpushed, hallowed⟩ := h
  cases e with
  | limit limit =>
    simp [Transcript.edit, withLimit, transcript, retain_lastTurns limit hpushed, Ledger.note]
  | push m =>
    have hcount : (if m.isTurn then b.kept + 1 else b.kept) ≤ countTurns (b.pushed ++ [m]) := by
      rw [countTurns_concat]
      split <;> omega
    simp only [Transcript.edit, push, transcript, lastTurns_concat, retain_lastTurns b.limit hcount]
    by_cases hm : m.role = .system
    · simp [hm, Message.isTurn, hallowed, Ledger.note]
    · simp [hm, Message.isTurn, succ_sub_cap hallowed, Ledger.note]

/-- A limit is positive, so what has just been pushed is kept. -/
theorem Fits.last_push (m : Message) : (b.note (.push m)).transcript.last? = some m := by
  obtain ⟨hpushed, hallowed⟩ := h
  by_cases hm : m.role = .system
  · have hkept := lastTurns_concat b.kept b.pushed m
    rw [if_neg (by simp [Message.isTurn, hm])] at hkept
    simp [last?, transcript, Ledger.note, hm, ← hkept]
  · obtain ⟨n, hn⟩ : ∃ n, cap b.limit (b.kept + 1) = n + 1 := by
      cases hlimit : b.limit with
      | none => exact ⟨b.kept, rfl⟩
      | some l =>
        have hpos := l.pos
        exact ⟨min (b.kept + 1) l.count - 1, by simp only [cap]; omega⟩
    have hkept := lastTurns_concat n b.pushed m
    rw [if_pos (by simp [Message.isTurn, hm])] at hkept
    simp [last?, transcript, Ledger.note, hm, hn, ← hkept]

end Ledger

theorem length_withoutOldest {ms rest : List Message} (h : withoutOldest? ms = some rest) :
    rest.length + 1 = ms.length := by
  induction ms generalizing rest with
  | nil => cases h
  | cons m ms ih =>
    by_cases hm : m.isTurn
    · have he : ms = rest := by simpa [withoutOldest?, hm] using h
      simp [he]
    · obtain ⟨tail, htail, rfl⟩ : ∃ tail, withoutOldest? ms = some tail ∧ m :: tail = rest := by
        simpa [withoutOldest?, hm] using h
      simpa using ih htail

/-- Every message that is not kept is counted. -/
theorem length_retain (limit : Option Limit) (ms : List Message) :
    (retain limit ms).1.length + (retain limit ms).2 = ms.length := by
  cases limit with
  | none => rfl
  | some l =>
    rw [retain]
    generalize l.count = max
    fun_induction evict max ms with
    | case1 ms hmax rest hrest kept gone he ih =>
      have hlength := length_withoutOldest hrest
      simp only [he] at ih
      change kept.length + (gone + 1) = ms.length
      omega
    | case2 ms hmax hnone => rfl
    | case3 ms hmax => rfl

/-- A ledger stays with the transcript it accounts for. -/
theorem foldl_edit {b : Ledger} (h : b.Fits) (es : List Edit) :
    (es.foldl Ledger.note b).Fits ∧
    es.foldl (fun t e => (t.edit e).transcript) b.transcript =
      (es.foldl Ledger.note b).transcript := by
  induction es generalizing b with
  | nil => exact ⟨h, rfl⟩
  | cons e es ih =>
    rw [List.foldl_cons, List.foldl_cons, (h.edit e).1]
    exact ih (h.note e)

/-- However it was edited, a transcript holds every message from the system and of the turns as
many as its ledger says, the last ones, all in the order in which they were pushed. At most one
turn goes when another comes, and only if the limit had been reached. -/
theorem edits_follow_ledger (before : List Edit) (e : Edit) :
    let t := edited before
    let b := Ledger.ofEdits before
    let turns := b.pushed.filter Message.isTurn
    let revision := t.edit e
    edited (before ++ [e]) = revision.transcript ∧
    t.limit = b.limit ∧
    t.messages = lastTurns b.kept b.pushed ∧
    t.messages.Sublist b.pushed ∧
    t.messages.filter (!·.isTurn) = b.pushed.filter (!·.isTurn) ∧
    b.kept ≤ turns.length ∧
    t.messages.filter Message.isTurn = turns.drop (turns.length - b.kept) ∧
    revision.transcript.messages.length + revision.gone = (t.messages ++ e.added).length ∧
    revision.events = (if revision.gone = 0 then [] else [.evicted revision.gone]) ∧
    ∀ m, e = .push m →
      revision.transcript.last? = some m ∧
      revision.gone =
        if m.role ≠ .system ∧ ∃ l, b.limit = some l ∧ b.kept = l.count then 1 else 0 := by
  intro t b turns revision
  have hfresh : (⟨[], none, 0⟩ : Ledger).Fits := ⟨Nat.le_refl 0, rfl⟩
  obtain ⟨hfits, heq⟩ : b.Fits ∧ t = b.transcript := foldl_edit hfresh before
  have hturns : turns.length = countTurns b.pushed := List.countP_eq_length_filter.symm
  have hmessages : t.messages = lastTurns b.kept b.pushed := congrArg messages heq
  refine ⟨?_, congrArg Transcript.limit heq, hmessages, ?_, ?_, ?_, ?_, ?_, rfl, ?_⟩
  · simp [edited, t, revision]
  · rw [hmessages]
    exact lastTurns_sublist b.kept b.pushed
  · rw [hmessages]
    exact filter_system_lastTurns b.kept b.pushed
  · rw [hturns]
    exact hfits.pushed
  · rw [hmessages, hturns]
    exact filter_turn_lastTurns b.kept b.pushed
  · cases e with
    | push m => exact length_retain t.limit (t.messages ++ [m])
    | limit limit =>
      rw [Edit.added, List.append_nil]
      exact length_retain limit t.messages
  · rintro m rfl
    obtain ⟨hafter, hgone⟩ := hfits.edit (.push m)
    rw [← heq] at hafter hgone
    refine ⟨?_, hgone⟩
    rw [hafter]
    exact hfits.last_push m

end ModelChat.Transcript
