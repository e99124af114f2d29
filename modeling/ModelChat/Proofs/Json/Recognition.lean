import ModelChat.Proofs.Json.Recognition.Token

/-! What is read as a value. Main statement: a text is read as a value if and only if it is one of
the value's texts, with blanks around it. -/
namespace ModelChat.Json
open Text

/-- Texts with blanks before them. -/
def Led {α : Type} (P : α → Bytes → Prop) (a : α) (s : Bytes) : Prop :=
  ∃ b t, Blank b ∧ P a t ∧ s = b ++ t

/-- Whole texts of a value: blanks may stand around it. -/
def IsText (v : Json) (s : Bytes) : Prop :=
  ∃ b t b', Blank b ∧ TextOf maxDepth v t ∧ Blank b' ∧ s = b ++ (t ++ b')

theorem Blank.append {b b' : Bytes} (h : Blank b) (h' : Blank b') : Blank (b ++ b') :=
  List.forall_mem_append.mpr ⟨h, h'⟩

/-- Blanks after a lead belong to it. -/
theorem Lead.append {first : Bool} {lead b : Bytes} (h : Lead first lead) (hb : Blank b) :
    Lead first (lead ++ b) := by
  cases h with
  | first h => exact .first (h.append hb)
  | next h h' =>
    rw [List.append_assoc, List.cons_append]
    exact .next h (h'.append hb)

theorem Listed.cons_led {α : Type} {P : α → Bytes → Prop} {first : Bool} {a : α} {as : List α}
    {lead t s : Bytes} (hlead : Lead first lead) (ht : Led P a t) (hs : Listed P false as s) :
    Listed P first (a :: as) (lead ++ (t ++ s)) := by
  obtain ⟨b, u, hb, hu, rfl⟩ := ht
  have hlonger : lead ++ (b ++ u ++ s) = lead ++ b ++ (u ++ s) := by simp
  rw [hlonger]
  exact .cons (hlead.append hb) hu hs

section Brackets
variable {s rest : Bytes}

theorem readColon_eq_ok (h : readColon s = .ok rest) :
    ∃ b, Blank b ∧ s = b ++ ':'.toUInt8 :: rest := by
  obtain ⟨b, hb, hs⟩ := exists_blank s
  unfold readColon at h
  split at h
  next => cases h
  next hskip =>
    split at h
    next hc =>
      cases h
      exact ⟨b, hb, by rw [← hc, ← hskip, ← hs]⟩
    next => cases h

theorem close_eq_ok {bracket : Bracket} (h : bracket.close s = .ok rest) :
    ∃ b, Blank b ∧ s = b ++ bracket.closing :: rest := by
  obtain ⟨b, hb, hs⟩ := exists_blank s
  unfold Bracket.close at h
  split at h
  next => cases h
  next hskip =>
    split at h
    next hc =>
      cases h
      exact ⟨b, hb, by rw [← hc, ← hskip, ← hs]⟩
    next =>
      split at h
      next => cases h
      next =>
        split at h
        next => cases h
        next =>
          dsimp only at h
          split at h <;> cases h

theorem enclosed_eq_ok {α : Type} {bracket : Bracket} {body : Reader α} {a : α}
    (h : enclosed bracket body s = .ok (a, rest)) :
    ∃ b s', Blank b ∧ body s = .ok (a, s') ∧ s' = b ++ bracket.closing :: rest := by
  unfold enclosed at h
  split at h
  next hbody =>
    split at h
    next hclose =>
      cases h
      obtain ⟨b, hb, hs'⟩ := close_eq_ok hclose
      exact ⟨b, _, hb, hbody, hs'⟩
    next => cases h
  next => cases h
  next => cases h

theorem nextItem_eq_some {first : Bool} (h : nextItem first s = .ok (some rest)) :
    ∃ lead, Lead first lead ∧ s = lead ++ rest := by
  obtain ⟨b, hb, hs⟩ := exists_blank s
  unfold nextItem at h
  split at h
  next => cases h
  next c s' hskip =>
  split at h
  next => cases h
  split at h
  next hfirst =>
    cases h
    rw [hfirst]
    exact ⟨b, .first hb, by rw [← hskip, ← hs]⟩
  next hlater =>
  split at h
  next => cases h
  next hcomma =>
  rw [Bool.not_eq_true] at hlater
  obtain ⟨b', hb', hs'⟩ := exists_blank s'
  split at h
  next => cases h
  next hskip' =>
    split at h
    next => cases h
    next =>
      cases h
      rw [hlater]
      refine ⟨_, .next hb hb', ?_⟩
      rw [List.append_assoc, List.cons_append, ← hskip', ← hs', ← Decidable.not_not.mp hcomma,
        ← hskip, ← hs]

private theorem readString_map_eq {name : String} {s' : Bytes}
    (h : (readString s).map some = .ok (some (name, s'))) :
    ∃ q, Quoted name q ∧ s = q ++ s' := by
  obtain ⟨_, hread, heq⟩ := map_eq_ok.mp h
  cases heq
  exact recognises_readString hread

theorem nextName_eq_some {first : Bool} {name : String}
    (h : nextName first s = .ok (some (name, rest))) :
    ∃ lead q, Lead first lead ∧ Quoted name q ∧ s = lead ++ '"'.toUInt8 :: (q ++ rest) := by
  obtain ⟨b, hb, hs⟩ := exists_blank s
  unfold nextName at h
  split at h
  next => cases h
  next c s' hskip =>
  split at h
  next => cases h
  split at h
  next hfirst =>
    split at h
    next hc =>
      obtain ⟨q, hq, rfl⟩ := readString_map_eq h
      rw [hfirst]
      exact ⟨b, q, .first hb, hq, by rw [← hc, ← hskip, ← hs]⟩
    next => cases h
  next hlater =>
  split at h
  next => cases h
  next hcomma =>
  rw [Bool.not_eq_true] at hlater
  obtain ⟨b', hb', hs'⟩ := exists_blank s'
  split at h
  next => cases h
  next hskip' =>
    split at h
    next hc =>
      obtain ⟨q, hq, rfl⟩ := readString_map_eq h
      rw [hlater]
      refine ⟨_, q, .next hb hb', hq, ?_⟩
      rw [List.append_assoc, List.cons_append, ← hc, ← hskip', ← hs',
        ← Decidable.not_not.mp hcomma, ← hskip, ← hs]
    next =>
      split at h <;> cases h

end Brackets

section Items
variable {α : Type} {P : α → Bytes → Prop}

/-- Items are read from a list of their texts, to which blanks may be added. -/
theorem readItems_eq_ok {item : Reader α} (hitem : Recognises item (Led P)) {n : Nat}
    {first : Bool} {as : List α} {s rest : Bytes} (h : readItems item n first s = .ok (as, rest)) :
    ∃ t, s = t ++ rest ∧ ∀ b, Blank b → Listed P first as (t ++ b) := by
  have hend (first : Bool) : ∀ b, Blank b → Listed P first [] ([] ++ b) := fun _ hb => .nil hb
  induction n generalizing first as s with
  | zero =>
    cases h
    exact ⟨[], rfl, hend first⟩
  | succ n ih =>
    simp only [readItems, bind_eq_ok] at h
    obtain ⟨next, hnext, h⟩ := h
    cases next with
    | none =>
      cases h
      exact ⟨[], rfl, hend first⟩
    | some s₁ =>
      simp only [bind_eq_ok] at h
      obtain ⟨⟨a, s₂⟩, hone, ⟨as, s₃⟩, hmore, h⟩ := h
      cases h
      obtain ⟨lead, hlead, rfl⟩ := nextItem_eq_some hnext
      obtain ⟨t, ht, rfl⟩ := hitem hone
      obtain ⟨u, rfl, hu⟩ := ih hmore
      refine ⟨lead ++ (t ++ u), by simp, fun b hb => ?_⟩
      rw [List.append_assoc, List.append_assoc]
      exact .cons_led hlead ht (hu b hb)

theorem readMembers_eq_ok {value : Reader α} (hvalue : Recognises value (Led P)) {n : Nat}
    {first : Bool} {ms : List (String × α)} {s rest : Bytes}
    (h : readMembers value n first s = .ok (ms, rest)) :
    ∃ t, s = t ++ rest ∧ ∀ b, Blank b → Listed (Member P) first ms (t ++ b) := by
  have hend (first : Bool) : ∀ b, Blank b → Listed (Member P) first [] ([] ++ b) :=
    fun _ hb => .nil hb
  induction n generalizing first ms s with
  | zero =>
    cases h
    exact ⟨[], rfl, hend first⟩
  | succ n ih =>
    simp only [readMembers, bind_eq_ok] at h
    obtain ⟨next, hnext, h⟩ := h
    cases next with
    | none =>
      cases h
      exact ⟨[], rfl, hend first⟩
    | some found =>
      obtain ⟨name, s₁⟩ := found
      simp only [bind_eq_ok] at h
      obtain ⟨s₂, hcolon, ⟨a, s₃⟩, hone, ⟨ms, s₄⟩, hmore, h⟩ := h
      cases h
      obtain ⟨lead, q, hlead, hq, rfl⟩ := nextName_eq_some hnext
      obtain ⟨b₁, hb₁, rfl⟩ := readColon_eq_ok hcolon
      obtain ⟨_, ⟨b₂, t, hb₂, ht, rfl⟩, rfl⟩ := hvalue hone
      obtain ⟨u, rfl, hu⟩ := ih hmore
      refine ⟨lead ++ ('"'.toUInt8 :: (q ++ (b₁ ++ ':'.toUInt8 :: (b₂ ++ t))) ++ u), by simp, ?_⟩
      intro b hb
      rw [List.append_assoc, List.append_assoc]
      exact .cons hlead (.mk hq hb₁ hb₂ ht) (hu b hb)

/-- What is in brackets is read with the blanks before the closing one. -/
theorem enclosed_listed {body : Reader (List α)} {Q : Bytes → Prop} {bracket : Bracket}
    {as : List α} {s rest : Bytes} (h : enclosed bracket body s = .ok (as, rest))
    (hbody : ∀ {rest}, body s = .ok (as, rest) →
      ∃ t, s = t ++ rest ∧ ∀ b, Blank b → Q (t ++ b)) :
    ∃ t, Q t ∧ s = t ++ bracket.closing :: rest := by
  obtain ⟨b, _, hb, hread, rfl⟩ := enclosed_eq_ok h
  obtain ⟨t, rfl, ht⟩ := hbody hread
  exact ⟨t ++ b, ht b hb, by simp⟩

end Items

/-- A value is read from one of its texts. -/
theorem recognises_readValue (bound room : Nat) :
    Recognises (readValue bound room) (Led (TextOf room)) := by
  have hscalar {room : Nat} {s b s' rest : Bytes} {v : Json} {c : UInt8} (hb : Blank b)
      (hs : s = b ++ c :: s') (h : readScalar c s' = .ok (v, rest)) :
      ∃ t, Led (TextOf room) v t ∧ s = t ++ rest := by
    obtain ⟨t, ht, rfl⟩ := recognises_readScalar c h
    exact ⟨_, ⟨b, _, hb, .scalar ht, rfl⟩, by rw [hs]; simp⟩
  -- On the room: what is in brackets is read with one bracket less.
  induction room with
  | zero =>
    intro s v rest h
    obtain ⟨b, hb, hs⟩ := exists_blank s
    unfold readValue at h
    split at h
    next => cases h
    next hskip =>
      rw [hskip] at hs
      split at h
      next => cases h
      next => exact hscalar hb hs h
  | succ room ih =>
    intro s v rest h
    obtain ⟨b, hb, hs⟩ := exists_blank s
    unfold readValue at h
    split at h
    next => cases h
    next c s' hskip =>
    rw [hskip] at hs
    split at h
    next hc =>
      obtain ⟨⟨items, rest'⟩, hread, heq⟩ := map_eq_ok.mp h
      cases heq
      obtain ⟨t, ht, rfl⟩ := enclosed_listed hread (readItems_eq_ok ih)
      exact ⟨_, ⟨b, _, hb, .inr (.inl ⟨items, t, rfl, ht, rfl⟩), rfl⟩, by rw [hs, hc]; simp⟩
    next =>
    split at h
    next hc =>
      obtain ⟨⟨members, rest'⟩, hread, heq⟩ := map_eq_ok.mp h
      cases heq
      obtain ⟨t, ht, rfl⟩ := enclosed_listed hread (readMembers_eq_ok ih)
      exact ⟨_, ⟨b, _, hb, .inr (.inr ⟨members, t, rfl, ht, rfl⟩), rfl⟩, by rw [hs, hc]; simp⟩
    next => exact hscalar hb hs h

section Texts
variable {α : Type} {read : (bound room : Nat) → Reader α} {a : α} {s : Bytes}

/-- A whole text is read up to blanks at its end. -/
theorem readText_eq_ok : readText read s = .ok a ↔
    ∃ b, Blank b ∧ read s.length maxDepth s = .ok (a, b) := by
  unfold readText
  constructor
  · intro h
    split at h
    next => cases h
    next rest hread =>
      split at h
      next hskip =>
        cases h
        exact ⟨rest, List.dropWhile_eq_nil_iff.mp hskip, hread⟩
      next => cases h
  · rintro ⟨b, hb, hread⟩
    simp only [hread, skipBlanks_blank hb]

/-- A text is read as a value exactly if it is one of its texts. -/
theorem parse_eq_ok {v : Json} : parse s = .ok v ↔ IsText v s := by
  constructor
  · intro h
    obtain ⟨b', hb', hread⟩ := readText_eq_ok.mp h
    obtain ⟨_, ⟨b, t, hb, ht, rfl⟩, hs⟩ := recognises_readValue _ _ hread
    exact ⟨b, t, b', hb, ht, hb', by rw [hs, List.append_assoc]⟩
  · rintro ⟨b, t, b', hb, ht, hb', rfl⟩
    exact parse_textOf hb ht hb'

end Texts

end ModelChat.Json
