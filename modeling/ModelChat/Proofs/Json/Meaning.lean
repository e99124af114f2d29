import ModelChat.Proofs.Json.Canonical
import ModelChat.Proofs.Json.Passing
import ModelChat.Proofs.Json.Recognition

/-! Readers that go by the value of a text. Main statement: where every member is taken in for its
name and value alone, so are all members of an object, in any layout. -/
namespace ModelChat.Json
open Text

section Results
variable {ε α β : Type}

@[simp] theorem toOption_ok (a : α) : (Except.ok a : Except ε α).toOption = some a := rfl

@[simp] theorem toOption_error (e : ε) : (Except.error e : Except ε α).toOption = none := rfl

theorem toOption_bind (x : Except ε α) (f : α → Except ε β) :
    (x >>= f).toOption = x.toOption.bind fun a => (f a).toOption := by
  cases x <;> rfl

theorem toOption_map (f : α → β) (x : Except ε α) : (x.map f).toOption = x.toOption.map f := by
  cases x <;> rfl

theorem toOption_eq_some {x : Except ε α} {a : α} : x.toOption = some a ↔ x = .ok a := by
  cases x <;> simp [Except.toOption]

theorem toOption_eq_none {x : Except ε α} : x.toOption = none ↔ ∃ e, x = .error e := by
  cases x <;> simp [Except.toOption]

end Results

section Readers
variable {α : Type} {read : Reader α} {meaning : Json → Option α} {room bound : Nat}

/-- Every text of a value up to a length is read as what the value means; a value without a
meaning is refused. -/
def GoesBy (read : Reader α) (meaning : Json → Option α) (room bound : Nat) : Prop :=
  ∀ {v b t rest}, Blank b → TextOf room v t → t.length ≤ bound → EndsNumber rest →
    (read (b ++ (t ++ rest))).toOption = (meaning v).map (·, rest)

theorem readValue_goesBy (bound room : Nat) : GoesBy (readValue bound room) some room bound := by
  intro v b t rest hb ht hlength hrest
  rw [readValue_textOf bound room hb ht hlength hrest]
  rfl

/-- Of a whole text a reader makes what it makes of its value anywhere. -/
theorem readText_toOption {read : (bound room : Nat) → Reader α} {v : Json} {s : Bytes}
    {x : Option α} (h : IsText v s) (hread : ∀ {b t rest}, Blank b → TextOf maxDepth v t →
      t.length ≤ s.length → EndsNumber rest →
      (read s.length maxDepth (b ++ (t ++ rest))).toOption = x.map (·, rest)) :
    (readText read s).toOption = x := by
  obtain ⟨b, t, b', hb, ht, hb', hs⟩ := h
  have hlength : t.length ≤ s.length := by
    rw [hs]
    simp only [List.length_append]
    omega
  have hvalue := hread hb ht hlength hb'.endsNumber
  rw [← hs] at hvalue
  unfold readText
  cases x with
  | none =>
    obtain ⟨fault, hfault⟩ := toOption_eq_none.mp hvalue
    rw [hfault]
    rfl
  | some a =>
    rw [toOption_eq_some.mp hvalue]
    simp only [skipBlanks_blank hb']
    rfl

end Readers

section Values
variable {room bound : Nat} {v : Json} {s : Bytes}

theorem TextOf.of_plain (h : TextOf room v s) (hv : IsPlain v) : Scalar v s := by
  cases room with
  | zero => exact h
  | succ room =>
    rcases h with h | ⟨_, _, rfl, -⟩ | ⟨_, _, rfl, -⟩
    · exact h
    · exact hv.elim
    · exact hv.elim

theorem TextOf.of_null (h : TextOf room .null s) : s = Utf8.encode "null" := by
  cases h.of_plain trivial with
  | null => rfl
  | number _ hv => rcases Numeral.value_number hv with ⟨i, hi⟩ | ⟨x, hx⟩ <;> contradiction

theorem readScalar_null (rest : Bytes) :
    readScalar 'n'.toUInt8 (Utf8.encode "ull" ++ rest) = .ok (.null, rest) := by
  have hread (s : Bytes) : readScalar 'n'.toUInt8 s =
      (readWord (Utf8.encode "ull") s).map (Json.null, ·) := rfl
  rw [hread, readWord_append]
  rfl

/-- The first byte of a text without brackets tells strings and null from other values. -/
theorem Scalar.head (h : Scalar v s) : ∃ c t, s = c :: t ∧ BeginsScalar c ∧
    (c = '"'.toUInt8 → ∃ text, v = .string text) ∧ (c = 'n'.toUInt8 → v = .null) := by
  obtain ⟨c, t, rfl, hc, hread⟩ := readScalar_append h endsNumber_nil
  refine ⟨c, t, rfl, hc, ?_, ?_⟩
  · rintro rfl
    have hstring : (readString (t ++ [])).map (fun p => (Json.string p.1, p.2)) = .ok (v, []) :=
      hread
    obtain ⟨p, -, hv⟩ := map_eq_ok.mp hstring
    exact ⟨p.1, (congrArg Prod.fst hv).symm⟩
  · rintro rfl
    have hnull : (readWord (Utf8.encode "ull") (t ++ [])).map (Json.null, ·) = .ok (v, []) := hread
    obtain ⟨_, -, hv⟩ := map_eq_ok.mp hnull
    exact (congrArg Prod.fst hv).symm

/-- The first byte of a text tells strings, null and objects from other values. -/
theorem TextOf.head (h : TextOf room v s) : ∃ c t, s = c :: t ∧ isBlank c = false ∧
    (c = '"'.toUInt8 → ∃ text, v = .string text) ∧ (c = 'n'.toUInt8 → v = .null) ∧
    (c = Bracket.brace.opening → ∃ members, v = .object members) := by
  have hscalar (h : Scalar v s) : ∃ c t, s = c :: t ∧ isBlank c = false ∧
      (c = '"'.toUInt8 → ∃ text, v = .string text) ∧ (c = 'n'.toUInt8 → v = .null) ∧
      (c = Bracket.brace.opening → ∃ members, v = .object members) := by
    obtain ⟨c, t, hs, hc, hstring, hnull⟩ := h.head
    exact ⟨c, t, hs, hc.blank, hstring, hnull, fun hbrace => absurd hbrace hc.brace⟩
  cases room with
  | zero => exact hscalar h
  | succ room =>
    rcases h with h | ⟨items, t, rfl, -, rfl⟩ | ⟨members, t, rfl, -, rfl⟩
    · exact hscalar h
    · refine ⟨_, _, rfl, Bracket.isBlank_opening .square, ?_, ?_, ?_⟩ <;> intro hc <;> cases hc
    · refine ⟨_, _, rfl, Bracket.isBlank_opening .brace, ?_, ?_, fun _ => ⟨members, rfl⟩⟩ <;>
        intro hc <;> cases hc

theorem readName_quoted {α : Type} (names : List String) (find : String → Option α) {b q : Bytes}
    {text : String} (hb : Blank b) (hq : Quoted text q) (rest : Bytes) :
    (readName names find (b ++ '"'.toUInt8 :: (q ++ rest))).toOption =
      (find text).map (·, rest) := by
  simp only [readName, readStringOr_append hb hq]
  cases find text <;> rfl

/-- A name is read from a string. -/
theorem readName_goesBy {α : Type} (names : List String) (find : String → Option α) :
    GoesBy (readName names find) (fun v => v.string?.bind find) room bound := by
  intro v b t rest hb ht _ _
  have hother (hv : v.string? = none) :
      (readName names find (b ++ (t ++ rest))).toOption = none := by
    obtain ⟨c, u, rfl, hblank, hquote, -⟩ := ht.head
    have hc : c ≠ '"'.toUInt8 := by
      intro hc
      obtain ⟨text, rfl⟩ := hquote hc
      cases hv
    simp only [readName, readStringOr, List.cons_append, skipBlanks_append hb hblank, if_neg hc]
    rfl
  cases v with
  | string text =>
    obtain ⟨q, rfl, hq⟩ := ht.of_string
    exact readName_quoted names find hb hq rest
  | _ => exact hother rfl

end Values

section Members
variable {α β σ τ : Type} {room bound : Nat}

/-- The value of a name that is to be there once. -/
def once (name : String) (meaning : Json → Option α) (members : List (String × Json)) : Option α :=
  match members.filter (·.1 = name) with
  | [(_, v)] => meaning v
  | _ => none

/-- What is known of a name after one more member. -/
def learn (name : String) (meaning : Json → Option α) (known : Option α) (m : String × Json) :
    Option (Option α) :=
  if m.1 = name then if known.isSome then none else (meaning m.2).map some else some known

theorem learn_of_ne {name : String} {meaning : Json → Option α} {known : Option α}
    {m : String × Json} (h : m.1 ≠ name) : learn name meaning known m = some known :=
  if_neg h

theorem once_eq_some {name : String} {meaning : Json → Option α} {members : List (String × Json)}
    {a : α} : once name meaning members = some a ↔
      ∃ v, members.filter (·.1 = name) = [(name, v)] ∧ meaning v = some a := by
  unfold once
  split
  next n v hfilter =>
    have hname : n = name := by
      have hmem : (n, v) ∈ members.filter (·.1 = name) := hfilter ▸ List.mem_singleton_self _
      simpa using (List.mem_filter.mp hmem).2
    rw [hfilter, hname]
    simp
  next hother =>
    constructor
    · intro h
      cases h
    · rintro ⟨v, hfilter, -⟩
      exact absurd hfilter (hother name v)

/-- A name that is missing or repeated has no value. -/
theorem once_eq_none {name : String} {meaning : Json → Option α} {members : List (String × Json)}
    (h : (members.map Prod.fst).count name ≠ 1) : once name meaning members = none := by
  apply Option.eq_none_iff_forall_ne_some.mpr
  intro a ha
  apply h
  obtain ⟨v, hfilter, -⟩ := once_eq_some.mp ha
  have hlength : members.countP (·.1 = name) = 1 := by
    rw [List.countP_eq_length_filter, hfilter, List.length_singleton]
  rw [List.count_eq_countP, List.countP_map]
  simpa [Function.comp_def, beq_eq_decide] using hlength

/-- The one value of a name is any that stands there. -/
theorem meaning_of_once {name : String} {meaning : Json → Option α}
    {members : List (String × Json)} {a : α} (h : once name meaning members = some a) {v : Json}
    (hv : (name, v) ∈ members) : meaning v = some a := by
  obtain ⟨w, hfilter, hw⟩ := once_eq_some.mp h
  have hmem : (name, v) ∈ members.filter (·.1 = name) := List.mem_filter.mpr ⟨hv, by simp⟩
  rw [hfilter, List.mem_singleton] at hmem
  cases hmem
  exact hw

/-- Of the member itself only its meaning counts. -/
theorem once_congr {name : String} {f g : Json → Option α} {v w : Json} (h : f v = g w)
    (before after : List (String × Json)) :
    once name f (before ++ (name, v) :: after) = once name g (before ++ (name, w) :: after) := by
  have hhere (u : Json) : (before ++ (name, u) :: after).filter (·.1 = name) =
      before.filter (·.1 = name) ++ (name, u) :: after.filter (·.1 = name) := by
    rw [List.filter_append, List.filter_cons_of_pos (by simp)]
  rw [once, once, hhere, hhere]
  cases before.filter (·.1 = name) with
  | nil => cases after.filter (·.1 = name) <;> simp [h]
  | cons m ms => cases ms <;> simp

theorem once_elsewhere {name other : String} (h : other ≠ name) (meaning : Json → Option α)
    (v : Json) (before after : List (String × Json)) :
    once name meaning (before ++ (other, v) :: after) = once name meaning (before ++ after) := by
  have hfilter : (before ++ (other, v) :: after).filter (·.1 = name) =
      (before ++ after).filter (·.1 = name) := by
    rw [List.filter_append, List.filter_cons_of_neg (by simpa using h), List.filter_append]
  rw [once, once, hfilter]

theorem once_map {β : Type} (name : String) (meaning : Json → Option α) (f : α → β)
    (members : List (String × Json)) :
    (once name meaning members).map f = once name (fun v => (meaning v).map f) members := by
  unfold once
  split <;> rfl

/-- Members of another name make no difference. -/
theorem once_filter_ne {name other : String} (h : name ≠ other) (meaning : Json → Option α)
    (members : List (String × Json)) :
    once name meaning (members.filter (·.1 ≠ other)) = once name meaning members := by
  have hfilter : (members.filter (·.1 ≠ other)).filter (·.1 = name) =
      members.filter (·.1 = name) := by
    rw [List.filter_filter]
    apply List.filter_congr
    intro m _
    by_cases hm : m.1 = name <;> simp [hm, h]
  rw [once, once, hfilter]

private theorem foldlM_learn_some {name : String} {meaning : Json → Option α} (a : α)
    (members : List (String × Json)) : members.foldlM (learn name meaning) (some a) =
      if members.filter (·.1 = name) = [] then some (some a) else none := by
  induction members with
  | nil => rfl
  | cons m members ih =>
    by_cases hname : m.1 = name
    · simp [learn, hname]
    · have hrest : (m :: members).filter (·.1 = name) = members.filter (·.1 = name) :=
        List.filter_cons_of_neg (by simpa using hname)
      rw [List.foldlM_cons, learn, if_neg hname, hrest]
      exact ih

/-- Members are gone through one by one, and only one of them may have the name. -/
theorem foldlM_learn (name : String) (meaning : Json → Option α)
    (members : List (String × Json)) :
    (members.foldlM (learn name meaning) none).bind id = once name meaning members := by
  induction members with
  | nil => rfl
  | cons m members ih =>
    by_cases hname : m.1 = name
    · have hfirst : (m :: members).filter (·.1 = name) = m :: members.filter (·.1 = name) :=
        List.filter_cons_of_pos (by simpa using hname)
      simp only [List.foldlM_cons, learn, if_pos hname, once, hfirst]
      cases hvalue : meaning m.2 with
      | none => cases members.filter (·.1 = name) <;> simp [hvalue]
      | some a =>
        cases hmore : members.filter (·.1 = name) <;> simp [hvalue, hmore, foldlM_learn_some]
    · simpa [learn, hname, once, List.filter_cons] using ih

theorem toOption_foldlM {ε : Type} {next : σ → τ → Except ε σ} (xs : List τ) (st : σ) :
    (xs.foldlM next st).toOption = xs.foldlM (fun st x => (next st x).toOption) st := by
  induction xs generalizing st with
  | nil => rfl
  | cons x xs ih =>
    simp only [List.foldlM_cons, toOption_bind, ih]
    rfl

/-- The parts of a state are carried along independently. -/
theorem foldlM_pair {ρ : Type} (make : σ → τ → ρ) {next : ρ → String × Json → Option ρ}
    (left : σ → String × Json → Option σ) (right : τ → String × Json → Option τ)
    (h : ∀ x y m, next (make x y) m = (left x m).bind fun x => (right y m).map (make x))
    (members : List (String × Json)) (x : σ) (y : τ) : members.foldlM next (make x y) =
      (members.foldlM left x).bind fun x => (members.foldlM right y).map (make x) := by
  induction members generalizing x y with
  | nil => rfl
  | cons m members ih =>
    simp only [List.foldlM_cons, Option.bind_eq_bind, h]
    cases left x m with
    | none => rfl
    | some x =>
      cases right y m with
      | none =>
        change none = (members.foldlM left x).bind fun _ => none
        cases members.foldlM left x <;> rfl
      | some y => exact ih x y

/-- What a step makes of a member depends on its name and the value of its text. -/
def StepGoesBy (step : σ → String → Reader σ) (next : σ → String × Json → Option σ)
    (room bound : Nat) : Prop :=
  ∀ {st m b b' t rest}, Blank b → Blank b' → TextOf room m.2 t → t.length ≤ bound →
    EndsNumber rest → (step st m.1 (b ++ ':'.toUInt8 :: (b' ++ (t ++ rest)))).toOption =
      (next st m).map (·, rest)

/-- All members are taken in for their names and values. -/
theorem foldMembers_goesBy {step : σ → String → Reader σ} {next : σ → String × Json → Option σ}
    (hstep : StepGoesBy step next room bound) {first : Bool} {ms : List (String × Json)}
    {s : Bytes} (h : Listed (Member (TextOf room)) first ms s) (st : σ) {n : Nat}
    (hn : ms.length ≤ n) (hs : s.length ≤ bound) (rest : Bytes) :
    ∃ b, Blank b ∧ (foldMembers step n first st (s ++ Bracket.brace.closing :: rest)).toOption =
      (ms.foldlM next st).map (·, b ++ Bracket.brace.closing :: rest) := by
  induction h generalizing n st with
  | @nil first b hb =>
    refine ⟨b, hb, ?_⟩
    cases n with
    | zero => rfl
    | succ n =>
      rw [foldMembers, nextName_end hb, ok_bind]
      rfl
  | @cons first m ms lead t s hlead ht hmore ih =>
    obtain ⟨n, rfl⟩ : ∃ m, n = m + 1 := ⟨n - 1, by simp only [List.length_cons] at hn; omega⟩
    simp only [List.length_append, List.length_cons] at hn hs
    cases ht with
    | @mk name v q c c' u hq hc hc' hu =>
      simp only [List.length_cons, List.length_append] at hs
      have htaken := @hstep st (name, v) _ _ _ _ hc hc' hu (by omega)
        (hmore.endsNumber (Bracket.goesOn_closing .brace) rest)
      dsimp only at htaken
      simp only [foldMembers, List.append_assoc, List.cons_append, nextName_append hlead hq,
        ok_bind, toOption_bind, htaken, List.foldlM_cons]
      cases next st (name, v) with
      -- The step has refused the member; nothing is left to say where the reader would be.
      | none => exact ⟨[], List.forall_mem_nil _, rfl⟩
      | some st => exact ih st (by omega) (by omega)

variable {read : Reader α} {meaning : Json → Option α} {b b' t rest : Bytes} {v : Json}

/-- A member that may come once is read for its value, and refused the second time. -/
theorem readField_goesBy (hread : GoesBy read meaning room bound) (name : String)
    (known : Option α) (hb : Blank b) (hb' : Blank b') (ht : TextOf room v t)
    (hlength : t.length ≤ bound) (hrest : EndsNumber rest) :
    (readField name known read (b ++ ':'.toUInt8 :: (b' ++ (t ++ rest)))).toOption =
      (learn name meaning known (name, v)).map (·, rest) := by
  cases known with
  | some a => simp [readField, learn, Except.toOption]
  | none =>
    simp only [readField, readColon_append hb, ok_bind, toOption_bind,
      hread hb' ht hlength hrest, learn]
    cases meaning v <;> rfl

end Members

section Records
variable {α : Type} {expected : String} {asArray asObject : (room : Nat) → Reader α}
  {room bound : Nat} {b t rest : Bytes}

theorem readRecord_plain {v : Json} (hb : Blank b) (hv : IsPlain v) (ht : TextOf room v t)
    (hrest : EndsNumber rest) :
    (readRecord expected asArray asObject room (b ++ (t ++ rest))).toOption = none := by
  obtain ⟨c, u, rfl, hc, -⟩ := readScalar_append (ht.of_plain hv) hrest
  simp only [readRecord, List.cons_append, skipBlanks_append hb hc.blank, if_neg hc.square,
    if_neg hc.brace]
  rfl

/-- What is in brackets may be followed by blanks before the closing one. -/
theorem enclosed_goesBy {bracket : Bracket} {body : Reader α} {x : Option α} {s b' : Bytes}
    (hb' : Blank b') (h : (body s).toOption = x.map (·, b' ++ bracket.closing :: rest)) :
    (enclosed bracket body s).toOption = x.map (·, rest) := by
  cases x with
  | none =>
    obtain ⟨fault, hfault⟩ := toOption_eq_none.mp h
    cases fault <;> simp [enclosed, hfault, Except.toOption]
  | some a =>
    rw [enclosed_append hb' (toOption_eq_some.mp h)]
    rfl

theorem readRecord_brace {x : Option α} {b' : Bytes} (hb : Blank b) (hb' : Blank b')
    (h : (asObject room (t ++ Bracket.brace.closing :: rest)).toOption =
      x.map (·, b' ++ Bracket.brace.closing :: rest)) :
    (readRecord expected asArray asObject (room + 1)
      (b ++ (Bracket.brace.opening :: (t ++ [Bracket.brace.closing]) ++ rest))).toOption =
      x.map (·, rest) := by
  simp only [readRecord, List.cons_append, List.append_assoc, List.nil_append,
    skipBlanks_append hb (Bracket.isBlank_opening .brace), if_neg Bracket.brace_ne_square, if_true,
    enclosed_goesBy hb' h]

theorem readRecord_square {x : Option α} {b' : Bytes} (hb : Blank b) (hb' : Blank b')
    (h : (asArray room (t ++ Bracket.square.closing :: rest)).toOption =
      x.map (·, b' ++ Bracket.square.closing :: rest)) :
    (readRecord expected asArray asObject (room + 1)
      (b ++ (Bracket.square.opening :: (t ++ [Bracket.square.closing]) ++ rest))).toOption =
      x.map (·, rest) := by
  simp only [readRecord, List.cons_append, List.append_assoc, List.nil_append,
    skipBlanks_append hb (Bracket.isBlank_opening .square), if_true, enclosed_goesBy hb' h]

end Records
end ModelChat.Json
