import Mathlib.Logic.Basic
import ModelChat.CommandLine.Parser
import ModelChat.Proofs.Json.Number

/-! Command lines word by word. Main statement: a word that is read is the name of a command or has
one of three forms, and a command line is understood if both its parts are. -/
namespace ModelChat.CommandLine
open Text

/-- The option that waits for its value. -/
def State.open? (st : State) : Option Flag :=
  match st.waiting with
  | some (f, none) => some f
  | _ => none

/-- The command whose name a word is, where one may stand. -/
def named? (s : Scope) (st : State) (w : Bytes) : Option Scope :=
  if s = .program ∧ st.open?.isNone then (Utf8.decode? w).bind Scope.ofName? else none

/-- A word that asks for help, where a command may stand. -/
def AsksForHelp (s : Scope) (st : State) (w : Bytes) : Prop :=
  s = .program ∧ st.open?.isNone ∧ Utf8.decode? w = some helpCommand

/-- What an option does to those that are settled, alone or with a value. -/
inductive Takes (s : Scope) (f : Flag) (settled : State) :
    (value : Option Bytes) → (next : State) → Prop
  | switch : f.valueName = none → settled.has f = false →
    Takes s f settled none ⟨settled.taken ++ [(f, .set)], none⟩
  | waits : f.valueName.isSome → Takes s f settled none ⟨settled.taken, some (f, none)⟩
  | given {value : Bytes} {next : State} : f.valueName.isSome →
    accept s settled.taken f value = .ok next → Takes s f settled (some value) next

/-- A word of the options of a scope, and what is known when it has been read. After a separator no
other word may come. -/
inductive Reads (s : Scope) (st : State) (w : Bytes) : (next : State) → (escaped : Bool) → Prop
  | separator : Word.of w = .separator → Reads s st w st true
  | option {name : String} {value : Option Bytes} {f : Flag} {settled next : State} :
    Word.of w = .long name value → ¬ (name = helpFlag ∨ name = versionFlag) →
    s.flag? name = some f → settle s st = .ok settled → Takes s f settled value next →
    Reads s st w next false
  | value {f : Flag} : Word.of w = .plain → st.open? = some f →
    Reads s st w ⟨st.taken, some (f, some w)⟩ false

section Options
variable {s : Scope} {st next : State}

theorem accept_eq_ok {taken : List (Flag × Value)} {f : Flag} {value : Bytes} :
    accept s taken f value = .ok next ↔ taken.any (·.1 = f) = false ∧
      ∃ v, readValue s f value = .ok v ∧ ⟨taken ++ [(f, v)], none⟩ = next := by
  unfold accept
  split
  next h => simp [h]
  next h =>
    rw [Bool.not_eq_true] at h
    cases readValue s f value <;> simp [h, Except.map]

theorem ofExcept_eq_go {result : Except Fault State} :
    Effect.ofExcept result = .go next ↔ result = .ok next := by
  cases result <;> simp [Effect.ofExcept]

theorem surplus_ne_go (option : String) (value : Bytes) : surplus s st option value ≠ .go next :=
  nofun

theorem effectOf_ne_go (reason : Stop) : effectOf s st reason ≠ .go next := by
  unfold effectOf
  split <;> nofun

/-- The options after one dash end the reading. -/
theorem readShort_ne_go (letters : Bytes) : readShort s st letters ≠ .go next := by
  unfold readShort
  dsimp only
  split
  · exact effectOf_ne_go _
  · exact effectOf_ne_go _
  · nofun
  · nofun

section Takes
variable {f : Flag} {settled : State} {value : Bytes}

private theorem takes_switch_iff (h : f.valueName = none) : Takes s f settled none next ↔
    settled.has f = false ∧ ⟨settled.taken ++ [(f, .set)], none⟩ = next := by
  constructor
  · intro htakes
    cases htakes with
    | switch _ hhas => exact ⟨hhas, rfl⟩
    | waits hvalue => simp [h] at hvalue
  · rintro ⟨hhas, rfl⟩
    exact .switch h hhas

private theorem takes_waits_iff (h : f.valueName.isSome) : Takes s f settled none next ↔
    ⟨settled.taken, some (f, none)⟩ = next := by
  constructor
  · intro htakes
    cases htakes with
    | switch hname _ => simp [hname] at h
    | waits _ => rfl
  · rintro rfl
    exact .waits h

private theorem takes_given_iff (h : f.valueName.isSome) :
    Takes s f settled (some value) next ↔ accept s settled.taken f value = .ok next := by
  constructor
  · intro htakes
    cases htakes with
    | given _ haccept => exact haccept
  · exact .given h

private theorem not_takes_surplus (h : f.valueName = none) :
    ¬ Takes s f settled (some value) next := by
  intro htakes
  cases htakes with
  | given hvalue _ => simp [h] at hvalue

end Takes

/-- An option that goes on is one of the scope, and comes after the one before it is settled. -/
theorem readLong_eq_go {name : String} {value : Option Bytes} {later : List Bytes} :
    readLong s st name value later = .go next ↔ ¬ (name = helpFlag ∨ name = versionFlag) ∧
      ∃ f settled, s.flag? name = some f ∧ settle s st = .ok settled ∧
        Takes s f settled value next := by
  unfold readLong
  split
  next hcommon =>
    refine iff_of_false ?_ fun h => h.1 hcommon
    split
    · exact surplus_ne_go _ _
    · exact effectOf_ne_go _
  next hcommon =>
    rw [and_iff_right hcommon]
    match hflag : s.flag? name with
    | none => exact iff_of_false nofun nofun
    | some f =>
      simp only [Option.some.injEq, exists_and_left, exists_eq_left']
      -- The cases are whether the option takes a value, and whether it has one.
      match hname : f.valueName, value with
      | none, some v =>
        simp only [not_takes_surplus hname, and_false, exists_false, iff_false]
        exact surplus_ne_go _ _
      | none, none =>
        simp only [ofExcept_eq_go, Json.bind_eq_ok, takes_switch_iff hname]
        refine exists_congr fun settled => and_congr_right fun _ => ?_
        cases settled.has f <;> simp
      | some shown, none =>
        have hvalue : f.valueName.isSome := by simp [hname]
        simp only [ofExcept_eq_go, takes_waits_iff hvalue]
        cases settle s st <;> simp [Except.map]
      | some shown, some v =>
        have hvalue : f.valueName.isSome := by simp [hname]
        simp only [ofExcept_eq_go, Json.bind_eq_ok, takes_given_iff hvalue]

end Options

section Words
variable {s : Scope} {st : State} {w : Bytes}

/-- A word that does not ask for help is the name of a command or has one of the forms. -/
theorem readScope_eq (hhelp : ¬ AsksForHelp s st w) (ws : List Bytes) :
    readScope s st false (w :: ws) = match named? s st w with
      | some c => .ok (st, some (c, ws))
      | none => match Word.of w with
        | .separator => readScope s st true ws
        | .long name value => match readLong s st name value ws with
          | .go next => readScope s next false ws
          | .stop reason => .error reason
        | .short letters => match readShort s st letters with
          | .go next => readScope s next false ws
          | .stop reason => .error reason
        | .plain => match st.open? with
          | some f => readScope s ⟨st.taken, some (f, some w)⟩ false ws
          | none => .error (.fault (misplaced s false w)) := by
  rw [readScope]
  exact (if_neg Bool.false_ne_true).trans (if_neg hhelp)

/-- A word of the options is read, and then the words after it. -/
theorem readScope_reads {next : State} {escaped : Bool} (hhelp : ¬ AsksForHelp s st w)
    (hname : named? s st w = none) (h : Reads s st w next escaped) (ws : List Bytes) :
    readScope s st false (w :: ws) = readScope s next escaped ws := by
  rw [readScope_eq hhelp, hname]
  cases h with
  | separator hword => simp only [hword]
  | option hword hcommon hflag hsettle htakes =>
    simp only [hword, readLong_eq_go.mpr ⟨hcommon, _, _, hflag, hsettle, htakes⟩]
  | value hword hopen => simp only [hword, hopen]

/-- What is read and names no command is one of the options. -/
private theorem reads_of_unnamed {ws : List Bytes} {last : State}
    {command : Option (Scope × List Bytes)} (hhelp : ¬ AsksForHelp s st w)
    (hname : named? s st w = none)
    (h : readScope s st false (w :: ws) = .ok (last, command)) : ∃ next escaped,
      Reads s st w next escaped ∧ readScope s next escaped ws = .ok (last, command) := by
  simp only [readScope_eq hhelp, hname] at h
  match hword : Word.of w with
  | .separator =>
    simp only [hword] at h
    exact ⟨st, true, .separator hword, h⟩
  | .long name value =>
    simp only [hword] at h
    match hgo : readLong s st name value ws with
    | .go next =>
      simp only [hgo] at h
      obtain ⟨hcommon, f, settled, hflag, hsettle, htakes⟩ := readLong_eq_go.mp hgo
      exact ⟨next, false, .option hword hcommon hflag hsettle htakes, h⟩
    | .stop reason =>
      simp only [hgo] at h
      cases h
  | .short letters =>
    simp only [hword] at h
    split at h
    next hgo => exact absurd hgo (readShort_ne_go letters)
    next => cases h
  | .plain =>
    simp only [hword] at h
    match hopen : st.open? with
    | some f =>
      simp only [hopen] at h
      exact ⟨_, false, .value hword hopen, h⟩
    | none =>
      simp only [hopen] at h
      cases h

/-- What is read is the name of a command, which ends the options before it, or one of them. -/
theorem readScope_cons {escaped : Bool} {ws : List Bytes} {last : State}
    {command : Option (Scope × List Bytes)}
    (h : readScope s st escaped (w :: ws) = .ok (last, command)) :
    escaped = false ∧ ¬ AsksForHelp s st w ∧
      ((∃ c, named? s st w = some c ∧ last = st ∧ command = some (c, ws)) ∨
      (named? s st w = none ∧ ∃ next escaped', Reads s st w next escaped' ∧
        readScope s next escaped' ws = .ok (last, command))) := by
  match escaped with
  | true =>
    rw [readScope] at h
    cases h
  | false =>
    have hhelp : ¬ AsksForHelp s st w := by
      intro hhelp
      rw [readScope] at h
      have herror := (if_neg Bool.false_ne_true).symm.trans h
      cases (if_pos hhelp).symm.trans herror
    refine ⟨rfl, hhelp, ?_⟩
    match hname : named? s st w with
    | some c =>
      rw [readScope_eq hhelp, hname] at h
      cases h
      exact .inl ⟨c, rfl, rfl, rfl⟩
    | none => exact .inr ⟨rfl, reads_of_unnamed hhelp hname h⟩

end Words

section Kept
variable {s : Scope} {st next last : State}

/-- An option that has been read stays. -/
theorem has_of_accept {taken : List (Flag × Value)} {f g : Flag} {value : Bytes}
    (h : accept s taken f value = .ok next) (hhas : taken.any (·.1 = g) = true) :
    next.has g = true := by
  obtain ⟨-, v, -, rfl⟩ := accept_eq_ok.mp h
  simp [State.has, List.any_append, hhas]

theorem has_of_settle {g : Flag} (h : settle s st = .ok next) (hhas : st.has g = true) :
    next.has g = true := by
  unfold settle at h
  split at h
  next =>
    cases h
    exact hhas
  next => cases h
  next => exact has_of_accept h hhas

theorem Takes.has {f g : Flag} {value : Option Bytes} (h : Takes s f st value next)
    (hhas : st.has g = true) : next.has g = true := by
  cases h with
  | switch => simp [State.has, List.any_append, show st.taken.any (·.1 = g) = true from hhas]
  | waits => exact hhas
  | given _ haccept => exact has_of_accept haccept hhas

theorem Reads.has {g : Flag} {w : Bytes} {escaped : Bool} (h : Reads s st w next escaped)
    (hhas : st.has g = true) : next.has g = true := by
  cases h with
  | separator => exact hhas
  | option _ _ _ hsettle htakes => exact htakes.has (has_of_settle hsettle hhas)
  | value => exact hhas

end Kept

/-- What the options before a command and those after it amount to. -/
def argumentsOf (outer : State) (c : Scope) (inner : State) : Arguments :=
  let given (f : Flag) : Option String := textOf? inner.taken f <|> textOf? outer.taken f
  ⟨given .apiBaseUrl, given .apiKey, commandOf inner.taken c⟩

/-- The options of a scope behind those read before, with the last one settled. -/
def HasOptions (s : Scope) (st : State) (escaped : Bool) (words : List Bytes) (inner : State) :
    Prop :=
  ∃ last command, readScope s st escaped words = .ok (last, command) ∧ settle s last = .ok inner

section Options
variable {s : Scope} {st next inner : State} {escaped : Bool} {w : Bytes} {ws : List Bytes}

theorem hasOptions_nil : HasOptions s st escaped [] inner ↔ settle s st = .ok inner := by
  constructor
  · rintro ⟨last, command, hread, hinner⟩
    cases hread
    exact hinner
  · exact fun h => ⟨st, none, rfl, h⟩

theorem HasOptions.unique {inner' : State} {words : List Bytes}
    (h : HasOptions s st escaped words inner) (h' : HasOptions s st escaped words inner') :
    inner = inner' := by
  obtain ⟨last, command, hread, hinner⟩ := h
  obtain ⟨last', command', hread', hinner'⟩ := h'
  cases hread.symm.trans hread'
  exact Except.ok.inj (hinner.symm.trans hinner')

section Inside
variable (hs : s ≠ .program)
include hs

theorem named?_of_ne_program (st : State) (w : Bytes) : named? s st w = none :=
  if_neg fun h => hs h.1

/-- Behind a command no word is the name of one. -/
theorem HasOptions.exists_reads (h : HasOptions s st escaped (w :: ws) inner) :
    escaped = false ∧ ∃ next escaped', Reads s st w next escaped' ∧
      HasOptions s next escaped' ws inner := by
  obtain ⟨last, command, hread, hinner⟩ := h
  obtain ⟨rfl, -, ⟨c, hname, -⟩ | ⟨-, next, escaped', hreads, hrest⟩⟩ := readScope_cons hread
  · cases (named?_of_ne_program hs st w).symm.trans hname
  · exact ⟨rfl, next, escaped', hreads, last, command, hrest, hinner⟩

theorem Reads.hasOptions_iff (h : Reads s st w next escaped) :
    HasOptions s st false (w :: ws) inner ↔ HasOptions s next escaped ws inner := by
  rw [HasOptions, readScope_reads (fun hhelp => hs hhelp.1) (named?_of_ne_program hs st w) h]
  rfl

theorem HasOptions.has {g : Flag} {words : List Bytes} (h : HasOptions s st escaped words inner)
    (hhas : st.has g = true) : inner.has g = true := by
  induction words generalizing st escaped with
  | nil => exact has_of_settle (hasOptions_nil.mp h) hhas
  | cons w words ih =>
    obtain ⟨-, next, escaped', hreads, hrest⟩ := h.exists_reads hs
    exact ih hrest (hreads.has hhas)

end Inside
end Options

section Lines
variable {words : List Bytes} {args : Arguments}

theorem finish_eq_ok {s : Scope} {st next : State} :
    finish s st = .ok next ↔ settle s st = .ok next := by
  unfold finish
  split
  next h => simp [h]
  next h => simp [h]

theorem parse_command {st : State} {c : Scope} {rest : List Bytes}
    (h : readScope .program .empty false words = .ok (st, some (c, rest))) :
    parse words = .ok args ↔ ∃ inner outer, HasOptions c .empty false rest inner ∧
      settle .program st = .ok outer ∧ argumentsOf outer c inner = args := by
  simp only [parse, h, Json.ok_bind, Json.bind_eq_ok, finish_eq_ok, Prod.exists, HasOptions]
  constructor
  · rintro ⟨last, command, hread, inner, hinner, outer, houter, hargs⟩
    exact ⟨inner, outer, ⟨last, command, hread, hinner⟩, houter, Except.ok.inj hargs⟩
  · rintro ⟨inner, outer, ⟨last, command, hread, hinner⟩, houter, rfl⟩
    exact ⟨last, command, hread, inner, hinner, outer, houter, rfl⟩

theorem readScope_of_parse (h : parse words = .ok args) :
    ∃ st command, readScope .program .empty false words = .ok (st, command) := by
  rw [parse, Json.bind_eq_ok] at h
  obtain ⟨⟨st, command⟩, hread, -⟩ := h
  exact ⟨st, command, hread⟩

end Lines
end ModelChat.CommandLine
