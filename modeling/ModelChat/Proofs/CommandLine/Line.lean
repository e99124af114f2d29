import ModelChat.Proofs.CommandLine.Given
import ModelChat.Proofs.CommandLine.Switch

/-! The form of command lines. Main statement: the command lines that are understood are those with
options of the program, and perhaps a command with options behind it, none twice in one place; and
they are understood as their options say. -/
namespace ModelChat.CommandLine
open Text

/-- The words of a scope are understood up to a command, if one ends them, and the last option
among them is settled. -/
def Completes (s : Scope) (st : State) (escaped : Bool) (words : List Bytes)
    (command : Option (Scope × List Bytes)) (done : State) : Prop :=
  ∃ last, readScope s st escaped words = .ok (last, command) ∧ settle s last = .ok done

/-- How the options of a scope end, and with which command. -/
inductive Ends (s : Scope) : List Bytes → Option (Scope × List Bytes) → Prop
  | nothing : Ends s [] none
  | separator : Ends s [Utf8.encode "--"] none
  | command {c : Scope} {rest : List Bytes} : s = .program → c ≠ .program →
    Ends s (Utf8.encode c.name :: rest) (some (c, rest))

/-- A state with one more option. -/
def State.add (st : State) (g : Given) : State :=
  ⟨st.taken ++ [g.taken], none⟩

section Steps
variable {s : Scope} {st settled done : State} {escaped : Bool} {w : Bytes}
  {words rest : List Bytes} {command : Option (Scope × List Bytes)}

theorem completes_nil :
    Completes s st escaped [] command done ↔ command = none ∧ settle s st = .ok done := by
  constructor
  · rintro ⟨last, hread, hdone⟩
    cases hread
    exact ⟨rfl, hdone⟩
  · rintro ⟨rfl, hdone⟩
    exact ⟨st, rfl, hdone⟩

theorem completes_escaped :
    Completes s st true words command done ↔
      words = [] ∧ command = none ∧ settle s st = .ok done := by
  match words with
  | [] => simp [completes_nil]
  | w :: words =>
    refine iff_of_false ?_ nofun
    rintro ⟨last, hread, -⟩
    exact Bool.noConfusion (readScope_cons hread).1

theorem completes_cons :
    Completes s st false (w :: words) command done ↔ ¬ AsksForHelp s st w ∧
      ((∃ c, named? s st w = some c ∧ command = some (c, words) ∧ settle s st = .ok done) ∨
      (named? s st w = none ∧ ∃ next escaped, Reads s st w next escaped ∧
        Completes s next escaped words command done)) := by
  constructor
  · rintro ⟨last, hread, hdone⟩
    obtain ⟨-, hhelp, ⟨c, hname, rfl, rfl⟩ | ⟨hname, next, escaped, hreads, hrest⟩⟩ :=
      readScope_cons hread
    · exact ⟨hhelp, .inl ⟨c, hname, rfl, hdone⟩⟩
    · exact ⟨hhelp, .inr ⟨hname, next, escaped, hreads, last, hrest, hdone⟩⟩
  · rintro ⟨hhelp, ⟨c, hname, rfl, hdone⟩ | ⟨hname, next, escaped, hreads, last, hrest, hdone⟩⟩
    · refine ⟨st, ?_, hdone⟩
      rw [readScope_eq hhelp, hname]
    · exact ⟨last, (readScope_reads hhelp hname hreads words).trans hrest, hdone⟩

/-- A word that is read where no option waits for its value. -/
theorem reads_iff {next : State} (hsettle : settle s st = .ok settled) :
    Reads s st w next escaped ↔
      (w = Utf8.encode "--" ∧ next = st ∧ escaped = true) ∨
      (escaped = false ∧ ∃ f ∈ s.flags, ∃ value, Word.of w = .long f.name value ∧
        Takes s f settled value next) := by
  constructor
  · intro h
    cases h with
    | separator hword => exact .inl ⟨word_separator.mp hword, rfl, rfl⟩
    | option hword _ hflag hsettle' htakes =>
      obtain rfl := Except.ok.inj (hsettle'.symm.trans hsettle)
      obtain ⟨hf, rfl⟩ := flag?_eq_some.mp hflag
      exact .inr ⟨rfl, _, hf, _, hword, htakes⟩
    | value _ hopen => cases (open?_of_settle hsettle).symm.trans hopen
  · rintro (⟨hw, rfl, rfl⟩ | ⟨rfl, f, hf, value, hword, htakes⟩)
    · exact .separator (word_separator.mpr hw)
    · exact .option hword f.not_common (flag?_eq_some.mpr ⟨hf, rfl⟩) hsettle htakes

theorem named?_eq_some {c : Scope} (hopen : st.open? = none) :
    named? s st w = some c ↔ s = .program ∧ c ≠ .program ∧ w = Utf8.encode c.name := by
  unfold named?
  by_cases hs : s = .program
  · rw [if_pos ⟨hs, by rw [hopen]; rfl⟩, and_iff_right hs, Option.bind_eq_some_iff]
    simp only [Utf8.decode?_eq_some, ofName?_eq_some]
    constructor
    · rintro ⟨name, rfl, hc, rfl⟩
      exact ⟨hc, rfl⟩
    · rintro ⟨hc, rfl⟩
      exact ⟨c.name, rfl, hc, rfl⟩
  · rw [if_neg fun h => hs h.1]
    exact iff_of_false nofun fun h => hs h.1

theorem asksForHelp_iff (hopen : st.open? = none) :
    AsksForHelp s st w ↔ s = .program ∧ w = Utf8.encode helpCommand := by
  simp [AsksForHelp, hopen, Utf8.decode?_eq_some]

/-- It makes no difference when an option with its value is settled. -/
theorem completes_settled (hsettle : settle s st = .ok settled) :
    Completes s st escaped words command done ↔
      Completes s settled escaped words command done := by
  have hopen := open?_of_settle hsettle
  have hwaiting := waiting_of_settle hsettle
  have hagain : settle s settled = .ok settled := settle_of_waiting hwaiting
  have hopen' := open?_of_settle hagain
  have hend (words : List Bytes) : Completes s st true words command done ↔
      Completes s settled true words command done := by
    simp only [completes_escaped, hsettle, hagain]
  match escaped, words with
  | true, words => exact hend words
  | false, [] => simp only [completes_nil, hsettle, hagain]
  | false, w :: words =>
    have hnamed : named? s settled w = named? s st w := by
      rw [named?, named?, hopen, hopen']
    simp only [completes_cons, asksForHelp_iff hopen, asksForHelp_iff hopen', hnamed, hsettle,
      hagain, reads_iff hsettle, reads_iff hagain, or_and_right, exists_or, and_assoc,
      exists_and_left, exists_eq_left, hend]

/-- An option that is understood can be settled. -/
theorem Completes.exists_settled (h : Completes s st escaped words command done)
    (hopen : st.open? = none) : ∃ settled, settle s st = .ok settled := by
  match escaped, words with
  | true, _ => exact ⟨done, (completes_escaped.mp h).2.2⟩
  | false, [] => exact ⟨done, (completes_nil.mp h).2⟩
  | false, w :: words =>
    obtain ⟨-, ⟨c, -, -, hdone⟩ | ⟨-, next, escaped, hreads, hrest⟩⟩ := completes_cons.mp h
    · exact ⟨done, hdone⟩
    · cases hreads with
      | separator => exact ⟨done, (completes_escaped.mp hrest).2.2⟩
      | option _ _ _ hsettle _ => exact ⟨_, hsettle⟩
      | value _ hvalue => cases hopen.symm.trans hvalue

/-- The value of an option is the word behind it. -/
theorem completes_waiting {taken : List (Flag × Value)} {f : Flag} :
    Completes s ⟨taken, some (f, none)⟩ false words command done ↔
      ∃ value rest, words = Utf8.encode value :: rest ∧ IsPlain value ∧ f.Suits value ∧
        taken.any (·.1 = f) = false ∧
        Completes s ⟨taken ++ [(f, f.valueOf value)], none⟩ false rest command done := by
  constructor
  · intro h
    match words with
    | [] => cases (completes_nil.mp h).2
    | w :: words =>
      obtain ⟨-, ⟨c, -, -, hdone⟩ | ⟨-, next, escaped, hreads, hrest⟩⟩ := completes_cons.mp h
      · cases hdone
      · cases hreads with
        | separator => cases (completes_escaped.mp hrest).2.2
        | option _ _ _ hsettle _ => cases hsettle
        | value hword hopen =>
          cases hopen
          obtain ⟨settled, hsettle⟩ := hrest.exists_settled rfl
          obtain ⟨hnew, v, hv, rfl⟩ := accept_eq_ok.mp hsettle
          obtain ⟨value, rfl, hsuits, rfl⟩ := readValue_eq_ok.mp hv
          exact ⟨value, words, rfl, isPlain_iff.mpr hword, hsuits, hnew,
            (completes_settled hsettle).mp hrest⟩
  · rintro ⟨value, rest, rfl, hplain, hsuits, hnew, hrest⟩
    have hv : readValue s f (Utf8.encode value) = .ok (f.valueOf value) :=
      readValue_eq_ok.mpr ⟨value, rfl, hsuits, rfl⟩
    have hsettle : settle s ⟨taken, some (f, some (Utf8.encode value))⟩ =
        .ok ⟨taken ++ [(f, f.valueOf value)], none⟩ :=
      accept_eq_ok.mpr ⟨hnew, f.valueOf value, hv, rfl⟩
    refine completes_cons.mpr ⟨?_, .inr ⟨?_, _, false,
      .value (isPlain_iff.mp hplain) rfl, (completes_settled hsettle).mpr hrest⟩⟩
    · rintro ⟨-, hnone, -⟩
      cases hnone
    · exact if_neg fun h => nomatch h.2

/-- A word with two dashes in front names no command, that for help included. -/
theorem not_named_of_word (hopen : st.open? = none) (hword : Word.of w ≠ .plain) :
    ¬ AsksForHelp s st w ∧ named? s st w = none := by
  constructor
  · rw [asksForHelp_iff hopen]
    rintro ⟨-, rfl⟩
    exact hword rfl
  · rw [Option.eq_none_iff_forall_ne_some]
    intro c hname
    obtain ⟨-, -, rfl⟩ := (named?_eq_some hopen).mp hname
    cases c <;> exact hword rfl

/-- An option is taken, and the words behind it are read. -/
theorem completes_option {f : Flag} {value : Option Bytes} {next : State} (hst : st.waiting = none)
    (hf : f ∈ s.flags) (hword : Word.of w = .long f.name value) (htakes : Takes s f st value next)
    (hrest : Completes s next false words command done) :
    Completes s st false (w :: words) command done := by
  have hsettle : settle s st = .ok st := settle_of_waiting hst
  have hoption : Word.of w ≠ .plain := by simp [hword]
  obtain ⟨hhelp, hname⟩ := not_named_of_word (s := s) (open?_of_settle hsettle) hoption
  exact completes_cons.mpr ⟨hhelp, .inr ⟨hname, next, false,
    (reads_iff hsettle).mpr (.inr ⟨rfl, f, hf, value, hword, htakes⟩), hrest⟩⟩

theorem Ends.completes (h : Ends s words command) (hst : st.waiting = none) :
    Completes s st false words command st := by
  have hsettle : settle s st = .ok st := settle_of_waiting hst
  have hopen := open?_of_settle hsettle
  cases h with
  | nothing => exact completes_nil.mpr ⟨rfl, hsettle⟩
  | separator =>
    have hword : Word.of (Utf8.encode "--") ≠ .plain := by simp [word_separator.mpr rfl]
    obtain ⟨hhelp, hname⟩ := not_named_of_word (s := s) hopen hword
    exact completes_cons.mpr ⟨hhelp, .inr ⟨hname, st, true,
      (reads_iff hsettle).mpr (.inl ⟨rfl, rfl, rfl⟩), completes_nil.mpr ⟨rfl, hsettle⟩⟩⟩
  | @command c rest hs hc =>
    have hhelp : ¬ AsksForHelp s st (Utf8.encode c.name) := by
      rw [asksForHelp_iff hopen]
      rintro ⟨-, hhelp⟩
      cases c <;> exact absurd (Utf8.encode_injective hhelp) (by decide)
    exact completes_cons.mpr ⟨hhelp, .inl ⟨c, (named?_eq_some hopen).mpr ⟨hs, hc, rfl⟩, rfl,
      hsettle⟩⟩

theorem Given.Fits.completes {g : Given} (h : g.Fits s) (hst : st.waiting = none)
    (hnew : st.has g.flag = false) (hrest : Completes s (st.add g) false rest command done) :
    Completes s st false (g.words ++ rest) command done := by
  cases h with
  | @joined f value hf hvalue hsuits =>
    have hv : readValue s f (Utf8.encode value) = .ok (f.valueOf value) :=
      readValue_eq_ok.mpr ⟨value, rfl, hsuits, rfl⟩
    exact completes_option hst hf (word_joined f value)
      (.given hvalue (accept_eq_ok.mpr ⟨hnew, _, hv, rfl⟩)) hrest
  | @apart f value hf hvalue hsuits hplain =>
    exact completes_option hst hf (word_alone f) (.waits hvalue)
      (completes_waiting.mpr ⟨value, rest, rfl, hplain, hsuits, hnew, hrest⟩)
  | @alone f hf hvalue =>
    exact completes_option hst hf (word_alone f) (.switch hvalue hnew) hrest

/-- What follows an option where it is read, with its value. -/
theorem Takes.exists_given {f : Flag} {value : Option Bytes} {next : State}
    (htakes : Takes s f st value next) (hf : f ∈ s.flags) (hword : Word.of w = .long f.name value)
    (hrest : Completes s next false words command done) :
    ∃ g rest, w :: words = g.words ++ rest ∧ g.Fits s ∧ st.has g.flag = false ∧
      Completes s (st.add g) false rest command done := by
  cases htakes with
  | switch hname hnew =>
    obtain rfl := eq_of_word_alone hword
    exact ⟨.alone f, words, rfl, .alone hf hname, hnew, hrest⟩
  | waits hvalue =>
    obtain ⟨value, rest, rfl, hplain, hsuits, hnew, hrest⟩ := completes_waiting.mp hrest
    obtain rfl := eq_of_word_alone hword
    exact ⟨.apart f value, rest, rfl, .apart hf hvalue hsuits hplain, hnew, hrest⟩
  | given hvalue haccept =>
    obtain ⟨hnew, v, hv, rfl⟩ := accept_eq_ok.mp haccept
    obtain ⟨value, rfl, hsuits, rfl⟩ := readValue_eq_ok.mp hv
    obtain rfl := eq_of_word_joined hword
    exact ⟨.joined f value, words, rfl, .joined hf hvalue hsuits, hnew, hrest⟩

/-- Where no option waits, the words end or go on with another option. -/
theorem completes_iff_given (hst : st.waiting = none) :
    Completes s st false words command done ↔ (Ends s words command ∧ done = st) ∨
      ∃ g rest, words = g.words ++ rest ∧ g.Fits s ∧ st.has g.flag = false ∧
        Completes s (st.add g) false rest command done := by
  have hsettle : settle s st = .ok st := settle_of_waiting hst
  have hlast (hdone : settle s st = .ok done) : done = st :=
    (Except.ok.inj (hsettle.symm.trans hdone)).symm
  constructor
  · intro h
    match words with
    | [] =>
      obtain ⟨rfl, hdone⟩ := completes_nil.mp h
      exact .inl ⟨.nothing, hlast hdone⟩
    | w :: words =>
      obtain ⟨-, ⟨c, hname, rfl, hdone⟩ | ⟨-, next, escaped, hreads, hrest⟩⟩ := completes_cons.mp h
      · obtain ⟨hs, hc, rfl⟩ := (named?_eq_some (open?_of_settle hsettle)).mp hname
        exact .inl ⟨.command hs hc, hlast hdone⟩
      obtain ⟨rfl, rfl, rfl⟩ | ⟨rfl, f, hf, value, hword, htakes⟩ := (reads_iff hsettle).mp hreads
      · obtain ⟨rfl, rfl, hdone⟩ := completes_escaped.mp hrest
        exact .inl ⟨.separator, hlast hdone⟩
      · exact .inr (htakes.exists_given hf hword hrest)
  · rintro (⟨hends, rfl⟩ | ⟨g, rest, rfl, hfits, hnew, hrest⟩)
    · exact hends.completes hst
    · exact hfits.completes hst hnew hrest

end Steps

/-! ### Scopes -/

/-- Options that a scope understands together: none of them may come twice. -/
structure AllFit (s : Scope) (gs : List Given) : Prop where
  fits : ∀ g ∈ gs, g.Fits s
  nodup : (gs.map Given.flag).Nodup

theorem has_add {st : State} {g : Given} {f : Flag} :
    (st.add g).has f = false ↔ st.has f = false ∧ g.flag ≠ f := by
  simp [State.has, State.add, Given.fst_taken]

section Scopes
variable {s : Scope} {st done : State} {words : List Bytes}
  {command : Option (Scope × List Bytes)}

theorem completes_of_given {gs : List Given} {tail : List Bytes} (hst : st.waiting = none)
    (hends : Ends s tail command) (hfit : AllFit s gs) (hnew : ∀ g ∈ gs, st.has g.flag = false) :
    Completes s st false (gs.flatMap Given.words ++ tail) command
      ⟨st.taken ++ gs.map Given.taken, none⟩ := by
  induction gs generalizing st with
  | nil =>
    obtain ⟨taken, waiting⟩ := st
    cases hst
    exact (completes_iff_given rfl).mpr (.inl ⟨by simpa using hends, by simp⟩)
  | cons g gs ih =>
    obtain ⟨hg, hgs⟩ := List.forall_mem_cons.mp hfit.fits
    obtain ⟨hother, hnodup⟩ := List.nodup_cons.mp hfit.nodup
    obtain ⟨hgnew, hgsnew⟩ := List.forall_mem_cons.mp hnew
    have hleft : ∀ x ∈ gs, (st.add g).has x.flag = false := fun x hx =>
      has_add.mpr ⟨hgsnew x hx, fun hflag => hother (hflag ▸ List.mem_map_of_mem hx)⟩
    have hrest := ih rfl ⟨hgs, hnodup⟩ hleft
    refine (completes_iff_given hst).mpr
      (.inr ⟨g, gs.flatMap Given.words ++ tail, ?_, hg, hgnew, ?_⟩)
    · rw [List.flatMap_cons, List.append_assoc]
    · simpa [State.add] using hrest

theorem Completes.exists_given (hst : st.waiting = none)
    (h : Completes s st false words command done) :
    ∃ gs tail, words = gs.flatMap Given.words ++ tail ∧ Ends s tail command ∧ AllFit s gs ∧
      (∀ g ∈ gs, st.has g.flag = false) ∧ done = ⟨st.taken ++ gs.map Given.taken, none⟩ := by
  induction hn : words.length using Nat.strongRecOn generalizing st words with
  | ind n ih =>
    obtain ⟨hends, rfl⟩ | ⟨g, rest, rfl, hg, hnew, hrest⟩ := (completes_iff_given hst).mp h
    · obtain ⟨taken, waiting⟩ := done
      cases hst
      exact ⟨[], words, rfl, hends, ⟨nofun, .nil⟩, nofun, by simp⟩
    · have hshorter : rest.length < n := by
        have hpos := List.length_pos_of_ne_nil g.words_ne_nil
        rw [← hn, List.length_append]
        omega
      obtain ⟨gs, tail, rfl, hends, hfit, hgs, rfl⟩ := ih _ hshorter rfl hrest rfl
      refine ⟨g :: gs, tail, by simp, hends, ⟨?_, ?_⟩, ?_, by simp [State.add]⟩
      · exact List.forall_mem_cons.mpr ⟨hg, hfit.fits⟩
      · refine List.nodup_cons.mpr ⟨fun hmem => ?_, hfit.nodup⟩
        obtain ⟨x, hx, hflag⟩ := List.mem_map.mp hmem
        exact (has_add.mp (hgs x hx)).2 hflag.symm
      · exact List.forall_mem_cons.mpr ⟨hnew, fun x hx => (has_add.mp (hgs x hx)).1⟩

theorem completes_iff :
    Completes s .empty false words command done ↔ ∃ gs tail,
      words = gs.flatMap Given.words ++ tail ∧ Ends s tail command ∧ AllFit s gs ∧
      done = ⟨gs.map Given.taken, none⟩ := by
  constructor
  · intro h
    obtain ⟨gs, tail, hwords, hends, hfit, -, hdone⟩ := h.exists_given rfl
    exact ⟨gs, tail, hwords, hends, hfit, hdone⟩
  · rintro ⟨gs, tail, rfl, hends, hfit, rfl⟩
    exact completes_of_given rfl hends hfit fun _ _ => rfl

end Scopes

/-! ### Whole command lines -/

/-- Options of the program, a command with its options if there is one, and perhaps two dashes at
the end. -/
structure Line where
  outer : List Given
  command : Option (Scope × List Given)
  closed : Bool
  deriving DecidableEq, Repr

/-- The text that an option of the given name has, if it is given. -/
def textGiven? (gs : List Given) (f : Flag) : Option String :=
  gs.findSome? fun g => if g.flag = f then g.value? else none

/-- The command that the options behind its name ask for. -/
def commandGiven (gs : List Given) : Scope → Option Command
  | .program => none
  | .chat =>
    some (.chat ((textGiven? gs .model).getD Conversation.defaultModel)
      ((textGiven? gs .maxTurns).bind Settings.limitOf))
  | .describe =>
    some (.describe ((textGiven? gs .model).getD Description.defaultModel)
      ((textGiven? gs .imageUrl).getD Description.defaultImageUrl)
      ((textGiven? gs .prompt).getD Description.defaultPrompt)
      (gs.any (·.flag = .logHttp)))

namespace Line

/-- The end of a command line; two dashes may stand there for nothing. -/
def ending (closed : Bool) : List Bytes :=
  if closed then [Utf8.encode "--"] else []

def words (l : Line) : List Bytes :=
  l.outer.flatMap Given.words ++ match l.command with
    | some (c, inner) => Utf8.encode c.name :: (inner.flatMap Given.words ++ ending l.closed)
    | none => ending l.closed

/-- The options behind the command. -/
def inner (l : Line) : List Given :=
  l.command.elim [] (·.2)

/-- An option of the program may stand on either side, and counts behind the command. -/
def text? (l : Line) (f : Flag) : Option String :=
  (textGiven? l.inner f).or (textGiven? l.outer f)

def arguments (l : Line) : Arguments :=
  ⟨l.text? .apiBaseUrl, l.text? .apiKey, l.command.bind fun (c, inner) => commandGiven inner c⟩

/-- The options are understood where they stand. -/
structure Fits (l : Line) : Prop where
  outer : AllFit .program l.outer
  command : ∀ c inner, l.command = some (c, inner) → c ≠ .program ∧ AllFit c inner

end Line

section Values
variable {s : Scope} {gs : List Given}

/-- What the first option has counts, if it is the one that is asked for. -/
theorem textGiven?_cons (g : Given) (gs : List Given) (f : Flag) :
    textGiven? (g :: gs) f = (if g.flag = f then g.value? else none).or (textGiven? gs f) := by
  rw [textGiven?, List.findSome?_cons]
  split <;> simp_all [textGiven?]

theorem textOf?_cons {f : Flag} (hf : f ≠ .maxTurns) (g : Given) (taken : List (Flag × Value)) :
    textOf? (g.taken :: taken) f =
      (if g.flag = f then g.value? else none).or (textOf? taken f) := by
  have hvalue (f' : Flag) (value : String) : textOf? ((f', f'.valueOf value) :: taken) f =
      (if f' = f then some value else none).or (textOf? taken f) := by
    by_cases hsame : f' = f
    · subst hsame
      simp [textOf?, valueOf_text hf]
    · cases f'.valueOf value <;> simp [textOf?, hsame]
  cases g with
  | joined f' value => exact hvalue f' value
  | apart f' value => exact hvalue f' value
  | alone f' => simp [textOf?, Given.taken, Given.value?]

theorem textOf?_taken {f : Flag} (hf : f ≠ .maxTurns) :
    textOf? (gs.map Given.taken) f = textGiven? gs f := by
  induction gs with
  | nil => rfl
  | cons g gs ih => rw [List.map_cons, textOf?_cons hf, ih, textGiven?_cons]

/-- An option for the limit is read as one, and no other option is. -/
theorem limit_of_fits {g : Given} (h : g.Fits s) :
    (g.flag = .maxTurns ∧ ∃ value limit, g.value? = some value ∧
      Settings.limitOf value = some limit ∧ g.taken = (.maxTurns, .count limit)) ∨
    (g.flag ≠ .maxTurns ∧ ∀ limit, g.taken.2 ≠ .count limit) := by
  have hvalue {f : Flag} {value : String} (hsuits : f.Suits value) :
      (f = .maxTurns ∧ ∃ value' limit, some value = some value' ∧
        Settings.limitOf value' = some limit ∧ (f, f.valueOf value) = (.maxTurns, .count limit)) ∨
      (f ≠ .maxTurns ∧ ∀ limit, f.valueOf value ≠ .count limit) := by
    by_cases hf : f = .maxTurns
    · obtain ⟨limit, hlimit⟩ := hsuits hf
      have hread := Settings.limitOf_eq_some.mpr hlimit
      exact .inl ⟨hf, value, limit, rfl, hread, by simp [hf, Flag.valueOf, hread]⟩
    · exact .inr ⟨hf, by simp [valueOf_text hf]⟩
  cases h with
  | joined _ _ hsuits => exact hvalue hsuits
  | apart _ _ hsuits _ => exact hvalue hsuits
  | alone _ hname =>
    refine .inr ⟨fun hflag => ?_, fun limit htaken => ?_⟩
    · cases hflag
      cases hname
    · cases htaken

theorem limitOf?_taken (hfits : ∀ g ∈ gs, g.Fits s) :
    limitOf? (gs.map Given.taken) = (textGiven? gs .maxTurns).bind Settings.limitOf := by
  induction gs with
  | nil => rfl
  | cons g gs ih =>
    obtain ⟨hg, hgs⟩ := List.forall_mem_cons.mp hfits
    obtain ⟨hflag, value, limit, hvalue, hread, htaken⟩ | ⟨hflag, htaken⟩ := limit_of_fits hg
    · simp [limitOf?, textGiven?, htaken, hflag, hvalue, hread]
    · have hskip : limitOf? (g.taken :: gs.map Given.taken) = limitOf? (gs.map Given.taken) := by
        generalize g.taken = taken at htaken
        obtain ⟨f, v⟩ := taken
        cases v with
        | count limit => exact absurd rfl (htaken limit)
        | text value => rfl
        | set => rfl
      rw [List.map_cons, hskip, ih hgs, textGiven?, textGiven?, List.findSome?_cons, if_neg hflag]

theorem commandOf_taken {c : Scope} (hfits : ∀ g ∈ gs, g.Fits s) :
    commandOf (gs.map Given.taken) c = commandGiven gs c := by
  have hlog : (gs.map Given.taken).any (·.1 = .logHttp) = gs.any (·.flag = .logHttp) := by
    simp [List.any_map, Function.comp_def, Given.fst_taken]
  cases c with
  | program => rfl
  | chat =>
    simp only [commandOf, commandGiven, textOf?_taken (f := .model) (by decide),
      limitOf?_taken hfits]
  | describe =>
    simp only [commandOf, commandGiven, textOf?_taken (f := .model) (by decide),
      textOf?_taken (f := .imageUrl) (by decide), textOf?_taken (f := .prompt) (by decide), hlog]

end Values

theorem ends_none {s : Scope} {tail : List Bytes} :
    Ends s tail none ↔ ∃ closed, tail = Line.ending closed := by
  constructor
  · intro h
    cases h with
    | nothing => exact ⟨false, rfl⟩
    | separator => exact ⟨true, rfl⟩
  · rintro ⟨closed, rfl⟩
    cases closed with
    | false => exact .nothing
    | true => exact .separator

theorem ends_some {s c : Scope} {tail rest : List Bytes} :
    Ends s tail (some (c, rest)) ↔
      s = .program ∧ c ≠ .program ∧ tail = Utf8.encode c.name :: rest := by
  constructor
  · intro h
    cases h with
    | command hs hc => exact ⟨hs, hc, rfl⟩
  · rintro ⟨hs, hc, rfl⟩
    exact .command hs hc

theorem parse_eq_ok_iff_completes {words : List Bytes} {args : Arguments} :
    parse words = .ok args ↔
      (∃ outer, Completes .program .empty false words none outer ∧
        args = ⟨textOf? outer.taken .apiBaseUrl, textOf? outer.taken .apiKey, none⟩) ∨
      ∃ c rest outer command inner, Completes .program .empty false words (some (c, rest)) outer ∧
        Completes c .empty false rest command inner ∧ args = argumentsOf outer c inner := by
  constructor
  · intro h
    obtain ⟨st, command, hread⟩ := readScope_of_parse h
    match command with
    | none =>
      simp only [parse, hread, Json.ok_bind, Json.bind_eq_ok, finish_eq_ok] at h
      obtain ⟨outer, houter, hargs⟩ := h
      exact .inl ⟨outer, ⟨st, hread, houter⟩, (Except.ok.inj hargs).symm⟩
    | some (c, rest) =>
      obtain ⟨inner, outer, ⟨last, command, hlast, hinner⟩, houter, rfl⟩ :=
        (parse_command hread).mp h
      exact .inr ⟨c, rest, outer, command, inner, ⟨st, hread, houter⟩, ⟨last, hlast, hinner⟩, rfl⟩
  · rintro (⟨outer, ⟨st, hread, houter⟩, rfl⟩ |
      ⟨c, rest, outer, command, inner, ⟨st, hread, houter⟩, ⟨last, hlast, hinner⟩, rfl⟩)
    · simp only [parse, hread, Json.ok_bind, Json.bind_eq_ok, finish_eq_ok]
      exact ⟨outer, houter, rfl⟩
    · exact (parse_command hread).mpr ⟨inner, outer, ⟨last, command, hlast, hinner⟩, houter, rfl⟩

/-- What a command line asks for, given what is known of its options once they have been read. -/
theorem argumentsOf_taken {c : Scope} {outer inner : List Given} (closed : Bool)
    (hfits : ∀ g ∈ inner, g.Fits c) :
    argumentsOf ⟨outer.map Given.taken, none⟩ c ⟨inner.map Given.taken, none⟩ =
      Line.arguments ⟨outer, some (c, inner), closed⟩ := by
  simp [argumentsOf, Line.arguments, Line.text?, Line.inner,
    textOf?_taken (f := .apiBaseUrl) (by decide), textOf?_taken (f := .apiKey) (by decide),
    commandOf_taken hfits]

/-- The command lines that are understood, and as what. -/
theorem parse_eq_ok {words : List Bytes} {args : Arguments} :
    parse words = .ok args ↔ ∃ l : Line, l.Fits ∧ l.words = words ∧ l.arguments = args := by
  have halone (gs : List Given) (closed : Bool) : Line.arguments ⟨gs, none, closed⟩ =
      ⟨textOf? (gs.map Given.taken) .apiBaseUrl, textOf? (gs.map Given.taken) .apiKey, none⟩ := by
    rw [textOf?_taken (f := .apiBaseUrl) (by decide), textOf?_taken (f := .apiKey) (by decide)]
    rfl
  rw [parse_eq_ok_iff_completes]
  simp only [completes_iff]
  constructor
  · rintro (⟨outer, ⟨gs, tail, rfl, hends, hfit, rfl⟩, rfl⟩ |
      ⟨c, rest, outer, command, inner, ⟨gs, tail, rfl, hends, hfit, rfl⟩,
        ⟨gs', tail', rfl, hends', hfit', rfl⟩, rfl⟩)
    · obtain ⟨closed, rfl⟩ := ends_none.mp hends
      exact ⟨⟨gs, none, closed⟩, ⟨hfit, nofun⟩, rfl, halone gs closed⟩
    · obtain ⟨-, hc, rfl⟩ := ends_some.mp hends
      -- No command stands behind another.
      obtain rfl : command = none := by
        match command with
        | none => rfl
        | some _ => exact absurd (ends_some.mp hends').1 hc
      obtain ⟨closed, rfl⟩ := ends_none.mp hends'
      refine ⟨⟨gs, some (c, gs'), closed⟩, ⟨hfit, ?_⟩, rfl, ?_⟩
      · rintro c inner ⟨⟩
        exact ⟨hc, hfit'⟩
      · exact (argumentsOf_taken closed hfit'.fits).symm
  · rintro ⟨⟨gs, command, closed⟩, ⟨houter, hcommand⟩, rfl, rfl⟩
    match command with
    | none =>
      exact .inl ⟨_, ⟨gs, _, rfl, ends_none.mpr ⟨closed, rfl⟩, houter, rfl⟩, halone gs closed⟩
    | some (c, inner) =>
      obtain ⟨hc, hinner⟩ := hcommand c inner rfl
      exact .inr ⟨c, _, _, none, _, ⟨gs, _, rfl, ends_some.mpr ⟨rfl, hc, rfl⟩, houter, rfl⟩,
        ⟨inner, _, rfl, ends_none.mpr ⟨closed, rfl⟩, hinner, rfl⟩,
        (argumentsOf_taken closed hinner.fits).symm⟩

end ModelChat.CommandLine
