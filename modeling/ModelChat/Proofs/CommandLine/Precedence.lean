import Mathlib.Data.List.Nodup
import ModelChat.Proofs.CommandLine.Line

/-! Where settings come from. Main statement: what a flag gives counts more than what a variable
holds, and this more than the default, each setting for itself; and an option of the program counts
the same on either side of a command, the one behind it more. -/
namespace ModelChat
open Text

namespace Settings

/-- The variable is set to this text. -/
def Holds (env : Environment) (name s : String) : Prop :=
  env name = some (Utf8.encode s)

/-- What is given counts most, then what is held, then the default. -/
inductive Ranked {α : Type} (given : Option α) (held : α → Prop) (default : α) : α → Prop
  | given {a : α} : given = some a → Ranked given held default a
  | held {a : α} : given = none → held a → Ranked given held default a
  | default : given = none → (∀ a, ¬ held a) → Ranked given held default default

/-- What is noted of a variable for a number: one that cannot be read, and nothing else. -/
inductive Noted (env : Environment) (name : String) (reads : String → Prop) : List Event → Prop
  | ignored {s : String} : Holds env name s → ¬ reads s → Noted env name reads [.ignored s name]
  | nothing : (∀ s, Holds env name s → reads s) → Noted env name reads []

theorem lookup_eq_some {env : Environment} {name s : String} :
    lookup env name = some s ↔ Holds env name s := by
  simp only [lookup, Option.bind_eq_some_iff, Utf8.decode?_eq_some, Holds, exists_eq_right]

theorem ranked_getD {α : Type} (given : Option α) {found : Option α} {held : α → Prop}
    {default : α} (hheld : ∀ a, found = some a ↔ held a) :
    Ranked given held default ((given.or found).getD default) := by
  match given, found with
  | some a, _ => exact .given rfl
  | none, some a => exact .held rfl ((hheld a).mp rfl)
  | none, none => exact .default rfl fun a ha => nomatch (hheld a).mpr ha

section Variables
variable {α : Type} {read : String → Option α} {writes : String → α → Prop}
  (hread : ∀ s a, read s = some a ↔ writes s a) (env : Environment) (name : String)
include hread

theorem bind_lookup_eq_some (a : α) :
    (lookup env name).bind read = some a ↔ ∃ s, Holds env name s ∧ writes s a := by
  simp only [Option.bind_eq_some_iff, lookup_eq_some, hread]

theorem noted_readVariable :
    Noted env name (fun s => ∃ a, writes s a) (readVariable read env name).2 := by
  unfold readVariable
  split
  next hunset =>
    refine .nothing fun s hs => ?_
    cases hunset.symm.trans (lookup_eq_some.mpr hs)
  next s hset =>
    split
    next a hvalue =>
      refine .nothing fun s' hs' => ?_
      cases hset.symm.trans (lookup_eq_some.mpr hs')
      exact ⟨a, (hread s a).mp hvalue⟩
    next hnone =>
      refine .ignored (lookup_eq_some.mp hset) ?_
      rintro ⟨a, ha⟩
      cases hnone.symm.trans ((hread s a).mpr ha)

end Variables
end Settings

namespace CommandLine

/-- The limit that a chat is given. -/
def Line.limit? (l : Line) : Option Limit :=
  match l.command with
  | some (.chat, inner) => (textGiven? inner .maxTurns).bind Settings.limitOf
  | _ => none

/-- The settings that follow from a command line and the environment, and what is noted: a time
that cannot be read comes first, then a limit, whatever the flags are. -/
structure Line.Governs (l : Line) (env : Environment) (settings : Settings) (noted : List Event) :
    Prop where
  apiBaseUrl : Settings.Ranked (l.text? .apiBaseUrl) (Settings.Holds env "LMCHAT_API_BASE_URL")
    Settings.defaultApiBaseUrl settings.apiBaseUrl
  apiKey : Settings.Ranked (l.text? .apiKey) (Settings.Holds env "LMCHAT_API_KEY")
    Settings.defaultApiKey settings.apiKey
  timeoutSecs : Settings.Ranked none
    (fun n => ∃ s, Settings.Holds env "LMCHAT_TIMEOUT_SECS" s ∧ WritesWord s n)
    Settings.defaultTimeoutSecs settings.timeoutSecs
  maxTurns : Settings.Ranked (l.limit?.map some)
    (fun found => ∃ limit, found = some limit ∧
      ∃ s, Settings.Holds env "LMCHAT_MAX_TURNS" s ∧ WritesLimit s limit)
    none settings.maxTurns
  noted : ∃ time limit, noted = time ++ limit ∧
    Settings.Noted env "LMCHAT_TIMEOUT_SECS" (fun s => ∃ n, WritesWord s n) time ∧
    Settings.Noted env "LMCHAT_MAX_TURNS" (fun s => ∃ limit, WritesLimit s limit) limit

theorem Line.maxTurns_chosen {l : Line} (hl : l.Fits) : l.arguments.chosen.maxTurns = l.limit? := by
  obtain ⟨outer, command, closed⟩ := l
  match command with
  | none => rfl
  | some (.program, inner) => exact absurd rfl (hl.command _ _ rfl).1
  | some (.chat, inner) => rfl
  | some (.describe, inner) => rfl

theorem Line.governs {l : Line} (hl : l.Fits) (env : Environment) :
    l.Governs env (l.arguments.resolve (Settings.ofEnvironment env).1).1
      (Settings.ofEnvironment env).2 := by
  obtain ⟨hurl, hkey, htime, hlimit⟩ := l.arguments.resolved env
  rw [Line.maxTurns_chosen hl] at hlimit
  have hword (s : String) (n : Nat) : Settings.wordOf s = some n ↔ WritesWord s n :=
    Settings.wordOf_eq_some
  have hmax (s : String) (limit : Limit) : Settings.limitOf s = some limit ↔ WritesLimit s limit :=
    Settings.limitOf_eq_some
  refine ⟨?_, ?_, ?_, ?_, _, _, rfl, Settings.noted_readVariable hword env _,
    Settings.noted_readVariable hmax env _⟩
  · rw [hurl]
    exact Settings.ranked_getD _ fun _ => Settings.lookup_eq_some
  · rw [hkey]
    exact Settings.ranked_getD _ fun _ => Settings.lookup_eq_some
  · rw [htime]
    exact Settings.ranked_getD none (Settings.bind_lookup_eq_some hword env _)
  · have hnested (given found : Option Limit) :
        given.or found = ((given.map some).or (found.map some)).getD none := by
      cases given <;> cases found <;> rfl
    rw [hlimit, hnested]
    refine Settings.ranked_getD _ fun found => ?_
    simp only [Option.map_eq_some_iff, Settings.bind_lookup_eq_some hmax]
    exact exists_congr fun limit => and_comm.trans (and_congr eq_comm Iff.rfl)

/-! ### Options on either side of a command -/

section Options
variable {front back : List Given} {g : Given} {f : Flag}

theorem textGiven?_append (gs gs' : List Given) (f : Flag) :
    textGiven? (gs ++ gs') f = (textGiven? gs f).or (textGiven? gs' f) :=
  List.findSome?_append

theorem textGiven?_eq_none {gs : List Given} (h : ∀ x ∈ gs, x.flag ≠ f) :
    textGiven? gs f = none :=
  List.findSome?_eq_none_iff.mpr fun x hx => if_neg (h x hx)

theorem textGiven?_other (h : g.flag ≠ f) :
    textGiven? (front ++ g :: back) f = textGiven? (front ++ back) f := by
  rw [textGiven?_append, textGiven?_cons, if_neg h, Option.none_or, textGiven?_append]

theorem textGiven?_same (h : ∀ x ∈ front ++ back, x.flag ≠ g.flag) :
    textGiven? (front ++ g :: back) g.flag = g.value? := by
  obtain ⟨hfront, hback⟩ := List.forall_mem_append.mp h
  rw [textGiven?_append, textGiven?_cons, if_pos rfl, textGiven?_eq_none hfront,
    textGiven?_eq_none hback, Option.none_or, Option.or_none]

/-- An option fits in among others if it is none of them. -/
theorem allFit_insert {s : Scope} : AllFit s (front ++ g :: back) ↔
    AllFit s (front ++ back) ∧ g.Fits s ∧ ∀ x ∈ front ++ back, x.flag ≠ g.flag := by
  have hnodup : ((front ++ g :: back).map Given.flag).Nodup ↔
      (∀ x ∈ front ++ back, x.flag ≠ g.flag) ∧ ((front ++ back).map Given.flag).Nodup := by
    rw [List.map_append, List.map_cons, List.nodup_middle, List.nodup_cons, ← List.map_append]
    simp only [List.mem_map, not_exists, not_and]
  have hfits : (∀ x ∈ front ++ g :: back, x.Fits s) ↔ g.Fits s ∧ ∀ x ∈ front ++ back, x.Fits s := by
    simp only [List.forall_mem_append, List.forall_mem_cons]
    exact and_left_comm
  constructor
  · rintro ⟨hall, hdistinct⟩
    obtain ⟨hg, hall⟩ := hfits.mp hall
    obtain ⟨hnew, hdistinct⟩ := hnodup.mp hdistinct
    exact ⟨⟨hall, hdistinct⟩, hg, hnew⟩
  · rintro ⟨⟨hall, hdistinct⟩, hg, hnew⟩
    exact ⟨hfits.mpr ⟨hg, hall⟩, hnodup.mpr ⟨hnew, hdistinct⟩⟩

/-- The options of the program make no difference to a command. -/
theorem commandGiven_insert {c : Scope} (hg : g.flag ∈ Scope.program.flags) :
    commandGiven (front ++ g :: back) c = commandGiven (front ++ back) c := by
  have hother {f : Flag} (hf : f ∉ Scope.program.flags) :
      textGiven? (front ++ g :: back) f = textGiven? (front ++ back) f :=
    textGiven?_other fun h => hf (h ▸ hg)
  have hlog : (front ++ g :: back).any (·.flag = .logHttp) =
      (front ++ back).any (·.flag = .logHttp) := by
    have hne : g.flag ≠ .logHttp := fun h => absurd (h ▸ hg) (by decide)
    simp [hne]
  cases c with
  | program => rfl
  | chat =>
    simp only [commandGiven, hother (f := .model) (by decide), hother (f := .maxTurns) (by decide)]
  | describe =>
    simp only [commandGiven, hother (f := .model) (by decide), hother (f := .imageUrl) (by decide),
      hother (f := .prompt) (by decide), hlog]

end Options

section Sides
variable {before after front back inner : List Given} {g g' : Given} {c : Scope} {closed : Bool}

theorem program_flags_subset (c : Scope) : Scope.program.flags ⊆ c.flags := by
  cases c <;> decide

theorem Given.Fits.exists_value (h : g.Fits c) (hflag : g.flag ∈ Scope.program.flags) :
    ∃ value, g.value? = some value := by
  cases h with
  | joined => exact ⟨_, rfl⟩
  | apart => exact ⟨_, rfl⟩
  | @alone f _ hname =>
    have hvalue : ∀ f ∈ Scope.program.flags, f.valueName ≠ none := by decide
    exact absurd hname (hvalue f hflag)

/-- An option of the program may be moved behind a command that has it not. -/
theorem Line.Fits.moved
    (h : Line.Fits ⟨before ++ g :: after, some (c, front ++ back), closed⟩)
    (hnew : ∀ x ∈ front ++ back, x.flag ≠ g.flag) :
    Line.Fits ⟨before ++ after, some (c, front ++ g :: back), closed⟩ ∧
    Line.arguments ⟨before ++ after, some (c, front ++ g :: back), closed⟩ =
      Line.arguments ⟨before ++ g :: after, some (c, front ++ back), closed⟩ := by
  obtain ⟨houter, hg, hold⟩ := allFit_insert.mp h.outer
  obtain ⟨hc, hinner⟩ := h.command _ _ rfl
  have htext (f : Flag) :
      Line.text? ⟨before ++ after, some (c, front ++ g :: back), closed⟩ f =
        Line.text? ⟨before ++ g :: after, some (c, front ++ back), closed⟩ f := by
    simp only [Line.text?, Line.inner, Option.elim_some]
    by_cases hf : g.flag = f
    · subst hf
      rw [textGiven?_same hnew, textGiven?_eq_none hold, textGiven?_eq_none hnew,
        textGiven?_same hold, Option.or_none, Option.none_or]
    · rw [textGiven?_other hf, textGiven?_other hf]
  refine ⟨⟨houter, ?_⟩, ?_⟩
  · rintro c inner ⟨⟩
    exact ⟨hc, allFit_insert.mpr ⟨hinner, hg.mono (program_flags_subset c), hnew⟩⟩
  · simp only [Line.arguments, htext, Option.bind_some, commandGiven_insert hg.mem_flags]

/-- An option of the program counts for nothing if the same is behind the command. -/
theorem Line.Fits.overridden
    (h : Line.Fits ⟨before ++ g :: after, some (c, inner), closed⟩) (hmem : g' ∈ inner)
    (hsame : g'.flag = g.flag) :
    Line.Fits ⟨before ++ after, some (c, inner), closed⟩ ∧
    Line.arguments ⟨before ++ after, some (c, inner), closed⟩ =
      Line.arguments ⟨before ++ g :: after, some (c, inner), closed⟩ ∧
    ∃ value, g'.value? = some value ∧
      Line.text? ⟨before ++ g :: after, some (c, inner), closed⟩ g.flag = some value := by
  obtain ⟨houter, hg, hold⟩ := allFit_insert.mp h.outer
  obtain ⟨hc, hinner⟩ := h.command _ _ rfl
  obtain ⟨value, hvalue⟩ := (hinner.fits g' hmem).exists_value (hsame ▸ hg.mem_flags)
  have hgiven : textGiven? inner g.flag = some value := by
    obtain ⟨front, back, rfl⟩ := List.append_of_mem hmem
    rw [← hsame, textGiven?_same (allFit_insert.mp hinner).2.2, hvalue]
  have htext (f : Flag) : Line.text? ⟨before ++ after, some (c, inner), closed⟩ f =
      Line.text? ⟨before ++ g :: after, some (c, inner), closed⟩ f := by
    simp only [Line.text?, Line.inner, Option.elim_some]
    by_cases hf : g.flag = f
    · rw [← hf, hgiven, Option.some_or, Option.some_or]
    · rw [textGiven?_other hf]
  refine ⟨⟨houter, h.command⟩, ?_, value, hvalue, ?_⟩
  · simp only [Line.arguments, htext]
  · simp only [Line.text?, Line.inner, Option.elim_some, hgiven, Option.some_or]

/-- A command line without a command asks for a chat. -/
theorem Line.Fits.chatting {outer : List Given} (h : Line.Fits ⟨outer, none, closed⟩) :
    Line.Fits ⟨outer, some (.chat, []), closed⟩ ∧
    ∀ base, (Line.arguments ⟨outer, some (.chat, []), closed⟩).resolve base =
      (Line.arguments ⟨outer, none, closed⟩).resolve base := by
  refine ⟨⟨h.outer, ?_⟩, fun base => rfl⟩
  rintro c inner ⟨⟩
  exact ⟨nofun, nofun, .nil⟩

end Sides

/-- A command line that is understood has the form of one, and what follows holds in whatever way
it is read as one. Each setting is what a flag gives, or else what its variable holds, or else the
default; numbers that cannot be read are noted, and nothing else is. An option of the program that
is only in front of the command may stand among those behind it; of one on both sides the one in
front makes no difference. Without a command the same is asked for as with that for a chat. -/
theorem flags_beat_environment {words : List Bytes} {args : Arguments}
    (h : parse words = .ok args) :
    (∃ l : Line, l.Fits ∧ l.words = words) ∧
    ∀ l : Line, l.Fits → l.words = words →
      (∀ env, l.Governs env (args.resolve (Settings.ofEnvironment env).1).1
        (Settings.ofEnvironment env).2) ∧
      (∀ before g after c front back, l.outer = before ++ g :: after →
        l.command = some (c, front ++ back) → (∀ x ∈ front ++ back, x.flag ≠ g.flag) →
        parse (Line.words ⟨before ++ after, some (c, front ++ g :: back), l.closed⟩) = .ok args) ∧
      (∀ before g after c inner, l.outer = before ++ g :: after → l.command = some (c, inner) →
        ∀ g' ∈ inner, g'.flag = g.flag →
        (∃ value, g'.value? = some value ∧ l.text? g.flag = some value) ∧
        parse (Line.words ⟨before ++ after, some (c, inner), l.closed⟩) = .ok args) ∧
      (l.command = none → ∃ args',
        parse (Line.words ⟨l.outer, some (.chat, []), l.closed⟩) = .ok args' ∧
        ∀ base, args'.resolve base = args.resolve base) := by
  constructor
  · obtain ⟨l, hl, hwords, -⟩ := parse_eq_ok.mp h
    exact ⟨l, hl, hwords⟩
  · rintro ⟨outer, command, closed⟩ hl rfl
    have hargs := parse_eq_ok.mpr ⟨_, hl, rfl, rfl⟩
    obtain rfl := Except.ok.inj (h.symm.trans hargs)
    refine ⟨fun env => Line.governs hl env, ?_, ?_, ?_⟩
    · rintro before g after c front back rfl rfl hnew
      obtain ⟨hfits, hsame⟩ := hl.moved hnew
      exact parse_eq_ok.mpr ⟨_, hfits, rfl, hsame⟩
    · rintro before g after c inner rfl rfl g' hmem hflag
      obtain ⟨hfits, hsame, hvalue⟩ := hl.overridden hmem hflag
      exact ⟨hvalue, parse_eq_ok.mpr ⟨_, hfits, rfl, hsame⟩⟩
    · rintro rfl
      obtain ⟨hfits, hsame⟩ := hl.chatting
      exact ⟨_, parse_eq_ok.mpr ⟨_, hfits, rfl, rfl⟩, hsame⟩

theorem flags_beat_environment_of_chat :
    let l : Line :=
      ⟨[.apart .apiKey "k"], some (.chat, [.joined .maxTurns "3", .apart .model "m"]), true⟩
    let args : Arguments := ⟨none, some "k", some (.chat "m" (some ⟨3, by decide⟩))⟩
    let env : Environment := fun name =>
      if name = "LMCHAT_API_BASE_URL" then some [0xFF]
      else if name = "LMCHAT_API_KEY" then some []
      else if name = "LMCHAT_TIMEOUT_SECS" then some (Utf8.encode "soon")
      else if name = "LMCHAT_MAX_TURNS" then some (Utf8.encode "0")
      else none
    parse l.words = .ok args ∧ l.Fits ∧
    l.Governs env ⟨Settings.defaultApiBaseUrl, "k", 600, some ⟨3, by decide⟩⟩
      [.ignored "soon" "LMCHAT_TIMEOUT_SECS", .ignored "0" "LMCHAT_MAX_TURNS"] ∧
    parse (["chat", "--max-turns=3", "--api-key", "k", "--model", "m", "--"].map Utf8.encode) =
      .ok args := by
  intro l args env
  have hparse : parse l.words = .ok args := by decide +kernel
  have hlimit : Flag.maxTurns.Suits "3" := fun _ =>
    ⟨⟨3, by decide⟩, Settings.limitOf_eq_some.mp (by decide +kernel)⟩
  have houter : AllFit .program l.outer := by
    refine ⟨?_, by decide⟩
    rintro g (_ | ⟨_, ⟨⟩⟩)
    exact .apart (by decide) rfl nofun (by decide)
  have hinner : AllFit .chat [.joined .maxTurns "3", .apart .model "m"] := by
    refine ⟨?_, by decide⟩
    rintro g (_ | ⟨_, _ | ⟨_, ⟨⟩⟩⟩)
    · exact .joined (by decide) rfl hlimit
    · exact .apart (by decide) rfl nofun (by decide)
  have hfits : l.Fits := by
    refine ⟨houter, ?_⟩
    rintro c inner ⟨⟩
    exact ⟨nofun, hinner⟩
  obtain ⟨-, hlines⟩ := flags_beat_environment hparse
  obtain ⟨hgoverns, hmoved, -, -⟩ := hlines l hfits rfl
  refine ⟨hparse, hfits, hgoverns env, ?_⟩
  exact hmoved [] (.apart .apiKey "k") [] .chat [.joined .maxTurns "3"] [.apart .model "m"] rfl rfl
    (by decide)

end CommandLine
end ModelChat
