import Mathlib.Logic.Function.Basic
import ModelChat.Proofs.CommandLine.Words
import ModelChat.Proofs.Decimal.Natural
import ModelChat.Proofs.Program.Arguments
import ModelChat.Proofs.Text.Utf8

/-! Numbers that are given to the program. Main statement: the variable and the option for the limit
of the transcript accept the same texts, and take them for the same limit. -/
namespace ModelChat
open Text Decimal

/-- A text for a number of 64 bits. -/
def WritesWord (s : String) (n : Nat) : Prop :=
  Writes s n ∧ n < UInt64.size

/-- A text for a limit. -/
def WritesLimit (s : String) (limit : Limit) : Prop :=
  WritesWord s limit.count

theorem Limit.ofNat?_eq_some {n : Nat} {limit : Limit} :
    Limit.ofNat? n = some limit ↔ limit.count = n := by
  obtain ⟨count, hpos⟩ := limit
  unfold Limit.ofNat?
  split
  next => simp [eq_comm]
  next hzero =>
    refine iff_of_false nofun ?_
    rintro rfl
    exact hzero hpos

namespace Settings

theorem wordOf_eq_some {s : String} {n : Nat} : wordOf s = some n ↔ WritesWord s n := by
  have hread : wordOf s = some n ↔ readNatural maxWord s = .ok n := by
    unfold wordOf
    cases readNatural maxWord s <;> simp [Except.toOption]
  have hbound : n ≤ maxWord ↔ n < UInt64.size := by
    have hmax : maxWord = UInt64.size - 1 := rfl
    have hsize : 0 < UInt64.size := by decide
    omega
  rw [hread, readNatural_eq_ok, hbound, WritesWord]

theorem limitOf_eq_some {s : String} {limit : Limit} :
    limitOf s = some limit ↔ WritesLimit s limit := by
  simp only [limitOf, Option.bind_eq_some_iff, Limit.ofNat?_eq_some, wordOf_eq_some, WritesLimit,
    exists_eq_right']

section Variables
variable {α : Type} {read : String → Option α} (env : Environment) (name : String)

theorem readVariable_unset :
    readVariable read (Function.update env name none) name = (none, []) := by
  simp [readVariable, lookup]

theorem readVariable_set (s : String) :
    readVariable read (Function.update env name (some (Utf8.encode s))) name =
      match read s with
      | some v => (some v, [])
      | none => (none, [.ignored s name]) := by
  cases h : read s <;>
    simp only [readVariable, lookup, Function.update_self, Option.bind_some, Utf8.decode?_encode, h]

theorem readVariable_other {other : String} (h : other ≠ name) (value : Option Bytes) :
    readVariable read (Function.update env name value) other = readVariable read env other := by
  simp [readVariable, lookup, Function.update_of_ne h]

theorem lookup_other {other : String} (h : other ≠ name) (value : Option Bytes) :
    lookup (Function.update env name value) other = lookup env other := by
  simp [lookup, Function.update_of_ne h]

/-- The variable for the limit decides on the limit, and is noted last. -/
theorem ofEnvironment_maxTurns (value : Option Bytes) :
    let env' := Function.update env "LMCHAT_MAX_TURNS" value
    let given := readVariable limitOf env' "LMCHAT_MAX_TURNS"
    ofEnvironment env' = ({ (ofEnvironment env).1 with maxTurns := given.1 },
      (readVariable wordOf env "LMCHAT_TIMEOUT_SECS").2 ++ given.2) := by
  have hurl : "LMCHAT_API_BASE_URL" ≠ "LMCHAT_MAX_TURNS" := by decide
  have hkey : "LMCHAT_API_KEY" ≠ "LMCHAT_MAX_TURNS" := by decide
  have htimeout : "LMCHAT_TIMEOUT_SECS" ≠ "LMCHAT_MAX_TURNS" := by decide
  simp only [ofEnvironment, lookup_other env _ hurl, lookup_other env _ hkey,
    readVariable_other env _ htimeout]

/-- The variable for the time decides on the time, and is noted first. -/
theorem ofEnvironment_timeoutSecs (value : Option Bytes) :
    let env' := Function.update env "LMCHAT_TIMEOUT_SECS" value
    let given := readVariable wordOf env' "LMCHAT_TIMEOUT_SECS"
    ofEnvironment env' = ({ (ofEnvironment env).1 with
      timeoutSecs := given.1.getD defaultTimeoutSecs },
      given.2 ++ (readVariable limitOf env "LMCHAT_MAX_TURNS").2) := by
  have hurl : "LMCHAT_API_BASE_URL" ≠ "LMCHAT_TIMEOUT_SECS" := by decide
  have hkey : "LMCHAT_API_KEY" ≠ "LMCHAT_TIMEOUT_SECS" := by decide
  have hlimit : "LMCHAT_MAX_TURNS" ≠ "LMCHAT_TIMEOUT_SECS" := by decide
  simp only [ofEnvironment, lookup_other env _ hurl, lookup_other env _ hkey,
    readVariable_other env _ hlimit]

end Variables
end Settings

namespace CommandLine

/-- A chat with a limit of the given text. -/
def limitWords (s : String) : List Bytes :=
  [Utf8.encode Scope.chat.name, Utf8.encode ("--" ++ Flag.maxTurns.name ++ "=" ++ s)]

/-- An option with its value in one word. -/
theorem word_given (f : Flag) (value : Bytes) :
    Word.of (Utf8.encode ("--" ++ f.name ++ "=") ++ value) = .long f.name (some value) := by
  cases f <;> rfl

theorem readLimit_eq (f : Flag) (s : String) :
    (∃ limit, Settings.limitOf s = some limit ∧ readLimit f s = .ok limit) ∨
    Settings.limitOf s = none ∧ ∃ reason, readLimit f s = .error (.badNumber f s reason) := by
  unfold Settings.limitOf Settings.wordOf readLimit
  cases readNatural maxWord s with
  | error fault => exact .inr ⟨rfl, _, rfl⟩
  | ok n =>
    dsimp only [Except.toOption, Option.bind_some]
    cases Limit.ofNat? n with
    | none => exact .inr ⟨rfl, _, rfl⟩
    | some limit => exact .inl ⟨limit, rfl, rfl⟩

/-- The command line is understood if its limit is. -/
theorem parse_limitWords (s : String) : parse (limitWords s) =
    match readLimit .maxTurns s with
    | .ok limit => .ok ⟨none, none, some (.chat Conversation.defaultModel (some limit))⟩
    | .error fault => .error (.fault fault) := by
  have hcommand (ws : List Bytes) : readScope .program .empty false
      (Utf8.encode Scope.chat.name :: ws) = .ok (.empty, some (.chat, ws)) := by
    have hname : Scope.chat.name ≠ helpCommand := by decide
    simp [readScope, Utf8.decode?_encode, State.empty, hname]
    rfl
  have hoption : readLong .chat .empty Flag.maxTurns.name (some (Utf8.encode s)) [] =
      .ofExcept (accept .chat [] .maxTurns (Utf8.encode s)) := rfl
  have haccept : accept .chat [] .maxTurns (Utf8.encode s) = (readLimit .maxTurns s).map
      fun limit => ⟨[(.maxTurns, .count limit)], none⟩ := by
    simp only [accept, readValue, Utf8.decode?_encode]
    cases readLimit .maxTurns s <;> rfl
  have hinside : readScope .chat .empty false
      [Utf8.encode ("--" ++ Flag.maxTurns.name ++ "=" ++ s)] = match readLimit .maxTurns s with
        | .ok limit => .ok (⟨[(.maxTurns, .count limit)], none⟩, none)
        | .error fault => .error (.fault fault) := by
    have hchat : Scope.chat ≠ .program := nofun
    rw [readScope_eq fun hhelp => hchat hhelp.1, named?_of_ne_program hchat,
      Utf8.encode_append, word_given]
    simp only [hoption, haccept]
    cases readLimit .maxTurns s <;> rfl
  simp only [parse, limitWords, hcommand, Json.ok_bind, hinside]
  cases readLimit .maxTurns s <;> rfl

end CommandLine

namespace Settings

/-- A variable for the limit is taken without a note if it writes one; if not, it is noted once and
counts as unset. -/
theorem limit_of_variable (s : String) (env : Environment) :
    let given := ofEnvironment (Function.update env "LMCHAT_MAX_TURNS" (some (Utf8.encode s)))
    let unset := ofEnvironment (Function.update env "LMCHAT_MAX_TURNS" none)
    (given.2 = unset.2 ↔ ∃ limit, WritesLimit s limit) ∧
    (∀ limit, WritesLimit s limit → given = ({ unset.1 with maxTurns := some limit }, unset.2)) ∧
    ((¬ ∃ limit, WritesLimit s limit) →
      given = (unset.1, unset.2 ++ [.ignored s "LMCHAT_MAX_TURNS"])) ∧
    unset.1.maxTurns = none := by
  intro given unset
  simp only [given, unset, ofEnvironment_maxTurns, readVariable_set, readVariable_unset,
    ← limitOf_eq_some]
  cases limitOf s with
  | none => simp
  | some found => simp

/-- A variable for the time is taken without a note if it writes a number of 64 bits; if not, it is
noted once and the default counts. -/
theorem time_of_variable (s : String) (env : Environment) :
    let given := ofEnvironment (Function.update env "LMCHAT_TIMEOUT_SECS" (some (Utf8.encode s)))
    let unset := ofEnvironment (Function.update env "LMCHAT_TIMEOUT_SECS" none)
    (given.2 = unset.2 ↔ ∃ n, WritesWord s n) ∧
    (∀ n, WritesWord s n → given = ({ unset.1 with timeoutSecs := n }, unset.2)) ∧
    ((¬ ∃ n, WritesWord s n) →
      given = (unset.1, .ignored s "LMCHAT_TIMEOUT_SECS" :: unset.2)) ∧
    unset.1.timeoutSecs = defaultTimeoutSecs := by
  intro given unset
  simp only [given, unset, ofEnvironment_timeoutSecs, readVariable_set, readVariable_unset,
    ← wordOf_eq_some]
  cases wordOf s with
  | none => simp
  | some found => simp

end Settings

namespace CommandLine

/-- An option for the limit is understood if it writes one, and a fault of the command line if
not. -/
theorem limit_of_option (s : String) :
    ((∃ args, parse (limitWords s) = .ok args) ↔ ∃ limit, WritesLimit s limit) ∧
    (∀ limit, WritesLimit s limit → ∃ args, parse (limitWords s) = .ok args ∧
      ∀ base, args.resolve base =
        ({ base with maxTurns := some limit }, .chat Conversation.defaultModel (some limit))) ∧
    ((¬ ∃ limit, WritesLimit s limit) →
      ∃ reason, parse (limitWords s) = .error (.fault (.badNumber .maxTurns s reason))) := by
  simp only [parse_limitWords, ← Settings.limitOf_eq_some]
  obtain ⟨found, hlimit, hread⟩ | ⟨hnone, reason, hread⟩ := readLimit_eq .maxTurns s
  · simp only [hlimit, hread, Option.some.injEq, exists_eq', not_true_eq_false, false_implies,
      and_true, iff_true]
    refine ⟨⟨_, rfl⟩, ?_⟩
    rintro limit rfl
    exact ⟨_, rfl, fun _ => rfl⟩
  · simp [hnone, hread]

/-- The variable and the option for the limit take the same texts, those of the numbers of 64 bits
that are not zero, and take them for the same limit. Any other text in the variable is noted once
and counts for nothing, and in the option it is a fault. The variable for the time takes the texts
of all numbers of 64 bits. -/
theorem limit_given_either_way (s : String) (env : Environment) :
    let limited (value : Option Bytes) :=
      Settings.ofEnvironment (Function.update env "LMCHAT_MAX_TURNS" value)
    let timed (value : Option Bytes) :=
      Settings.ofEnvironment (Function.update env "LMCHAT_TIMEOUT_SECS" value)
    let text := some (Utf8.encode s)
    ((limited text).2 = (limited none).2 ↔ ∃ args, parse (limitWords s) = .ok args) ∧
    ((∃ args, parse (limitWords s) = .ok args) ↔ ∃ n, WritesWord s n ∧ 0 < n) ∧
    (∀ n, WritesWord s n → 0 < n → ∃ limit : Limit, limit.count = n ∧
      limited text = ({ (limited none).1 with maxTurns := some limit }, (limited none).2) ∧
      ∃ args, parse (limitWords s) = .ok args ∧ ∀ base, args.resolve base =
        ({ base with maxTurns := some limit }, .chat Conversation.defaultModel (some limit))) ∧
    ((¬ ∃ n, WritesWord s n ∧ 0 < n) →
      limited text = ((limited none).1, (limited none).2 ++ [.ignored s "LMCHAT_MAX_TURNS"]) ∧
      ∃ reason, parse (limitWords s) = .error (.fault (.badNumber .maxTurns s reason))) ∧
    (limited none).1.maxTurns = none ∧
    ((timed text).2 = (timed none).2 ↔ ∃ n, WritesWord s n) ∧
    (∀ n, WritesWord s n →
      timed text = ({ (timed none).1 with timeoutSecs := n }, (timed none).2)) ∧
    ((¬ ∃ n, WritesWord s n) →
      timed text = ((timed none).1, .ignored s "LMCHAT_TIMEOUT_SECS" :: (timed none).2)) ∧
    (timed none).1.timeoutSecs = Settings.defaultTimeoutSecs := by
  intro limited timed text
  obtain ⟨hnoted, htaken, hignored, hunset⟩ := Settings.limit_of_variable s env
  obtain ⟨haccepted, hunderstood, hrefused⟩ := limit_of_option s
  have hlimit : (∃ n, WritesWord s n ∧ 0 < n) ↔ ∃ limit, WritesLimit s limit := by
    constructor
    · rintro ⟨n, hn, hpos⟩
      exact ⟨⟨n, hpos⟩, hn⟩
    · rintro ⟨limit, h⟩
      exact ⟨limit.count, h, limit.pos⟩
  rw [hlimit]
  refine ⟨hnoted.trans haccepted.symm, haccepted, fun n hn hpos => ?_,
    fun hno => ⟨hignored hno, hrefused hno⟩, hunset, Settings.time_of_variable s env⟩
  exact ⟨⟨n, hpos⟩, rfl, htaken ⟨n, hpos⟩ hn, hunderstood ⟨n, hpos⟩ hn⟩

end CommandLine
end ModelChat
