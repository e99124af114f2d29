import Mathlib.Data.List.Basic
import ModelChat.Proofs.CommandLine.Limit

/-! Options as they are written. Main statement: a word that is taken for an option is two dashes
and the name of one, perhaps with a value behind an equals sign, and a word that is taken for a
value is any text that does not look like an option. -/
namespace ModelChat.CommandLine
open Text

/-- An option with its value behind an equals sign, in a word of its own, or without one. -/
inductive Given where
  | joined (flag : Flag) (value : String)
  | apart (flag : Flag) (value : String)
  | alone (flag : Flag)
  deriving DecidableEq, Repr

/-- A text that can be the value of an option: only limits are more than text. -/
def Flag.Suits (f : Flag) (value : String) : Prop :=
  f = .maxTurns → ∃ limit, WritesLimit value limit

/-- What is known of the value once it has been read. -/
def Flag.valueOf (f : Flag) (value : String) : Value :=
  match f, Settings.limitOf value with
  | .maxTurns, some limit => .count limit
  | _, _ => .text value

/-- A text that does not look like an option: no dash is in front, or nothing is behind it. -/
def IsPlain (value : String) : Prop :=
  value.toList.head? = some '-' → value = "-"

instance (value : String) : Decidable (IsPlain value) :=
  inferInstanceAs (Decidable (value.toList.head? = some '-' → value = "-"))

namespace Given

def flag : Given → Flag
  | joined f _ => f
  | apart f _ => f
  | alone f => f

def value? : Given → Option String
  | joined _ value => some value
  | apart _ value => some value
  | alone _ => none

def words : Given → List Bytes
  | joined f value => [Utf8.encode ("--" ++ f.name ++ "=" ++ value)]
  | apart f value => [Utf8.encode ("--" ++ f.name), Utf8.encode value]
  | alone f => [Utf8.encode ("--" ++ f.name)]

/-- What is known of the option once it has been read. -/
def taken : Given → Flag × Value
  | joined f value => (f, f.valueOf value)
  | apart f value => (f, f.valueOf value)
  | alone f => (f, .set)

/-- The options that a scope understands. -/
inductive Fits (s : Scope) : Given → Prop
  | joined {f : Flag} {value : String} : f ∈ s.flags → f.valueName.isSome → f.Suits value →
    Fits s (.joined f value)
  | apart {f : Flag} {value : String} : f ∈ s.flags → f.valueName.isSome → f.Suits value →
    IsPlain value → Fits s (.apart f value)
  | alone {f : Flag} : f ∈ s.flags → f.valueName = none → Fits s (.alone f)

theorem fst_taken (g : Given) : g.taken.1 = g.flag := by
  cases g <;> rfl

theorem words_ne_nil (g : Given) : g.words ≠ [] := by
  cases g <;> nofun

theorem Fits.mem_flags {s : Scope} {g : Given} (h : g.Fits s) : g.flag ∈ s.flags := by
  cases h <;> assumption

/-- What a scope understands is understood wherever there are as many options. -/
theorem Fits.mono {s s' : Scope} (hs : s.flags ⊆ s'.flags) {g : Given} (h : g.Fits s) :
    g.Fits s' := by
  cases h with
  | joined hf hvalue hsuits => exact .joined (hs hf) hvalue hsuits
  | apart hf hvalue hsuits hplain => exact .apart (hs hf) hvalue hsuits hplain
  | alone hf hvalue => exact .alone (hs hf) hvalue

end Given

/-! ### Names -/

theorem flag?_eq_some {s : Scope} {name : String} {f : Flag} :
    s.flag? name = some f ↔ f ∈ s.flags ∧ f.name = name := by
  have hfound : ∀ f ∈ s.flags, s.flag? f.name = some f := by
    cases s <;> decide
  constructor
  · intro h
    exact ⟨List.mem_of_find?_eq_some h, by simpa using List.find?_some h⟩
  · rintro ⟨hf, rfl⟩
    exact hfound f hf

theorem Flag.not_common (f : Flag) : ¬ (f.name = helpFlag ∨ f.name = versionFlag) := by
  cases f <;> decide

/-- Nothing in the name of an option stands for something else. -/
theorem Flag.not_mem_name (f : Flag) : '\uFFFD' ∉ f.name.toList := by
  cases f <;> decide

theorem ofName?_eq_some {name : String} {c : Scope} :
    Scope.ofName? name = some c ↔ c ≠ .program ∧ name = c.name := by
  unfold Scope.ofName?
  split
  next => cases c <;> decide
  next => cases c <;> decide
  next hchat hdescribe =>
    cases c with
    | program => simp
    | chat => simpa [Scope.name] using hchat
    | describe => simpa [Scope.name] using hdescribe

/-! ### Forms of words -/

theorem word_alone (f : Flag) : Word.of (Utf8.encode ("--" ++ f.name)) = .long f.name none := by
  cases f <;> rfl

theorem word_joined (f : Flag) (value : String) :
    Word.of (Utf8.encode ("--" ++ f.name ++ "=" ++ value)) =
      .long f.name (some (Utf8.encode value)) := by
  rw [Utf8.encode_append, word_given]

theorem word_dashes {rest : Bytes} (hrest : rest ≠ []) :
    Word.of ('-'.toUInt8 :: '-'.toUInt8 :: rest) =
      .long (Utf8.decodeLossy (rest.takeWhile (· ≠ '='.toUInt8)))
        (rest.dropWhile (· ≠ '='.toUInt8)).tail? := by
  have hempty : ¬ rest.isEmpty := by simpa using hrest
  unfold Word.of
  dsimp only
  refine (if_neg (not_not.mpr rfl)).trans ((if_neg (not_not.mpr rfl)).trans
    ((if_neg hempty).trans ?_))
  generalize rest.dropWhile (· ≠ '='.toUInt8) = value
  cases value <;> rfl

/-- What is neither a value nor an option of one letter has two dashes in front. -/
theorem dashes_of_word {w : Bytes} (hplain : Word.of w ≠ .plain)
    (hshort : ∀ letters, Word.of w ≠ .short letters) :
    ∃ rest, w = '-'.toUInt8 :: '-'.toUInt8 :: rest := by
  match w with
  | [] => exact absurd rfl hplain
  | [_] => exact absurd rfl hplain
  | a :: b :: rest =>
    by_cases ha : a = '-'.toUInt8
    · by_cases hb : b = '-'.toUInt8
      · exact ⟨rest, by rw [ha, hb]⟩
      · exact absurd (by simp [Word.of, ha, hb]) (hshort (b :: rest))
    · exact absurd (by simp [Word.of, ha]) hplain

theorem word_separator {w : Bytes} : Word.of w = .separator ↔ w = Utf8.encode "--" := by
  constructor
  · intro h
    obtain ⟨rest, rfl⟩ := dashes_of_word (w := w) (by simp [h]) (by simp [h])
    by_cases hrest : rest = []
    · rw [hrest]
      rfl
    · rw [word_dashes hrest] at h
      cases h
  · rintro rfl
    rfl

/-- The name of an option is written in one way. -/
theorem eq_of_word_long {w : Bytes} {f : Flag} {value : Option Bytes}
    (h : Word.of w = .long f.name value) :
    w = Utf8.encode ("--" ++ f.name) ++ value.elim [] ('='.toUInt8 :: ·) := by
  have hdashes : Utf8.encode ("--" ++ f.name) =
      '-'.toUInt8 :: '-'.toUInt8 :: Utf8.encode f.name := by
    rw [Utf8.encode_append]
    rfl
  obtain ⟨rest, rfl⟩ := dashes_of_word (w := w) (by simp [h]) (by simp [h])
  have hrest : rest ≠ [] := by
    rintro rfl
    cases h
  rw [word_dashes hrest] at h
  obtain ⟨hname, rfl⟩ := Word.long.inj h
  have hvalue : (rest.dropWhile (· ≠ '='.toUInt8)).tail?.elim [] ('='.toUInt8 :: ·) =
      rest.dropWhile (· ≠ '='.toUInt8) := by
    have hhead := List.head?_dropWhile_not (· ≠ '='.toUInt8) rest
    cases hdrop : rest.dropWhile (· ≠ '='.toUInt8) with
    | nil => rfl
    | cons x v =>
      rw [hdrop] at hhead
      have hx : x = '='.toUInt8 := by simpa using hhead
      rw [hx]
      rfl
  rw [hdashes, List.cons_append, List.cons_append, hvalue,
    ← Utf8.eq_encode_of_decodeLossy hname f.not_mem_name, List.takeWhile_append_dropWhile]

theorem eq_of_word_alone {w : Bytes} {f : Flag} (h : Word.of w = .long f.name none) :
    w = Utf8.encode ("--" ++ f.name) := by
  rw [eq_of_word_long h, Option.elim_none, List.append_nil]

theorem eq_of_word_joined {w : Bytes} {f : Flag} {value : String}
    (h : Word.of w = .long f.name (some (Utf8.encode value))) :
    w = Utf8.encode ("--" ++ f.name ++ "=" ++ value) := by
  simp only [eq_of_word_long h, Option.elim_some, Utf8.encode_append, List.append_assoc]
  rfl

theorem word_eq_plain {a : UInt8} {s : Bytes} :
    Word.of (a :: s) = .plain ↔ (a = '-'.toUInt8 → s = []) := by
  match s with
  | [] => exact iff_of_true rfl fun _ => rfl
  | b :: rest =>
    by_cases ha : a = '-'.toUInt8
    · by_cases hb : b = '-'.toUInt8
      · by_cases hrest : rest = []
        · simp [Word.of, ha, hb, hrest]
        · rw [ha, hb, word_dashes hrest]
          exact iff_of_false nofun (by simp)
      · simp [Word.of, ha, hb]
    · simp [Word.of, ha]

theorem eq_dash_of_encodeChar {c : Char} {a : UInt8} {s : Bytes} (hc : Utf8.encodeChar c = a :: s) :
    a = '-'.toUInt8 ↔ c = '-' := by
  constructor
  · rintro rfl
    exact Utf8.eq_of_encodeChar_cons (by decide) hc
  · rintro rfl
    exact (List.cons.inj hc).1.symm

theorem isPlain_iff {value : String} : IsPlain value ↔ Word.of (Utf8.encode value) = .plain := by
  unfold IsPlain Utf8.encode
  rw [← String.toList_inj]
  cases value.toList with
  | nil => exact iff_of_true (fun h => by cases h) rfl
  | cons c cs =>
    obtain ⟨a, s, hc, -⟩ := Utf8.next_encodeChar c
    have hwritten : Utf8.encodeChars (c :: cs) = a :: (s ++ Utf8.encodeChars cs) := by
      rw [Utf8.encodeChars, List.flatMap_cons, hc]
      rfl
    rw [hwritten, word_eq_plain, eq_dash_of_encodeChar hc, List.head?_cons, Option.some.injEq]
    refine imp_congr_right ?_
    rintro rfl
    obtain rfl : s = [] := (List.cons.inj hc).2.symm
    simp [Utf8.encodeChars_eq_nil]

/-! ### Values -/

theorem valueOf_text {f : Flag} (hf : f ≠ .maxTurns) (value : String) :
    f.valueOf value = .text value := by
  unfold Flag.valueOf
  split
  next => exact absurd rfl hf
  next => rfl

/-- A limit is the only value that may be refused. -/
private theorem readLimit_eq_ok {value : String} {v : Value} :
    (readLimit .maxTurns value).map .count = .ok v ↔
      Flag.maxTurns.Suits value ∧ v = Flag.maxTurns.valueOf value := by
  simp only [Flag.Suits, Flag.valueOf, forall_const, ← Settings.limitOf_eq_some]
  obtain ⟨limit, hlimit, hread⟩ | ⟨hnone, reason, hread⟩ := readLimit_eq .maxTurns value
  · simp [hlimit, hread, Except.map, eq_comm]
  · simp [hnone, hread, Except.map]

theorem readValue_eq_ok {s : Scope} {f : Flag} {w : Bytes} {v : Value} :
    readValue s f w = .ok v ↔ ∃ value, w = Utf8.encode value ∧ f.Suits value ∧
      v = f.valueOf value := by
  simp only [← Utf8.decode?_eq_some]
  unfold readValue
  cases Utf8.decode? w with
  | none => simp
  | some value =>
    by_cases hf : f = .maxTurns
    · subst hf
      simp [readLimit_eq_ok]
    · have hsuits : f.Suits value := fun h => absurd h hf
      simp [valueOf_text hf, hsuits, eq_comm]

end ModelChat.CommandLine
