import ModelChat.Decimal.Natural
import ModelChat.Log
import ModelChat.Log.Pattern
import ModelChat.Settings
import ModelChat.Text.Alphanumeric
import ModelChat.Text.Space
import ModelChat.Text.Split

/-! Which notes are shown. -/
namespace ModelChat
open Text

/-- Shows notes of a part of the program from a level up, or none of them. -/
structure Directive where
  target : String
  /-- A field that notes have to have. -/
  field : Option String
  level : Option Level
  /-- Whether it is for what goes on within spans of time or for values of fields. The program's own
  notes have neither. -/
  isInner : Bool
  deriving DecidableEq, Repr

namespace Directive

/-- Reads a level by name or number; the inner `none` turns notes off. -/
def readLevel (s : String) : Option (Option Level) :=
  let lower := String.ofList (s.toList.map Char.toLower)
  match (Decimal.readNatural Decimal.maxWord s).toOption with
  | some n => if n = 0 then some none else (Level.all.reverse[n - 1]?).map some
  | none =>
    if lower = "off" then some none
    else (Level.all.find? fun l => l.name.toList.map Char.toLower = lower.toList).map some

/-- The level after an equals sign; without one everything is shown. -/
def readLevelOrAll (cs : List Char) : Option (Option Level) :=
  if cs.isEmpty then some (some .trace) else readLevel (String.ofList cs)

/-- The text of one rule. Places are counted in it without the white space around it, but what stands
at a place is taken from the text as it is. -/
structure Source where
  text : String
  deriving DecidableEq, Repr

namespace Source

def chars (s : Source) : List Char :=
  trim s.text.toList

/-- The place where the given end of the text begins. -/
def place (s : Source) (rest : List Char) : Nat :=
  (Utf8.encodeChars s.chars).length - (Utf8.encodeChars rest).length

/-- What stands between two places, if both are between characters. -/
def between (s : Source) (a b : Nat) : Option String :=
  Utf8.decode? (((Utf8.encode s.text).take b).drop a)

/-- What stands from the place on where the given end begins, up to another. -/
def part (s : Source) (start stop : List Char) : Option String :=
  s.between (s.place start) (s.place stop)

/-- The level in the given end. -/
def level? (s : Source) (rest : List Char) : Option (Option Level) := do
  let text ← s.between (s.place rest) (Utf8.encode s.text).length
  readLevelOrAll text.toList

/-- The value of a field is a number or a pattern. -/
def isValue (cs : List Char) : Bool :=
  (Decimal.readNatural Decimal.maxWord (String.ofList cs)).toOption.isSome || isPattern cs

/-- Reads what follows square brackets: nothing, or a level after an equals sign. -/
def readEnd (s : Source) (target : String) (field : Option String) (isInner : Bool) :
    List Char → Option Directive
  | [] => some ⟨target, field, some .trace, isInner⟩
  | '=' :: rest => (s.level? rest).map (⟨target, field, ·, isInner⟩)
  | _ => none

/-- Reads what follows an opening square bracket: a name, a field in braces, or both. A field may
have a value after an equals sign. -/
def readBrackets (s : Source) (target : String) (cs : List Char) : Option Directive :=
  let opening := '\x7b'
  let closing := '\x7d'
  let isInName (c : Char) : Bool := c ≠ ']' && c ≠ opening
  match cs.dropWhile isInName with
  | [] => none
  | mark :: rest =>
    if mark = ']' then s.readEnd target none true rest
    else
      match rest.dropWhile (· ≠ closing) with
      | brace :: ']' :: after => do
        let field ← s.part rest (brace :: ']' :: after)
        if field.isEmpty then none
        else match split (· = '=') field.toList with
          | [name] =>
            s.readEnd target (some (String.ofList name)) (isInName (cs.headD opening)) after
          | _ :: value :: _ => if isValue value then s.readEnd target none true after else none
          | [] => none
      | _ => none

/-- Reads a level, a target, or both around an equals sign. -/
def read (s : Source) : Option Directive :=
  let startsName (c : Char) : Bool :=
    c = '-' || c = ':' || c = '_' || isAlphanumeric c
  match s.chars with
  | [] => none
  | '[' :: rest => s.readBrackets "" rest
  | c :: cs =>
    if !startsName c then none
    else match cs.dropWhile fun c => c ≠ '=' ∧ c ≠ '[' with
      | [] =>
        match readLevel s.text with
        | some level => some ⟨"", none, level, false⟩
        | none => some ⟨s.text, none, some .trace, false⟩
      | mark :: rest => do
        let target ← s.part (c :: cs) (mark :: rest)
        if mark = '=' then (s.level? rest).map (⟨target, none, ·, false⟩)
        else s.readBrackets target rest

end Source

def applies (d : Directive) (e : Event) : Bool :=
  !d.isInner && d.field.all (· = Event.field) && d.target.toList.isPrefixOf e.target.toList

/-- Whether a rule gives way to another that also applies: one with a longer target or, if they are
of one length, with a field, and else one that comes later. -/
def givesWay (d other : Directive) : Bool :=
  let size (d : Directive) := d.target.utf8ByteSize
  size d < size other || (size d = size other && (d.field.isNone || other.field.isSome))

def shows (d : Directive) (e : Event) : Bool :=
  d.level.any fun l => l.rank ≤ e.level.rank

end Directive

/-- The rules for showing notes. -/
abbrev LogFilter := List Directive

namespace LogFilter

/-- Without other rules: what the program says of interest. -/
def usual : LogFilter :=
  [⟨"lmchat", none, some .info, false⟩]

/-- Reads rules between commas. No rules at all show errors only. -/
def read? (s : String) : Option LogFilter :=
  match (s.splitOn ",").filter (!·.isEmpty) with
  | [] => some [⟨"", none, some .error, false⟩]
  | rules => rules.mapM fun rule => Directive.Source.read ⟨rule⟩

/-- The rules of the environment; rules that cannot be read do not count. -/
def ofEnvironment (env : Environment) : LogFilter :=
  ((Settings.lookup env "RUST_LOG").bind read?).getD usual

/-- Of the rules that apply, the one that gives way to no other decides. -/
def shows (f : LogFilter) (e : Event) : Bool :=
  let best := (f.filter (·.applies e)).foldl (fun (best : Option Directive) d =>
    if best.all (·.givesWay d) then some d else best) none
  best.any (·.shows e)

end LogFilter
end ModelChat
