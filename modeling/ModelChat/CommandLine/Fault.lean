import ModelChat.CommandLine.Help
import ModelChat.CommandLine.Similarity
import ModelChat.Text.Terminal

/-! What can be wrong with a command line. -/
namespace ModelChat.CommandLine
open Text

inductive Fault where
  | unknownCommand (name : String)
  /-- Help was asked for on what there is none, after a topic there is. -/
  | unknownTopic (topic : Topic) (name : String)
  /-- A word nobody asked for. `tips` help the operator, `used` are options known to be meant. -/
  | unexpected (scope : Scope) (word : String) (tips : List String) (used : List String)
  | repeated (scope : Scope) (flag : Flag)
  | missingValue (flag : Flag)
  | badNumber (flag : Flag) (value reason : String)
  /-- A value for an option that takes none. -/
  | surplusValue (scope : Scope) (option value : String) (used : List String)
  | notUtf8 (scope : Scope)
  deriving DecidableEq, Repr

namespace Fault

/-- What is wrong. Words of the operator are shown without control sequences. -/
def line : Fault → String
  | unknownCommand name => "unrecognized subcommand '" ++ plain name ++ "'"
  | unknownTopic _ name => "unrecognized subcommand '" ++ plain name ++ "'"
  | unexpected _ word _ _ => "unexpected argument '" ++ plain word ++ "' found"
  | repeated _ flag => "the argument '" ++ flag.shown ++ "' cannot be used multiple times"
  | missingValue flag =>
    "a value is required for '" ++ flag.shown ++ "' but none was supplied"
  | badNumber flag value reason =>
    "invalid value '" ++ plain value ++ "' for '" ++ flag.shown ++ "': " ++ reason
  | surplusValue _ option value _ =>
    "unexpected value '" ++ plain value ++ "' for '" ++ option ++ "' found; no more were expected"
  | notUtf8 _ => "invalid UTF-8 was detected in one or more arguments"

/-- Names to offer in place of a mistyped one. -/
def offer (kind : String) (names : List String) : List String :=
  let ticked := names.map fun n => "'" ++ n ++ "'"
  match ticked with
  | [] => []
  | [one] => ["a similar " ++ kind ++ " exists: " ++ one]
  | many => ["some similar " ++ kind ++ "s exist: " ++ String.intercalate ", " many]

def commandNames : List String :=
  [Scope.chat.name, Scope.describe.name, helpCommand]

def tips : Fault → List String
  | unknownCommand name => offer "subcommand" (similar name commandNames)
  | unexpected _ _ tips _ => tips
  | _ => []

/-- The usage to show: the options in use, or else the general form. -/
def usageOf (bin : Option String) (s : Scope) (used : List String) : String :=
  if used.isEmpty then s.usage bin else String.intercalate " " (s.path bin :: used)

def usage? (bin : Option String) : Fault → Option String
  | unknownCommand _ => some (usageOf bin .program [])
  | unknownTopic topic _ => some (topic.usage bin)
  | unexpected s _ _ used => some (usageOf bin s used)
  | repeated s _ => some (usageOf bin s [])
  | missingValue _ => none
  | badNumber .. => none
  | surplusValue s _ _ used => some (usageOf bin s used)
  | notUtf8 s => some (usageOf bin s [])

/-- Where to find out more; the command for help does not know. -/
def hint : Fault → String
  | unknownTopic .help _ => ""
  | _ => "\nFor more information, try '--help'.\n"

/-- The whole report. -/
def report (bin : Option String) (f : Fault) : String :=
  let tips := match f.tips with
    | [] => ""
    | ts => "\n" ++ String.join (ts.map ("\n  tip: " ++ ·))
  let usage := match f.usage? bin with
    | some u => "\n\nUsage: " ++ u
    | none => ""
  "error: " ++ f.line ++ tips ++ usage ++ "\n" ++ f.hint

end Fault

/-- Why a command line is not carried out. -/
inductive Stop where
  | help (topic : Topic)
  | version (scope : Scope)
  | fault (fault : Fault)
  deriving DecidableEq, Repr

end ModelChat.CommandLine
