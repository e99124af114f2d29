import ModelChat.CommandLine.Grammar
import ModelChat.Text.Quoted

/-! Help and version texts. -/
namespace ModelChat.CommandLine
open Text

def programName : String := "lmchat"
def version : String := "0.1.0"

/-- What a help text is about. -/
inductive Topic where
  | scope (scope : Scope)
  /-- The command for help itself. -/
  | help
  deriving DecidableEq, Repr

namespace Flag

/-- What an option is for; some speak for themselves. -/
def about : Scope → Flag → String
  | _, apiBaseUrl => "Base URL of the OpenAI compatible API, e.g. http://localhost:1234/v1/"
  | .chat, model => "Model identifier sent with every request"
  | _, maxTurns => "Keep at most this many user and assistant messages"
  | _, logHttp => "Print every HTTP request and response"
  | _, _ => ""

/-- The value without the option, if help shows it. -/
def shownDefault : Scope → Flag → Option String
  | .chat, model => some Conversation.defaultModel
  | .describe, model => some Description.defaultModel
  | .describe, imageUrl => some Description.defaultImageUrl
  | .describe, prompt => some (quoted Description.defaultPrompt)
  | _, _ => none

/-- What help says about an option. -/
def remark (s : Scope) (f : Flag) : String :=
  match f.shownDefault s with
  | none => f.about s
  | some d =>
    let note := "[default: " ++ d ++ "]"
    if (f.about s).isEmpty then note else f.about s ++ " " ++ note

end Flag

/-- Texts in two columns; the first one is as wide as its longest text. -/
def columns (rows : List (String × String)) : String :=
  let width := (rows.map (·.1.length)).foldl max 0
  String.join <| rows.map fun (left, right) =>
    left ++ String.ofList (List.replicate (width - left.length + 2) ' ') ++ right ++ "\n"

/-- A word after what the program was called by, if that is known. -/
def called (bin : Option String) (word : String) : String :=
  match bin with
  | some bin => bin ++ " " ++ word
  | none => word

namespace Scope

def about : Scope → String
  | program => ""
  | chat => "Start an interactive chat session"
  | describe => "Ask a vision model about an image in a single request"

/-- The words that lead to a scope. -/
def path (bin : Option String) (s : Scope) : String :=
  match s with
  | program => bin.getD programName
  | s => called bin s.name

/-- How a scope is used, in general. -/
def usage (bin : Option String) (s : Scope) : String :=
  s.path bin ++ match s with
    | program => " [OPTIONS] [COMMAND]"
    | _ => " [OPTIONS]"

def optionRows (s : Scope) : List (String × String) :=
  s.flags.map (fun f => ("      " ++ f.shown, f.remark s)) ++
    [("  -h, --" ++ helpFlag, "Print help"), ("  -V, --" ++ versionFlag, "Print version")]

def commandRows : List (String × String) := [
  ("  " ++ chat.name, chat.about),
  ("  " ++ describe.name, describe.about),
  ("  " ++ helpCommand, "Print this message or the help of the given subcommand(s)")]

def help (bin : Option String) (s : Scope) : String :=
  let intro := if s.about.isEmpty then "" else s.about ++ "\n\n"
  let commands := match s with
    | program => "\nCommands:\n" ++ columns commandRows
    | _ => ""
  intro ++ "Usage: " ++ s.usage bin ++ "\n" ++ commands ++ "\nOptions:\n" ++ columns s.optionRows

def versionText (s : Scope) : String :=
  let name := match s with
    | program => programName
    | s => programName ++ "-" ++ s.name
  name ++ " " ++ version ++ "\n"

end Scope

namespace Topic

def usage (bin : Option String) : Topic → String
  | scope s => s.usage bin
  | help => called bin helpCommand ++ " [COMMAND]..."

def text (bin : Option String) : Topic → String
  | scope s => s.help bin
  | help =>
    "Print this message or the help of the given subcommand(s)\n\nUsage: " ++ help.usage bin ++
      "\n\nArguments:\n" ++ columns [("  [COMMAND]...", "Print help for the subcommand(s)")]

end Topic

end ModelChat.CommandLine
