import ModelChat.Conversation
import ModelChat.Description

/-! What may stand on the command line. -/
namespace ModelChat.CommandLine

/-- The options with a name of their own. -/
inductive Flag where
  | apiBaseUrl
  | apiKey
  | model
  | maxTurns
  | imageUrl
  | prompt
  | logHttp
  deriving DecidableEq, Repr

namespace Flag

/-- The name after two dashes. -/
def name : Flag → String
  | apiBaseUrl => "api-base-url"
  | apiKey => "api-key"
  | model => "model"
  | maxTurns => "max-turns"
  | imageUrl => "image-url"
  | prompt => "prompt"
  | logHttp => "log-http"

/-- How the value is named in reports; a switch has no value. -/
def valueName : Flag → Option String
  | apiBaseUrl => some "API_BASE_URL"
  | apiKey => some "API_KEY"
  | model => some "MODEL"
  | maxTurns => some "MAX_TURNS"
  | imageUrl => some "IMAGE_URL"
  | prompt => some "PROMPT"
  | logHttp => none

/-- The option as reports and help show it. -/
def shown (f : Flag) : String :=
  "--" ++ f.name ++ match f.valueName with
    | some v => " <" ++ v ++ ">"
    | none => ""

end Flag

/-- The parts of a command line: before a command, and after each. -/
inductive Scope where
  | program
  | chat
  | describe
  deriving DecidableEq, Repr

namespace Scope

/-- The commands by name. -/
def ofName? : String → Option Scope
  | "chat" => some chat
  | "describe" => some describe
  | _ => none

/-- The name of a command. -/
def name : Scope → String
  | program => ""
  | chat => "chat"
  | describe => "describe"

/-- The options that a scope brings in. -/
def own : Scope → List Flag
  | program => [.apiBaseUrl, .apiKey]
  | chat => [.model, .maxTurns]
  | describe => [.model, .imageUrl, .prompt, .logHttp]

/-- The options of a scope in the order of its help; those of the program may stand everywhere. -/
def flags : Scope → List Flag
  | program => [.apiBaseUrl, .apiKey]
  | chat => [.apiBaseUrl, .model, .apiKey, .maxTurns]
  | describe => [.apiBaseUrl, .model, .apiKey, .imageUrl, .prompt, .logHttp]

def flag? (s : Scope) (name : String) : Option Flag :=
  s.flags.find? (·.name = name)

end Scope

/-- The command that prints help. -/
def helpCommand : String := "help"

/-- The options every scope has. -/
def helpFlag : String := "help"
def versionFlag : String := "version"

/-- What the program is asked to do. -/
inductive Command where
  | chat (model : String) (maxTurns : Option Limit)
  | describe (model imageUrl prompt : String) (logHttp : Bool)
  deriving DecidableEq, Repr

/-- A command line that has been understood. -/
structure Arguments where
  apiBaseUrl : Option String
  apiKey : Option String
  command : Option Command
  deriving DecidableEq, Repr

end ModelChat.CommandLine
