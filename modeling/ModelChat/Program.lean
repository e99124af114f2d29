import ModelChat.Client
import ModelChat.CommandLine.Parser
import ModelChat.Log.Filter
import ModelChat.Text.Grapheme

/-! The whole program, from its words and its input to its exit. -/
namespace ModelChat
open Text Http

namespace Program

/-- What a run leaves behind. -/
structure Result where
  exitCode : Nat
  stdout : String
  stderr : String
  network : Network

/-- What has been typed, and the lengths of its visible characters, both backwards. -/
structure Typed where
  text : Bytes
  lengths : List Nat

/-- A backspace takes the visible character before it away, as many bytes as its length says.
Lengths are kept in one byte each. -/
def Typed.type (t : Typed) (visible : List Char) : Typed :=
  if visible = ['\x08'] then
    match t.lengths with
    | [] => t
    | n :: lengths => ⟨t.text.drop n, lengths⟩
  else
    let bytes := Utf8.encodeChars visible
    ⟨bytes.reverse ++ t.text, bytes.length % 256 :: t.lengths⟩

/-- The text that is left after all backspaces. -/
def applyBackspaces (cs : List Char) : String :=
  Utf8.decodeLossy ((Grapheme.split cs).foldl Typed.type ⟨[], []⟩).text.reverse

/-- The line in a segment, without the carriage return that may come before its end. -/
def lineOf (ended : Bool) (segment : Bytes) : Line :=
  match Utf8.decode? segment with
  | none => .failure "stream did not contain valid UTF-8"
  | some text =>
    let cs := if ended then dropReturn text.toList else text.toList
    .text (applyBackspaces cs)

/-- The lines of the standard input. -/
def linesOf (stdin : Bytes) : List Line :=
  let segments := split (· = 10) stdin
  let last := segments.getLast?.getD []
  segments.dropLast.map (lineOf true) ++ if last.isEmpty then [] else [lineOf false last]

/-- An error and its causes, numbered if there are several. -/
def errorReport (message : String) (causes : List String) : String :=
  let listed := match causes with
    | [] => ""
    | [one] => "\n\nCaused by:\n    " ++ one
    | many =>
      "\n\nCaused by:" ++
        String.join (many.zipIdx.map fun (cause, i) => "\n    " ++ toString i ++ ": " ++ cause)
  "Error: " ++ message ++ listed ++ "\n"

def failureCauses : Failure → List String
  | .connection fault => fault.message :: fault.causes
  | _ => []

/-- The report of a conversation, if it did not simply end. -/
def endingReport : Conversation.Ending → Option String
  | .endOfInput => none
  | .session (.completion failure) =>
    some (errorReport failure.message (failureCauses failure))
  | .session error => some (errorReport error.message [])
  | .screen reason => some (errorReport reason [])
  | .terminal reason => some (errorReport reason [reason])

/-- A note on the terminal. -/
def eventLine (e : Event) : String :=
  e.level.name ++ " " ++ e.target ++ ": " ++
    String.ofList (e.message.toList.flatMap escapeForTerminal) ++ "\n"

/-- The notes that are shown, and then the report of an error, which makes the exit code one. -/
def result (filter : LogFilter) (events : List Event) (report : Option String) (stdout : String)
    (network : Network) : Result :=
  let shown := String.join ((events.filter filter.shows).map eventLine)
  match report with
  | none => ⟨0, stdout, shown, network⟩
  | some text => ⟨1, stdout, shown ++ text, network⟩

def clientOf (settings : Settings) : Client :=
  ⟨settings.apiBaseUrl, settings.apiKey, settings.timeoutSecs⟩

/-- Chats with the operator at the standard input. -/
def chat (settings : Settings) (model : String) (filter : LogFilter) (noted : List Event)
    (stdin : Bytes) (network : Network) : Result :=
  let session := Session.start (.chat model) settings.maxTurns
  let record := Conversation.run (clientOf settings).model session (Screen.blank none none)
    ⟨network, []⟩ (linesOf stdin)
  let events := noted ++ .chatting model settings.apiBaseUrl :: record.events
  result filter events (endingReport record.ending) record.screen.written record.state.network

/-- Describes one image. -/
def describe (settings : Settings) (model imageUrl prompt : String) (logHttp : Bool)
    (filter : LogFilter) (noted : List Event) (network : Network) : Result :=
  let request := Request.describeImage (.vision model) imageUrl prompt
  let (outcome, answer) := Description.run (clientOf settings).model ⟨network, []⟩ request
  let observed := if logHttp then String.join answer.state.observed else ""
  let (text, report) : String × Option String := match outcome with
    | .ok text => (text ++ "\n", none)
    | .error failure => ("", some (errorReport failure.message (failureCauses failure)))
  result filter (noted ++ answer.events) report (observed ++ text) answer.state.network

/-- Runs a command line that has been understood. -/
def runArguments (args : CommandLine.Arguments) (env : Environment) (stdin : Bytes)
    (network : Network) : Result :=
  let filter := LogFilter.ofEnvironment env
  let (base, noted) := Settings.ofEnvironment env
  match args.resolve base with
  | (settings, .chat model _) => chat settings model filter noted stdin network
  | (settings, .describe model imageUrl prompt logHttp) =>
    describe settings model imageUrl prompt logHttp filter noted network

/-- Runs the program. The first word is what it was called by. -/
def run (words : List Bytes) (env : Environment) (stdin : Bytes) (network : Network) : Result :=
  let bin := CommandLine.calledBy words
  match CommandLine.parse words.tail with
  | .error (.help topic) => ⟨0, topic.text bin, "", network⟩
  | .error (.version scope) => ⟨0, scope.versionText, "", network⟩
  | .error (.fault fault) => ⟨2, "", fault.report bin, network⟩
  | .ok args => runArguments args env stdin network

end Program
end ModelChat
