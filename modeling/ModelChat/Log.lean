import ModelChat.Text.Quoted

/-! What the program notes about its own work. -/
namespace ModelChat

/-- How much a note matters, from the least up. -/
inductive Level where
  | trace
  | debug
  | info
  | warn
  | error
  deriving DecidableEq, Repr

namespace Level

def name : Level → String
  | trace => "TRACE"
  | debug => "DEBUG"
  | info => "INFO"
  | warn => "WARN"
  | error => "ERROR"

def all : List Level := [trace, debug, info, warn, error]

/-- The place in the order of importance, from one. -/
def rank : Level → Nat
  | trace => 1
  | debug => 2
  | info => 3
  | warn => 4
  | error => 5

end Level

/-- One note. -/
inductive Event where
  | evicted (count : Nat)
  | requesting (url : String) (messages : Nat)
  | completed (finishReason : Option String)
  | cutOff (maxTokens : UInt32) (finishReason : Option String)
  | chatting (model url : String)
  | chatEnded (messages : Nat)
  | ignored (value name : String)
  deriving DecidableEq, Repr

namespace Event

def level : Event → Level
  | chatting .. => .info
  | ignored .. => .warn
  | _ => .debug

/-- The part of the program a note comes from, by which notes are filtered. -/
def target : Event → String
  | evicted .. => "lmchat::chat::models"
  | requesting .. => "lmchat::openai::core"
  | completed .. => "lmchat::openai::core"
  | cutOff .. => "lmchat::chat::core"
  | chatting .. => "lmchat::cli::chat"
  | chatEnded .. => "lmchat::cli::chat"
  | ignored .. => "lmchat::core::config"

/-- The one field of every note; its value is the message. -/
def field : String := "message"

def message : Event → String
  | evicted count => "Evicted " ++ toString count ++ " messages from transcript"
  | requesting url messages =>
    "Requesting completion from " ++ url ++ " with " ++ toString messages ++ " messages"
  | completed reason => "Completion finished with reason " ++ Text.quotedOption reason
  | cutOff maxTokens reason =>
    "Reply hit max_tokens=" ++ toString maxTokens.toNat ++ " (finish_reason="
      ++ Text.quotedOption reason ++ ")"
  | chatting model url => "Chatting with " ++ model ++ " at " ++ url
  | chatEnded messages => "Chat ended with " ++ toString messages ++ " messages in transcript"
  | ignored value name =>
    "Ignoring invalid value " ++ Text.quoted value ++ " for " ++ name
      ++ ", using the default"

/-- The line that shows a note. -/
def line (e : Event) : String :=
  e.level.name ++ " " ++ e.target ++ ": " ++ e.message

end Event
end ModelChat
