import ModelChat.Program

/-! What a command line asks for, and with which settings it is carried out: flags count more than
variables, and these more than defaults. -/
namespace ModelChat
open Text Http

namespace Settings

theorem fst_readVariable {α : Type} (read : String → Option α) (env : Environment)
    (name : String) : (readVariable read env name).1 = (lookup env name).bind read := by
  unfold readVariable
  cases hvalue : lookup env name with
  | none => rfl
  | some s => cases hread : read s <;> simp [hread]

/-- What the environment says; the rest is by default. -/
theorem fst_ofEnvironment (env : Environment) : (ofEnvironment env).1 =
    { apiBaseUrl := (lookup env "LMCHAT_API_BASE_URL").getD defaultApiBaseUrl
      apiKey := (lookup env "LMCHAT_API_KEY").getD defaultApiKey
      timeoutSecs := ((lookup env "LMCHAT_TIMEOUT_SECS").bind wordOf).getD defaultTimeoutSecs
      maxTurns := (lookup env "LMCHAT_MAX_TURNS").bind limitOf } := by
  simp only [ofEnvironment, ← fst_readVariable]

/-- The settings of a run: what a flag gives counts most, then what a variable gives that can be
read, then the default. -/
structure Resolved (args : CommandLine.Arguments) (env : Environment) (maxTurns : Option Limit)
    (settings : Settings) : Prop where
  apiBaseUrl : settings.apiBaseUrl =
    (args.apiBaseUrl.or (lookup env "LMCHAT_API_BASE_URL")).getD defaultApiBaseUrl
  apiKey : settings.apiKey = (args.apiKey.or (lookup env "LMCHAT_API_KEY")).getD defaultApiKey
  timeoutSecs : settings.timeoutSecs =
    ((lookup env "LMCHAT_TIMEOUT_SECS").bind wordOf).getD defaultTimeoutSecs
  maxTurns : settings.maxTurns = maxTurns.or ((lookup env "LMCHAT_MAX_TURNS").bind limitOf)

end Settings

namespace CommandLine

/-- What is asked for. Nothing means a chat. -/
def Arguments.chosen (a : Arguments) : Command :=
  a.command.getD (.chat Conversation.defaultModel none)

/-- The limit that a command brings along. -/
def Command.maxTurns : Command → Option Limit
  | .chat _ maxTurns => maxTurns
  | .describe .. => none

theorem Arguments.resolved (a : Arguments) (env : Environment) :
    Settings.Resolved a env a.chosen.maxTurns (a.resolve (Settings.ofEnvironment env).1).1 := by
  have hflag (given found : Option String) (default : String) :
      given.getD (found.getD default) = (given.or found).getD default := by
    cases given <;> rfl
  have hchosen : a.command.getD (.chat Conversation.defaultModel none) = a.chosen := rfl
  rw [Settings.fst_ofEnvironment]
  unfold resolve
  simp only [hchosen]
  match hcommand : a.chosen with
  | .chat model (some limit) => exact ⟨hflag _ _ _, hflag _ _ _, rfl, rfl⟩
  | .chat model none => exact ⟨hflag _ _ _, hflag _ _ _, rfl, rfl⟩
  | .describe .. => exact ⟨hflag _ _ _, hflag _ _ _, rfl, rfl⟩

end CommandLine

namespace Program

end Program
end ModelChat
