import ModelChat.Decimal.Natural
import ModelChat.Log
import ModelChat.Text.Utf8
import ModelChat.Transcript

/-! Settings of the program, from the environment or by default. -/
namespace ModelChat
open Text Decimal

structure Settings where
  apiBaseUrl : String
  apiKey : String
  timeoutSecs : Nat
  maxTurns : Option Limit
  deriving DecidableEq, Repr

/-- The values of the environment variables that are set. -/
abbrev Environment := String → Option Bytes

namespace Settings

def defaultApiBaseUrl : String := "http://localhost:1234/v1/"
def defaultApiKey : String := "EMPTY"
def defaultTimeoutSecs : Nat := 60 * 10

/-- The text of a variable. One that is not UTF-8 counts as unset. -/
def lookup (env : Environment) (name : String) : Option String :=
  (env name).bind Utf8.decode?

/-- A number that may have any value of 64 bits. -/
def wordOf (s : String) : Option Nat :=
  (readNatural maxWord s).toOption

/-- A number that is not zero. -/
def limitOf (s : String) : Option Limit :=
  (wordOf s).bind Limit.ofNat?

/-- Reads a variable; a value that cannot be used is noted and counts as unset. -/
def readVariable {α : Type} (read : String → Option α) (env : Environment) (name : String) :
    Option α × List Event :=
  match lookup env name with
  | none => (none, [])
  | some s =>
    match read s with
    | some v => (some v, [])
    | none => (none, [.ignored s name])

def ofEnvironment (env : Environment) : Settings × List Event :=
  let (timeoutSecs, noted) := readVariable wordOf env "LMCHAT_TIMEOUT_SECS"
  let (maxTurns, noted') := readVariable limitOf env "LMCHAT_MAX_TURNS"
  ({ apiBaseUrl := (lookup env "LMCHAT_API_BASE_URL").getD defaultApiBaseUrl
     apiKey := (lookup env "LMCHAT_API_KEY").getD defaultApiKey
     timeoutSecs := timeoutSecs.getD defaultTimeoutSecs
     maxTurns }, noted ++ noted')

end Settings
end ModelChat
