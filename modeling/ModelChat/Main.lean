import ModelChat.Program

/-! The command line. -/
open ModelChat

/-- The environment variables the program knows. -/
def knownVariables : List String :=
  ["LMCHAT_API_BASE_URL", "LMCHAT_API_KEY", "LMCHAT_TIMEOUT_SECS", "LMCHAT_MAX_TURNS", "RUST_LOG"]

/-- No transport is linked in, so no server can be reached. -/
def noNetwork : Http.Network :=
  ⟨.blocked, [], []⟩

def main (args : List String) : IO UInt32 := do
  let set ← knownVariables.filterMapM fun name => do
    return (← IO.getEnv name).map fun value => (name, Text.Utf8.encode value)
  let stdin ← (← IO.getStdin).readBinToEnd
  let words := (CommandLine.programName :: args).map Text.Utf8.encode
  let result := Program.run words (set.lookup ·) stdin.toList noNetwork
  (← IO.getStdout).putStr result.stdout
  (← IO.getStderr).putStr result.stderr
  return .ofNat result.exitCode
