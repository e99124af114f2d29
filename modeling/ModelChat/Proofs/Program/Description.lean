import Mathlib.Data.List.Basic
import ModelChat.Proofs.Client.Course
import ModelChat.Proofs.CommandLine.Switch
import ModelChat.Proofs.Program.Arguments

/-! Descriptions as the program gives them. Main statement: the log of a run is printed before
everything else, and changes nothing else. -/
namespace ModelChat
open Text Http

namespace CommandLine

end CommandLine

namespace Program

section Describe
variable (settings : Settings) (model imageUrl prompt : String) (filter : LogFilter)
  (noted : List Event) (network : Network)

end Describe

section Runs
variable {words : List Bytes} {args : CommandLine.Arguments} {model imageUrl prompt : String}
  (hargs : CommandLine.parse words.tail = .ok args)
  (hdescribe : args.chosen = .describe model imageUrl prompt false)
include hargs hdescribe

end Runs

end Program
end ModelChat
