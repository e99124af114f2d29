import Mathlib.Data.List.Basic
import ModelChat.Proofs.Conversation.Script
import ModelChat.Proofs.Program.Arguments
import ModelChat.Proofs.Program.Input

/-! Chats as the program holds them. Main statement: a run of the program is a conversation with a
new session, over the lines of its input and with the settings that count. -/
namespace ModelChat
open Text Http

namespace Conversation
variable {σ : Type} (model : Model σ)

end Conversation

namespace Program

section Chat
variable {stdin : String} {ls : List String} (hlines : HasLines ls stdin)
  (hstdin : '\x08' ∉ stdin.toList)
include hlines hstdin

end Chat

end Program
end ModelChat
