import ModelChat.Json.Basic

/-! Settings under which a model generates text. -/
namespace ModelChat

/-- The settings that stay fixed for a whole session. -/
structure Sampling where
  model : String
  maxTokens : UInt32
  frequencyPenalty : Float
  topP : Float
  temperature : Float
  deriving Repr, BEq

namespace Sampling

/-- For chats. -/
def chat (model : String) : Sampling :=
  ⟨model, 256, 1.0, 0.1, 0.1⟩

/-- For describing an image: a short answer, always the likeliest. -/
def vision (model : String) : Sampling :=
  ⟨model, 32, 1.0, 0.1, 0.0⟩

def members (p : Sampling) : List (String × Json) := [
  ("model", .string p.model),
  ("max_tokens", .integer p.maxTokens.toNat),
  ("frequency_penalty", .real p.frequencyPenalty),
  ("top_p", .real p.topP),
  ("temperature", .real p.temperature)]

def toJson (p : Sampling) : Json :=
  .object p.members

end Sampling
end ModelChat
