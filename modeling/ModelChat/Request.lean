import ModelChat.Json.Printer
import ModelChat.Message
import ModelChat.Sampling

/-! Requests to a model. -/
namespace ModelChat

/-- The whole conversation so far, with the settings for the answer. -/
structure Request where
  sampling : Sampling
  messages : List Message
  deriving Repr

namespace Request

/-- The settings stand beside the messages in one object. -/
def toJson (r : Request) : Json :=
  .object (r.sampling.members ++ [("messages", .array (r.messages.map Message.toJson))])

def text (r : Request) : String :=
  r.toJson.compact

/-- One user message: the image first, then the question. -/
def describeImage (sampling : Sampling) (imageUrl question : String) : Request :=
  ⟨sampling, [⟨.user, .parts [.imageUrl imageUrl, .text question]⟩]⟩

end Request
end ModelChat
