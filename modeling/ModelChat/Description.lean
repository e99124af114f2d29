import ModelChat.Session

/-! Asking a model about one image. -/
namespace ModelChat.Description

def defaultModel : String := "idefics2"
def defaultImageUrl : String :=
  "https://d2r55xnwy6nx47.cloudfront.net/uploads/2018/02/Ants_Lede1300.jpg"
def defaultPrompt : String := "What is shown in this image?"

/-- The reply exactly as the model gave it, end marker included. -/
def run {σ : Type} (model : Model σ) (state : σ) (request : Request) :
    Except Failure String × Answer σ :=
  let answer := model.complete state request
  (answer.outcome.map Completion.content, answer)

end ModelChat.Description
