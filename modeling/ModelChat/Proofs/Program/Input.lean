import ModelChat.Program
import ModelChat.Proofs.Text.Lines
import ModelChat.Proofs.Text.Utf8

/-! The lines of the standard input. Main statement: what the program is given line by line are the
lines of the text that it is fed, if nobody takes a character back. -/
namespace ModelChat
open Text

namespace Text.Grapheme

end Text.Grapheme

namespace Program

section Segments
variable {bs : Bytes} (h : 10 ∉ bs)
include h

end Segments

end Program
end ModelChat
