import ModelChat.Text.Split

/-! Lines of a text. -/
namespace ModelChat.Text

/-- Splits at every line feed. A text that ends in one has an empty last segment. -/
def segments (cs : List Char) : List (List Char) :=
  split (· = '\n') cs

/-- Drops one carriage return from the end. -/
def dropReturn (cs : List Char) : List Char :=
  if cs.getLast? = some '\r' then cs.dropLast else cs

/-- A segment that a line feed ended loses one carriage return; the last one is a line as it
stands, unless it is empty. -/
def lineChars : List (List Char) → List (List Char)
  | [] => []
  | [last] => if last.isEmpty then [] else [last]
  | seg :: segs => dropReturn seg :: lineChars segs

/-- The lines of a text, without their ends. -/
def lines (s : String) : List String :=
  (lineChars (segments s.toList)).map String.ofList

end ModelChat.Text
