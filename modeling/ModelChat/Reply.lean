/-! Replies of a model as the operator sees them. A server may leave the end marker in the text;
without one the text was cut off. -/
namespace ModelChat

/-- A reply without its end marker, or a reply that was cut off. -/
inductive Reply where
  | finished (text : String)
  | truncated (text : String)
  deriving DecidableEq, Repr

namespace Reply

/-- The end markers in the order in which they are tried. -/
def endMarkers : List String := ["</s>", "<eos>"]

/-- Shown after a text that was cut off. -/
def truncationMark : String := "..."

def text : Reply → String
  | finished t => t
  | truncated t => t

def isTruncated : Reply → Bool
  | finished _ => false
  | truncated _ => true

/-- What the operator sees. -/
def display : Reply → String
  | finished t => t
  | truncated t => t ++ truncationMark

/-- The list without the given end, if it has that end. -/
def withoutEnd? (tail cs : List Char) : Option (List Char) :=
  let kept := cs.take (cs.length - tail.length)
  if kept ++ tail = cs then some kept else none

/-- The text without a marker at its end, if it has that one. -/
def withoutMarker? (raw marker : String) : Option String :=
  (withoutEnd? marker.toList raw.toList).map String.ofList

/-- Takes at most one end marker off the text. -/
def ofRaw (raw : String) : Reply :=
  match endMarkers.findSome? (withoutMarker? raw) with
  | some t => finished t
  | none => truncated raw

end Reply
end ModelChat
