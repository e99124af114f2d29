import ModelChat.Http.HostName.Direction
import ModelChat.Http.HostName.Joining
import ModelChat.Http.HostName.Mapping
import ModelChat.Http.Punycode
import ModelChat.Text.Mark
import ModelChat.Text.Split

/-! Host names of all scripts and their form in ASCII. -/
namespace ModelChat.Http
open Text

namespace HostName

/-- The label that a label in ASCII stands for. What is coded has to need it and to be in composed
form already. -/
def decodeLabel? (label : List Char) : Option (List Char) :=
  if !Punycode.mark.isPrefixOf label then some label
  else do
    let cs ← Punycode.decode? (label.drop Punycode.mark.length)
    if cs.all (·.toNat < 128) ∨ cs.any (fun c => meaning? c ≠ some [c]) then none
    else if Canonical.normalize cs ≠ cs then none
    else some cs

/-- A label does not begin with a mark, and its joiners are in their places. -/
def isLabel (cs : List Char) : Bool :=
  !cs.head?.any isMark && joinersFit [] cs

/-- The labels of a name with every character in its final form. -/
def labels? (cs : List Char) : Option (List (List Char)) := do
  let meanings ← cs.mapM meaning?
  (split (· = '.') (Canonical.normalize meanings.flatten)).mapM decodeLabel?

/-- The form of a name in ASCII. -/
def toAscii? (cs : List Char) : Option (List Char) := do
  let labels ← labels? cs
  let directions := labels.map (·.map Direction.of)
  if !labels.all isLabel then none
  else if directions.any (·.any Direction.isRight) ∧ !directions.all Direction.isOrdered then none
  else some (['.'].intercalate (labels.map Punycode.encode))

end HostName
end ModelChat.Http
