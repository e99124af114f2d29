/-! Lists in parts. -/
namespace ModelChat.Text

/-- Splits at every separator; there is always at least one part. -/
def split {α : Type} (isSep : α → Bool) : List α → List (List α)
  | [] => [[]]
  | c :: cs =>
    if isSep c then [] :: split isSep cs
    else match split isSep cs with
      | [] => [[c]]
      | part :: parts => (c :: part) :: parts

end ModelChat.Text
