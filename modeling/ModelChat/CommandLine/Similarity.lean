/-! How alike two names are, to guess what a mistyped one was meant to be. -/
namespace ModelChat.CommandLine

/-- The first place of `b` within the window that holds `c` and is not taken yet. -/
def findMatch (c : Char) (low high : Nat) (taken : List Nat) (b : List Char) : Option Nat :=
  (b.zipIdx.find? fun (d, j) => low ≤ j && j < high && d = c && !taken.contains j).map (·.2)

/-- Pairs the characters of `a` with equal ones of `b` not further than `reach` away. -/
def pairUp (reach : Nat) (a b : List Char) : List (Char × Nat) :=
  (a.zipIdx.foldl (fun (found : List (Char × Nat)) (c, i) =>
    match findMatch c (i - reach) (i + reach + 1) (found.map (·.2)) b with
    | some j => found ++ [(c, j)]
    | none => found) [])

/-- The mean of three shares: of each name that is matched, and of matches in the same order. -/
def similarity (a b : String) : Float :=
  let (a, b) := (a.toList, b.toList)
  let found := pairUp (max a.length b.length / 2 - 1) a b
  let places := (found.map (·.2)).mergeSort
  let inOrder := places.filterMap (b[·]?)
  let swapped := ((found.zip inOrder).filter fun ((c, _), d) => c ≠ d).length / 2
  let share (part whole : Nat) : Float := part.toFloat / whole.toFloat
  let k := found.length
  if a.isEmpty ∧ b.isEmpty then 1
  else if k = 0 then 0
  else (share k a.length + share k b.length + share (k - swapped) k) / 3

/-- The names that are more alike than seven parts in ten, the likest last. -/
def similar (name : String) (names : List String) : List String :=
  let scored := (names.map fun n => (similarity name n, n)).filter fun (score, _) => 0.7 < score
  (scored.mergeSort fun x y => x.1 ≤ y.1).map (·.2)

end ModelChat.CommandLine
