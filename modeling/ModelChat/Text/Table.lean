import ModelChat.Text.Hex
import ModelChat.Text.Split

/-! Tables of characters, written in words: `41-5a` stands for the characters from U+0041 to U+005A,
and `df=73.73` gives U+00DF the two values U+0073 and U+0073. -/
namespace ModelChat.Text

/-- A run of characters and the values given to it. -/
structure Row where
  first : Nat
  last : Nat
  values : List Nat
  deriving DecidableEq, Repr

namespace Row

def numbers (separator : Char) (word : List Char) : List Nat :=
  ((split (· = separator) word).filter (!·.isEmpty)).map (numberOf 16)

/-- Reads a word; one number alone is a run of one character. -/
def ofWord (word : List Char) : Row :=
  let parts := split (· = '=') word
  let run := numbers '-' (parts.headD [])
  let first := run.headD 0
  ⟨first, run.getLastD first, numbers '.' (parts.getLastD [])⟩

/-- What a character of a run becomes. A single value belongs to the first character, and the
others follow in order. -/
def image (r : Row) (c : Char) : List Char :=
  match r.values with
  | [v] => [.ofNat (v + (c.toNat - r.first))]
  | vs => vs.map .ofNat

end Row

/-- Rows in ascending order that do not overlap. -/
abbrev Table := List Row

namespace Table

/-- Reads lines of words. -/
def ofLines (lines : List String) : Table :=
  lines.flatMap fun line => (split (· = ' ') line.toList).map Row.ofWord

/-- The row of a character. -/
def row? (t : Table) (c : Char) : Option Row :=
  match t.dropWhile (·.last < c.toNat) with
  | r :: _ => if r.first ≤ c.toNat then some r else none
  | [] => none

def covers (t : Table) (c : Char) : Bool :=
  (t.row? c).isSome

end Table
end ModelChat.Text
