import ModelChat.Text.Canonical.Tables

/-! Texts that look the same in one form: letters and marks composed as far as they can be, with
the marks in a fixed order. -/
namespace ModelChat.Text.Canonical

/-- The class of a mark; marks of different classes may stand in any order. Letters have class
zero. -/
def classOf (c : Char) : Nat :=
  match classes.row? c with
  | some row => row.values.headD 0
  | none => 0

/-- Korean syllables are numbered by their parts: a leading consonant, a vowel and perhaps a
trailing consonant, of which there are this many. -/
def vowelCount : Nat := 21
def trailCount : Nat := 28

def firstLead : Nat := 0x1100
def leadCount : Nat := 19
def firstVowel : Nat := 0x1161
/-- One less than the first trailing consonant. -/
def noTrail : Nat := 0x11A7
def firstSyllable : Nat := 0xAC00
def syllableCount : Nat := leadCount * vowelCount * trailCount

/-- The parts of a Korean syllable. -/
def splitSyllable? (c : Char) : Option (List Char) :=
  let n := c.toNat - firstSyllable
  if c.toNat < firstSyllable ∨ syllableCount ≤ n then none
  else
    let lead := firstLead + n / (vowelCount * trailCount)
    let vowel := firstVowel + n / trailCount % vowelCount
    let trail := if n % trailCount = 0 then [] else [noTrail + n % trailCount]
    some ((lead :: vowel :: trail).map .ofNat)

/-- The Korean syllable made of a leading consonant and a vowel, or of a syllable without a trailing
consonant and such a consonant. -/
def joinSyllable? (a b : Char) : Option Char :=
  let lead := a.toNat - firstLead
  let vowel := b.toNat - firstVowel
  let syllable := a.toNat - firstSyllable
  let trail := b.toNat - noTrail
  if firstLead ≤ a.toNat ∧ lead < leadCount ∧ firstVowel ≤ b.toNat ∧ vowel < vowelCount then
    some (.ofNat (firstSyllable + (lead * vowelCount + vowel) * trailCount))
  else if firstSyllable ≤ a.toNat ∧ syllable < syllableCount ∧ syllable % trailCount = 0
      ∧ noTrail < b.toNat ∧ trail < trailCount then
    some (.ofNat (a.toNat + trail))
  else none

/-- The character composed of two. -/
def join? (a b : Char) : Option Char :=
  match joinSyllable? a b with
  | some c => some c
  | none => (composites.find? (·.values = [a.toNat, b.toNat])).map fun row => .ofNat row.first

/-- How often what a character is composed of can be composed itself. -/
def depth : Nat := 3

/-- The parts of a character that have no parts themselves, in at most `n` steps. -/
def partsWithin : (n : Nat) → Char → List Char
  | 0, c => [c]
  | n + 1, c =>
    match splitSyllable? c with
    | some cs => cs
    | none =>
      match composites.row? c <|> variants.row? c with
      | some row => (row.image c).flatMap (partsWithin n)
      | none => [c]

/-- Puts a character before others, past the marks of lower class. -/
def insert (c : Char) : List Char → List Char
  | [] => [c]
  | d :: ds =>
    if 0 < classOf d ∧ classOf d < classOf c then d :: insert c ds else c :: d :: ds

def decompose (cs : List Char) : List Char :=
  (cs.flatMap (partsWithin depth)).foldr insert []

/-- Composes a letter with what follows it. `marks` holds the marks that could not be composed, the
last one first; one of the same or a higher class keeps others from the letter. -/
def composeWith (letter : Char) (marks : List Char) : List Char → List Char
  | [] => letter :: marks.reverse
  | c :: cs =>
    let isNext := marks.head?.all (classOf · < classOf c)
    match if isNext then join? letter c else none with
    | some d => composeWith d marks cs
    | none =>
      if classOf c = 0 then letter :: marks.reverse ++ composeWith c [] cs
      else composeWith letter (c :: marks) cs

/-- Composes a decomposed text. -/
def compose : List Char → List Char
  | [] => []
  | c :: cs => if classOf c = 0 then composeWith c [] cs else c :: compose cs

/-- The composed form of a text. -/
def normalize (cs : List Char) : List Char :=
  compose (decompose cs)

end ModelChat.Text.Canonical
