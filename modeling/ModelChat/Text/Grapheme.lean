import ModelChat.Text.Canonical
import ModelChat.Text.Grapheme.Tables

/-! Visible characters. One may take several characters of a text: a letter with its marks, the
parts of a Korean syllable, a picture made of others, the two letters of a flag. -/
namespace ModelChat.Text.Grapheme

/-- What a character has to do with its neighbours. -/
inductive Role where
  | control
  | extender
  /-- Extends the character before it, and may join two pictures. -/
  | joiner
  | spacingMark
  | prepended
  | lead
  | vowel
  | trail
  /-- A Korean syllable without a trailing consonant. -/
  | openSyllable
  | closedSyllable
  | picture
  /-- One of the two letters of a flag. -/
  | regional
  | other
  deriving DecidableEq, Repr

def joiner : Char := '\u200d'
def nonJoiner : Char := '\u200c'

/-- Tables that do not overlap. -/
def tables : List (Role × Table) := [
  (.extender, extenders), (.spacingMark, spacingMarks), (.picture, pictures),
  (.control, controls), (.lead, leads), (.vowel, vowels), (.trail, trails),
  (.prepended, prepended)]

def roleOf (c : Char) : Role :=
  let v := c.toNat
  if v < 0x7F then if v < 0x20 then .control else .other
  else if c = joiner then .joiner
  else if 0x1F1E6 ≤ v ∧ v ≤ 0x1F1FF then .regional
  else match Canonical.splitSyllable? c with
    | some parts => if parts.length = 2 then .openSyllable else .closedSyllable
    | none =>
      match tables.find? fun (_, table) => table.covers c with
      | some (role, _) => role
      | none => .other

/-- Whether one part of a Korean syllable may follow another. -/
def isInSyllable : Role → Role → Bool
  | .lead, next => [.lead, .vowel, .openSyllable, .closedSyllable].contains next
  | .openSyllable, next => [.vowel, .trail].contains next
  | .vowel, next => [.vowel, .trail].contains next
  | .closedSyllable, next => next = .trail
  | .trail, next => next = .trail
  | _, _ => false

def isExtender (c : Char) : Bool :=
  let role := roleOf c
  role = .extender || role = .joiner

/-- Whether what has been read, the last character first, ends in a consonant that waits for
another one to merge with. -/
def endsInLink (before : List Char) : Bool :=
  let isPassed (c : Char) : Bool := c ≠ nonJoiner && isExtender c
  (before.takeWhile isPassed).any linkers.covers
    && (before.dropWhile isPassed).head?.any consonants.covers

/-- Whether it ends in a picture, with or without marks, and a joiner. -/
def endsInPictureLink : List Char → Bool
  | [] => false
  | c :: cs =>
    c = joiner && (cs.dropWhile (roleOf · = .extender)).head?.any (roleOf · = .picture)

/-- Whether it ends in the first letter of a flag. -/
def endsInHalfFlag (before : List Char) : Bool :=
  (before.takeWhile (roleOf · = .regional)).length % 2 = 1

/-- Whether a character belongs to the same visible character as those before it, of which the last
one comes first. -/
def continues (before : List Char) (c : Char) : Bool :=
  match before with
  | [] => false
  | last :: _ =>
    let (left, right) := (roleOf last, roleOf c)
    if last = '\r' ∧ c = '\n' then true
    else if left = .control ∨ right = .control then false
    else [.extender, .joiner, .spacingMark].contains right || left = .prepended
      || isInSyllable left right
      || (endsInLink before && consonants.covers c)
      || (right = .picture && endsInPictureLink before)
      || (right = .regional && endsInHalfFlag before)

/-- Goes on after the part of a visible character that has been read, the last character first. -/
def splitAfter (before : List Char) : List Char → List (List Char)
  | [] => [before.reverse]
  | c :: cs =>
    if continues before c then splitAfter (c :: before) cs
    else before.reverse :: splitAfter [c] cs

/-- The visible characters of a text. -/
def split : List Char → List (List Char)
  | [] => []
  | c :: cs => splitAfter [c] cs

end ModelChat.Text.Grapheme
