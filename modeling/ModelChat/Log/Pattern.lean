/-! Patterns for the values of fields. -/
namespace ModelChat

/-- What a pattern may do next: repeat what came before, or not, as there is nothing. In a class
there is no repetition; its first character closes nothing. -/
inductive PatternPlace where
  | start
  | repeatable
  | classStart
  | inClass
  deriving DecidableEq, Repr

/-- Whether groups and classes are closed, and every repetition has something to repeat. `depth`
counts the open groups. Counted repetitions have braces, which a pattern here cannot have. -/
def isPatternFrom (depth : Nat) (place : PatternPlace) : List Char → Bool
  | [] => depth = 0 && (place = .start || place = .repeatable)
  | '\\' :: [] => false
  | '\\' :: _ :: cs =>
    match place with
    | .start => isPatternFrom depth .repeatable cs
    | .repeatable => isPatternFrom depth .repeatable cs
    | _ => isPatternFrom depth .inClass cs
  | c :: cs =>
    match place with
    | .classStart => isPatternFrom depth (if c = '^' then .classStart else .inClass) cs
    | .inClass => isPatternFrom depth (if c = ']' then .repeatable else .inClass) cs
    | place =>
      if c = '(' then isPatternFrom (depth + 1) .start cs
      else if c = ')' then 0 < depth && isPatternFrom (depth - 1) .repeatable cs
      else if c = '[' then isPatternFrom depth .classStart cs
      else if c = '|' then isPatternFrom depth .start cs
      else if c = '*' ∨ c = '+' ∨ c = '?' then
        (place = .repeatable || (c = '?' && 0 < depth)) && isPatternFrom depth .repeatable cs
      else c ≠ '\x7b' && isPatternFrom depth .repeatable cs

def isPattern (cs : List Char) : Bool :=
  isPatternFrom 0 .start cs

end ModelChat
