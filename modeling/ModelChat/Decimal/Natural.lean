/-! Whole numbers as written in flags and environment variables. -/
namespace ModelChat.Decimal

/-- Why a text is not a number up to a bound. -/
inductive NumberFault where
  | empty
  | badDigit
  | tooLarge
  deriving DecidableEq, Repr

def NumberFault.message : NumberFault → String
  | .empty => "cannot parse integer from empty string"
  | .badDigit => "invalid digit found in string"
  | .tooLarge => "number too large to fit in target type"

/-- Reads digits after `acc`; the first fault from the left is reported. -/
def readDigits (bound acc : Nat) : List Char → Except NumberFault Nat
  | [] => .ok acc
  | c :: cs =>
    if c.isDigit then
      let acc := acc * 10 + (c.toNat - '0'.toNat)
      if bound < acc then .error .tooLarge else readDigits bound acc cs
    else .error .badDigit

/-- An optional plus sign and one or more digits. -/
def readNatural (bound : Nat) (s : String) : Except NumberFault Nat :=
  match s.toList with
  | [] => .error .empty
  | [c] => if c = '+' ∨ c = '-' then .error .badDigit else readDigits bound 0 [c]
  | c :: cs => readDigits bound 0 (if c = '+' then cs else c :: cs)

/-- The largest number of 64 bits. -/
def maxWord : Nat := Nat.pow 2 64 - 1

end ModelChat.Decimal
