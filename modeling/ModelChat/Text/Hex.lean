import ModelChat.Text.Utf8

/-! Hexadecimal digits. -/
namespace ModelChat.Text

/-- The value of a digit in either case. -/
def hexValue (b : UInt8) : Option Nat :=
  let v := b.toNat
  if 0x30 ≤ v ∧ v ≤ 0x39 then some (v - 0x30)
  else if 0x61 ≤ v ∧ v ≤ 0x66 then some (v - 0x61 + 10)
  else if 0x41 ≤ v ∧ v ≤ 0x46 then some (v - 0x41 + 10)
  else none

def isHexDigit (c : Char) : Bool :=
  c.toNat < 128 && (hexValue (.ofNat c.toNat)).isSome

/-- The number written with digits of a base; a character that is no digit counts as zero. -/
def numberOf (base : Nat) (cs : List Char) : Nat :=
  cs.foldl (fun n c => n * base + (hexValue (.ofNat c.toNat)).getD 0) 0

end ModelChat.Text
