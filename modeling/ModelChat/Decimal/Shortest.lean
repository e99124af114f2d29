/-! The fewest decimal digits that read back as a given floating-point number. -/
namespace ModelChat.Decimal

/-- A nonnegative fraction in exact arithmetic. -/
structure Ratio where
  num : Nat
  den : Nat
  deriving DecidableEq, Repr

/-- The number `m * 2 ^ q`. -/
def Ratio.binary (m : Nat) (q : Int) : Ratio :=
  if 0 ≤ q then ⟨m * Nat.pow 2 q.toNat, 1⟩ else ⟨m, Nat.pow 2 (-q).toNat⟩

/-- The number `d * 10 ^ e`. -/
def Ratio.decimal (d : Nat) (e : Int) : Ratio :=
  if 0 ≤ e then ⟨d * Nat.pow 10 e.toNat, 1⟩ else ⟨d, Nat.pow 10 (-e).toNat⟩

def Ratio.lt (a b : Ratio) : Bool :=
  a.num * b.den < b.num * a.den

def Ratio.le (a b : Ratio) : Bool :=
  a.num * b.den ≤ b.num * a.den

/-- A finite number as sign, significand and binary exponent; `none` for the rest. -/
structure Binary where
  negative : Bool
  significand : Nat
  exponent : Int
  deriving DecidableEq, Repr

def Binary.ofFloat? (x : Float) : Option Binary :=
  let bits : Nat := x.toBits.toNat
  let negative := bits ≥ Nat.pow 2 63
  let biased : Nat := bits / Nat.pow 2 52 % Nat.pow 2 11
  let fraction : Nat := bits % Nat.pow 2 52
  if biased = 2047 then none
  else if biased = 0 then some ⟨negative, fraction, -1074⟩
  else some ⟨negative, Nat.pow 2 52 + fraction, Int.ofNat biased - 1075⟩

namespace Binary

/-- Half the gap to the next number below is smaller at a power of two. -/
def lower (b : Binary) : Ratio :=
  if b.significand = Nat.pow 2 52 ∧ -1074 < b.exponent then
    .binary (4 * b.significand - 1) (b.exponent - 2)
  else .binary (2 * b.significand - 1) (b.exponent - 1)

def upper (b : Binary) : Ratio :=
  .binary (2 * b.significand + 1) (b.exponent - 1)

/-- Whether a number is read as `b`: the ends of the interval go to an even significand. -/
def reads (b : Binary) (r : Ratio) : Bool :=
  if b.significand % 2 = 0 then b.lower.le r && r.le b.upper else b.lower.lt r && r.lt b.upper

/-- The largest power of ten up to `r`, at most `n` steps above the exponent `k`. -/
def climb (r : Ratio) (k : Int) : Nat → Int
  | 0 => k
  | n + 1 => if (Ratio.decimal 1 (k + 1)).le r then climb r (k + 1) n else k

/-- The place of the first decimal digit: `10 ^ k ≤ value < 10 ^ (k + 1)`. The binary digits give a
lower bound at most four steps away. -/
def leading (b : Binary) : Int :=
  let r := Ratio.binary b.significand b.exponent
  climb r ((((r.num.log2 : Int) - r.den.log2 - 1) * 30103).fdiv 100000 - 1) 4

end Binary

/-- Digits `d` and exponent `e` of the number `d * 10 ^ e`. -/
structure Digits where
  digits : Nat
  exponent : Int
  deriving DecidableEq, Repr

/-- Of the two neighbours with unit `10 ^ e`, one that reads back; of two, the nearer, and at equal
distance the even one. -/
def neighbour? (b : Binary) (e : Int) : Option Digits :=
  let r := Ratio.binary b.significand b.exponent
  let scaled : Ratio :=
    if 0 ≤ e then ⟨r.num, r.den * Nat.pow 10 e.toNat⟩ else ⟨r.num * Nat.pow 10 (-e).toNat, r.den⟩
  let below := scaled.num / scaled.den
  let above := below + 1
  let twice : Ratio := ⟨2 * scaled.num, scaled.den⟩
  let middle : Ratio := ⟨2 * below + 1, 1⟩
  match b.reads (.decimal below e), b.reads (.decimal above e) with
  | false, false => none
  | true, false => some ⟨below, e⟩
  | false, true => some ⟨above, e⟩
  | true, true =>
    if twice.lt middle then some ⟨below, e⟩
    else if middle.lt twice then some ⟨above, e⟩
    else if below % 2 = 0 then some ⟨below, e⟩ else some ⟨above, e⟩

/-- Tries `count` further unit sizes from `10 ^ e` down. -/
def search (b : Binary) (e : Int) : Nat → Digits
  | 0 => (neighbour? b e).getD ⟨0, 0⟩
  | n + 1 => (neighbour? b e).getD (search b (e - 1) n)

/-- Removes zeros from the end of the digits. -/
def Digits.trim (d : Digits) : Nat → Digits
  | 0 => d
  | n + 1 =>
    if d.digits ≠ 0 ∧ d.digits % 10 = 0 then Digits.trim ⟨d.digits / 10, d.exponent + 1⟩ n else d

/-- The shortest digits of a nonzero number; seventeen always suffice. -/
def Binary.shortest (b : Binary) : Digits :=
  (search b b.leading 17).trim 20

end ModelChat.Decimal
