import ModelChat.Json.Basic
import ModelChat.Json.Fault

/-! Numbers in JSON texts. -/
namespace ModelChat.Json

/-- The written form of a number. An absent fraction has no digits. -/
structure Numeral where
  negative : Bool
  whole : List Nat
  fraction : List Nat
  exponent : Option (Bool × List Nat)
  deriving DecidableEq, Repr

def isDigit (c : UInt8) : Bool :=
  0x30 ≤ c && c ≤ 0x39

/-- The digits at the front, and the rest. -/
def spanDigits : Bytes → List Nat × Bytes
  | [] => ([], [])
  | c :: s =>
    if isDigit c then
      let (ds, rest) := spanDigits s
      ((c.toNat - 0x30) :: ds, rest)
    else ([], c :: s)

/-- One digit zero, or digits that do not start with zero. -/
def readWhole : Reader (List Nat)
  | [] => .error (faultBefore .endInValue [])
  | c :: s =>
    if c = '0'.toUInt8 then
      match s with
      | d :: t => if isDigit d then .error (faultHere .badNumber (d :: t)) else .ok ([0], s)
      | [] => .ok ([0], [])
    else if isDigit c then .ok (spanDigits (c :: s))
    else .error (faultBefore .badNumber s)

def readFraction : Reader (List Nat)
  | [] => .ok ([], [])
  | c :: s =>
    if c = '.'.toUInt8 then
      match spanDigits s with
      | ([], []) => .error (faultHere .endInValue [])
      | ([], rest) => .error (faultHere .badNumber rest)
      | read => .ok read
    else .ok ([], c :: s)

/-- The sign of an exponent: whether it is negative. -/
def readSign : Bytes → Bool × Bytes
  | [] => (false, [])
  | c :: s =>
    if c = '+'.toUInt8 then (false, s) else if c = '-'.toUInt8 then (true, s) else (false, c :: s)

def readExponent : Reader (Option (Bool × List Nat))
  | [] => .ok (none, [])
  | c :: s =>
    if c = 'e'.toUInt8 ∨ c = 'E'.toUInt8 then
      let (negative, s) := readSign s
      match s with
      | [] => .error (faultBefore .endInValue [])
      | d :: t =>
        if isDigit d then
          let (ds, rest) := spanDigits (d :: t)
          .ok (some (negative, ds), rest)
        else .error (faultBefore .badNumber t)
    else .ok (none, c :: s)

/-- Reads a numeral whose sign has been read. -/
def readNumeral (negative : Bool) (s : Bytes) : Except Fault (Numeral × Bytes) := do
  let (whole, s) ← readWhole s
  let (fraction, s) ← readFraction s
  let (exponent, s) ← readExponent s
  return (⟨negative, whole, fraction, exponent⟩, s)

/-- Appends digits to a number while it stays below `2 ^ 64`; also gives how many did not fit. -/
def appendDigits (n : Nat) : List Nat → Nat × Nat
  | [] => (n, 0)
  | d :: ds => if n * 10 + d < Nat.pow 2 64 then appendDigits (n * 10 + d) ds else (n, ds.length + 1)

/-- The value of an exponent below `2 ^ 31`, or how many digits follow the one that passes it. -/
def exponentOf (n : Nat) : List Nat → Except Nat Nat
  | [] => .ok n
  | d :: ds => if n * 10 + d < Nat.pow 2 31 then exponentOf (n * 10 + d) ds else .error ds.length

def powerOfTen (k : Nat) : Float :=
  .ofScientific 1 false k

/-- Multiplies by a power of ten in steps of at most `10 ^ 308`, or gives nothing when the result
is too large. -/
def scale (x : Float) (e : Int) : Option Float :=
  if 0 ≤ e then
    if e ≤ 308 then
      let y := x * powerOfTen e.toNat
      if y.isInf then none else some y
    else if x == 0 then some x else none
  else if -308 ≤ e then some (x / powerOfTen (-e).toNat)
  else if x == 0 then some x
  else scale (x / powerOfTen 308) (e + 308)
termination_by (-e).toNat

/-- The nearest floating-point number of a number below `2 ^ 64`. -/
def floatOfNat (n : Nat) : Float :=
  (UInt64.ofNat n).toFloat

def withSign (negative : Bool) (x : Float) : Float :=
  if negative then -x else x

/-- The value of a numeral, or how many bytes before its end it proves too large. Digits that do
not fit into 64 bits count only by their place. Minus zero is a real number. -/
def Numeral.value (n : Numeral) : Except Nat Json :=
  let (whole, dropped) := appendDigits 0 n.whole
  if n.fraction = [] ∧ n.exponent = none ∧ dropped = 0 then
    if !n.negative then .ok (.integer whole)
    else if whole ≠ 0 ∧ whole ≤ Nat.pow 2 63 then .ok (.integer (-whole))
    else .ok (.real (-(floatOfNat whole)))
  else
    let (significand, lost) := appendDigits whole n.fraction
    let shift : Int := dropped - (n.fraction.length - lost : Nat)
    let scaled (e : Int) : Except Nat Json :=
      match scale (floatOfNat significand) e with
      | some x => .ok (.real (withSign n.negative x))
      | none => .error 0
    match n.exponent with
    | none => scaled shift
    | some (down, ds) =>
      match exponentOf 0 ds with
      | .ok e => scaled (if down then shift - e else shift + e)
      | .error left =>
        if significand ≠ 0 ∧ !down then .error left else .ok (.real (withSign n.negative 0))

/-- Reads a number whose sign has been read. -/
def readNumber (negative : Bool) (s : Bytes) : Except Fault (Json × Bytes) := do
  let (n, rest) ← readNumeral negative s
  match n.value with
  | .ok v => .ok (v, rest)
  | .error left => .error (.placed .numberOutOfRange (rest.length + left))

end ModelChat.Json
