/-! Labels of host names in ASCII. -/
namespace ModelChat.Http.Punycode

/-- Brings a distance into range, in at most `n` divisions; `k` counts what they are worth. -/
def scaleDown (delta k : Nat) : (n : Nat) → Nat
  | 0 => k + 36 * delta / (delta + 38)
  | n + 1 =>
    if 455 < delta then scaleDown (delta / 35) (k + 36) n else k + 36 * delta / (delta + 38)

/-- How fast the thresholds of the digits grow after a step. -/
def adapt (delta points : Nat) (first : Bool) : Nat :=
  let delta := if first then delta / 700 else delta / 2
  scaleDown (delta + delta / points) 0 delta

def digit (n : Nat) : Char :=
  Char.ofNat (if n < 26 then 97 + n else 22 + n)

/-- A number in digits whose base depends on their place, in at most `bound` digits. -/
def digits (bias q k : Nat) : (bound : Nat) → List Char
  | 0 => [digit q]
  | n + 1 =>
    let t := min 26 (max 1 (k - bias))
    if q < t then [digit q]
    else digit (t + (q - t) % (36 - t)) :: digits bias ((q - t) / (36 - t)) (k + 36) n

/-- The state between two insertions. -/
structure State where
  delta : Nat
  bias : Nat
  /-- How many characters have been handled. -/
  handled : Nat
  basic : Nat
  /-- The text so far, backwards. -/
  out : List Char

/-- Accounts for one place of the label while the code point `n` is inserted. -/
def place (n : Nat) (st : State) (c : Char) : State :=
  if c.toNat < n then { st with delta := st.delta + 1 }
  else if c.toNat = n then
    { st with
      delta := 0
      bias := adapt st.delta (st.handled + 1) (st.handled = st.basic)
      handled := st.handled + 1
      out := (digits st.bias st.delta 36 st.delta).reverse ++ st.out }
  else st

/-- Inserts the code points in ascending order; `n` is the least one not handled yet. -/
def insertAll (label : List Char) (n : Nat) (st : State) : List Nat → State
  | [] => st
  | m :: ms =>
    let st := { st with delta := st.delta + (m - n) * (st.handled + 1) }
    let st := label.foldl (place m) st
    insertAll label (m + 1) { st with delta := st.delta + 1 } ms

/-- What a label begins with that is coded in ASCII. -/
def mark : List Char := "xn--".toList

/-- The ASCII form of a label. One that is ASCII already stays as it is. -/
def encode (label : List Char) : List Char :=
  let basic := label.filter (·.toNat < 128)
  let others := ((label.map Char.toNat).filter (128 ≤ ·)).mergeSort.eraseDups
  if others.isEmpty then label
  else
    let start : State := ⟨0, 72, basic.length, basic.length, []⟩
    let out := (insertAll label 128 start others).out.reverse
    mark ++ basic ++ (if basic.isEmpty then [] else ['-']) ++ out

/-- The value of a digit, a small letter or one of the digits after them. -/
def digitValue? (c : Char) : Option Nat :=
  if c.isLower then some (c.toNat - 97) else if c.isDigit then some (c.toNat - 22) else none

/-- Reads a number and adds it to `sum`. The next digit is at place `k` and counts `weight` times. -/
def readNumber (bias k weight sum : Nat) : List Char → Option (Nat × List Char)
  | [] => none
  | c :: cs => do
    let d ← digitValue? c
    let t := min 26 (max 1 (k - bias))
    let sum := sum + d * weight
    if d < t then some (sum, cs) else readNumber bias (k + 36) (weight * (36 - t)) sum cs

/-- Inserts characters into a label as the numbers say, at most `bound` of them. `n` and `i` are the
code point and the place from which the next number counts. -/
def insertCoded (bias n i : Nat) (label : List Char) :
    (bound : Nat) → List Char → Option (List Char)
  | _, [] => some label
  | 0, _ => none
  | bound + 1, c :: cs => do
    let (sum, rest) ← readNumber bias 36 1 i (c :: cs)
    let points := label.length + 1
    let n := n + sum / points
    let i' := sum % points
    if n.isValidChar then
      insertCoded (adapt (sum - i) points (i = 0)) n (i' + 1) (label.insertIdx i' (.ofNat n)) bound
        rest
    else none

/-- The label that was coded, given what follows the mark. The characters of ASCII stand before the
last hyphen. -/
def decode? (code : List Char) : Option (List Char) :=
  let basic := ((code.reverse.dropWhile (· ≠ '-')).drop 1).reverse
  let numbers := if basic.isEmpty then code else code.drop (basic.length + 1)
  if basic.any (128 ≤ ·.toNat) then none else insertCoded 72 128 0 basic numbers.length numbers

end ModelChat.Http.Punycode
