import ModelChat.Http.HostName
import ModelChat.Http.Percent

/-! Hosts in addresses: names and numeric addresses. -/
namespace ModelChat.Http
open Text

inductive Host where
  | name (name : String)
  | ipv4 (address : Nat)
  /-- Eight numbers of 16 bits. -/
  | ipv6 (pieces : List Nat)
  deriving DecidableEq, Repr

namespace Host

/-- A part of a dotted address: hexadecimal after `0x`, octal after `0`, else decimal. -/
def ipv4Part? (cs : List Char) : Option Nat :=
  let read (base : Nat) (isDigit : Char → Bool) (digits : List Char) : Option Nat :=
    if digits.all isDigit then some (numberOf base digits) else none
  match cs with
  | [] => none
  | '0' :: 'x' :: digits => read 16 isHexDigit digits
  | '0' :: 'X' :: digits => read 16 isHexDigit digits
  | '0' :: d :: digits => read 8 (fun c => '0' ≤ c && c ≤ '7') (d :: digits)
  | digits => read 10 Char.isDigit digits

/-- The parts of a name without an empty one at the end. -/
def labels (cs : List Char) : List (List Char) :=
  let parts := split (· = '.') cs
  if parts.getLast? = some [] then parts.dropLast else parts

/-- Whether a name can only be a dotted address. -/
def endsInNumber (cs : List Char) : Bool :=
  match (labels cs).getLast? with
  | none => false
  | some last => (!last.isEmpty && last.all Char.isDigit) || (ipv4Part? last).isSome

/-- The last part of a dotted address fills all bytes the others leave. -/
def ipv4? (cs : List Char) : Option Nat := do
  let numbers ← (labels cs).mapM ipv4Part?
  let last ← numbers.getLast?
  let front := numbers.dropLast
  if 3 < front.length ∨ Nat.pow 256 (4 - front.length) ≤ last ∨ front.any (255 < ·) then none
  else
    let places := front.zipIdx.map fun (n, i) => n * Nat.pow 256 (3 - i)
    some (places.foldl (· + ·) last)

/-- Four decimal parts without leading zeros, as two pieces. -/
def dottedPieces? (cs : List Char) : Option (List Nat) := do
  let part (cs : List Char) : Option Nat :=
    if cs.isEmpty ∨ !cs.all Char.isDigit ∨ (cs.head? = some '0' ∧ 1 < cs.length) then none
    else
      let n := numberOf 10 cs
      if 255 < n then none else some n
  match ← (split (· = '.') cs).mapM part with
  | [a, b, c, d] => some [a * 256 + b, c * 256 + d]
  | _ => none

/-- Groups of hexadecimal digits; only the last may be dotted. -/
def groups? : List (List Char) → Option (List Nat)
  | [] => some []
  | [cs] =>
    if cs.contains '.' then dottedPieces? cs
    else if cs.isEmpty ∨ 4 < cs.length ∨ !cs.all isHexDigit then none
    else some [numberOf 16 cs]
  | cs :: rest =>
    if cs.isEmpty ∨ 4 < cs.length ∨ !cs.all isHexDigit then none
    else (groups? rest).map (numberOf 16 cs :: ·)

/-- Splits at the first double colon. -/
def splitDouble : List Char → Option (List Char × List Char)
  | ':' :: ':' :: rest => some ([], rest)
  | c :: rest => (splitDouble rest).map fun (a, b) => (c :: a, b)
  | [] => none

/-- The pieces of a text without a double colon; none of the empty text. -/
def side? (cs : List Char) : Option (List Nat) :=
  if cs.isEmpty then some [] else groups? (split (· = ':') cs)

/-- A double colon stands for at least one piece of zero. -/
def ipv6? (cs : List Char) : Option (List Nat) := do
  match splitDouble cs with
  | none =>
    let pieces ← side? cs
    if pieces.length = 8 then some pieces else none
  | some (left, right) =>
    if left.contains '.' then none
    let front ← side? left
    let back ← side? right
    if 7 < front.length + back.length then none
    else some (front ++ List.replicate (8 - front.length - back.length) 0 ++ back)

/-- Characters a name must not have. -/
def isForbidden (c : Char) : Bool :=
  c.toNat ≤ 0x20 || c.toNat = 0x7F || "#%/:<>?@[\\]^|".toList.contains c

/-- Characters an opaque host must not have. -/
def isForbiddenOpaque (c : Char) : Bool :=
  c.toNat = 0 || "\t\n\r #/:<>?@[\\]^|".toList.contains c

/-- The host after `[`, up to `]`. -/
def bracketed? (cs : List Char) : Option Host :=
  if cs.getLast? = some ']' then (ipv6? cs.dropLast).map ipv6 else none

/-- The host of an address whose scheme is known. -/
def parse? (cs : List Char) : Option Host :=
  match cs with
  | '[' :: rest => bracketed? rest
  | _ => do
    let text ← Utf8.decode? (Percent.decode (Utf8.encodeChars cs))
    let name ← HostName.toAscii? text.toList
    if name.isEmpty ∨ name.any isForbidden then none
    else if endsInNumber name then (ipv4? name).map ipv4
    else some (.name (String.ofList name))

/-- The host of an address whose scheme is not known, taken as it stands. -/
def parseOpaque? (cs : List Char) : Option Host :=
  match cs with
  | '[' :: rest => bracketed? rest
  | _ =>
    if cs.any isForbiddenOpaque then none
    else some (.name (Percent.encode Percent.controlSet cs))

/-- Where the first longest run of zeros starts and how long it is. -/
def longestZeros (pieces : List Nat) : Nat × Nat :=
  let runs := (List.range pieces.length).map fun i =>
    (i, ((pieces.drop i).takeWhile (· = 0)).length)
  runs.foldl (fun best run => if best.2 < run.2 then run else best) (0, 0)

def hexGroup (n : Nat) : String :=
  String.ofList (Nat.toDigits 16 n)

/-- The longest run of two or more zeros is written as a double colon. -/
def ipv6Text (pieces : List Nat) : String :=
  let (start, length) := longestZeros pieces
  let join (ns : List Nat) := String.intercalate ":" (ns.map hexGroup)
  if length < 2 then join pieces
  else join (pieces.take start) ++ "::" ++ join (pieces.drop (start + length))

def text : Host → String
  | name s => s
  | ipv4 n =>
    String.intercalate "."
      ([n / 16777216, n / 65536 % 256, n / 256 % 256, n % 256].map toString)
  | ipv6 pieces => "[" ++ ipv6Text pieces ++ "]"

end Host
end ModelChat.Http
