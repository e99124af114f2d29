import ModelChat.Decimal.Shortest
import ModelChat.Json.Basic

/-! Writing JSON values. -/
namespace ModelChat.Json
open Decimal

/-- Decimal exponents from -5 to 15 are written positionally, with at least one digit after the
point; others after `e` with their sign. Numbers that are not finite are null. -/
def realText (x : Float) : List Char :=
  match Binary.ofFloat? x with
  | none => "null".toList
  | some b =>
    let sign := if b.negative then ['-'] else []
    if b.significand = 0 then sign ++ ['0', '.', '0']
    else
      let d := b.shortest
      let digits := Nat.toDigits 10 d.digits
      let lead : Int := d.exponent + digits.length - 1
      sign ++
        if lead < -5 ∨ 15 < lead then
          let point := if digits.length = 1 then [] else ['.']
          let exponent := (if lead < 0 then '-' else '+') :: Nat.toDigits 10 lead.natAbs
          digits.take 1 ++ point ++ digits.drop 1 ++ 'e' :: exponent
        else if 0 ≤ d.exponent then
          digits ++ List.replicate d.exponent.toNat '0' ++ ['.', '0']
        else if 0 ≤ lead then
          digits.take (lead.toNat + 1) ++ '.' :: digits.drop (lead.toNat + 1)
        else '0' :: '.' :: List.replicate (-lead - 1).toNat '0' ++ digits

def integerText (i : Int) : List Char :=
  if i < 0 then '-' :: Nat.toDigits 10 i.natAbs else Nat.toDigits 10 i.natAbs

/-- Quotes, backslashes and control characters below the blank are escaped. -/
def escapeChar (c : Char) : List Char :=
  match c with
  | '"' => ['\\', '"']
  | '\\' => ['\\', '\\']
  | '\x08' => ['\\', 'b']
  | '\x0c' => ['\\', 'f']
  | '\n' => ['\\', 'n']
  | '\r' => ['\\', 'r']
  | '\t' => ['\\', 't']
  | c =>
    if c.toNat < 0x20 then
      ['\\', 'u', '0', '0', Nat.digitChar (c.toNat / 16), Nat.digitChar (c.toNat % 16)]
    else [c]

def stringText (s : String) : List Char :=
  '"' :: s.toList.flatMap escapeChar ++ ['"']

def boolText (b : Bool) : List Char :=
  if b then "true".toList else "false".toList

mutual

/-- The text without blanks, members in the order of the value. -/
def compactText : Json → List Char
  | .null => "null".toList
  | .bool b => boolText b
  | .integer i => integerText i
  | .real x => realText x
  | .string s => stringText s
  | .array [] => ['[', ']']
  | .array (v :: vs) => '[' :: compactText v ++ compactItems vs ++ [']']
  | .object [] => ['\x7b', '\x7d']
  | .object ((n, v) :: ms) =>
    '\x7b' :: stringText n ++ ':' :: compactText v ++ compactMembers ms ++ ['\x7d']

def compactItems : List Json → List Char
  | [] => []
  | v :: vs => ',' :: compactText v ++ compactItems vs

def compactMembers : List (String × Json) → List Char
  | [] => []
  | (n, v) :: ms => ',' :: stringText n ++ ':' :: compactText v ++ compactMembers ms

end

/-- A line break and two blanks for each bracket around the place. -/
def breakLine (depth : Nat) : List Char :=
  '\n' :: List.replicate (2 * depth) ' '

mutual

/-- The text with every item and member on a line of its own. -/
def prettyText (depth : Nat) : Json → List Char
  | .null => "null".toList
  | .bool b => boolText b
  | .integer i => integerText i
  | .real x => realText x
  | .string s => stringText s
  | .array [] => ['[', ']']
  | .array (v :: vs) =>
    '[' :: breakLine (depth + 1) ++ prettyText (depth + 1) v ++ prettyItems (depth + 1) vs
      ++ breakLine depth ++ [']']
  | .object [] => ['\x7b', '\x7d']
  | .object ((n, v) :: ms) =>
    '\x7b' :: breakLine (depth + 1) ++ stringText n ++ ':' :: ' ' :: prettyText (depth + 1) v
      ++ prettyMembers (depth + 1) ms ++ breakLine depth ++ ['\x7d']

def prettyItems (depth : Nat) : List Json → List Char
  | [] => []
  | v :: vs => ',' :: breakLine depth ++ prettyText depth v ++ prettyItems depth vs

def prettyMembers (depth : Nat) : List (String × Json) → List Char
  | [] => []
  | (n, v) :: ms =>
    ',' :: breakLine depth ++ stringText n ++ ':' :: ' ' :: prettyText depth v
      ++ prettyMembers depth ms

end

def compact (v : Json) : String :=
  String.ofList (compactText v)

def pretty (v : Json) : String :=
  String.ofList (prettyText 0 v)

end ModelChat.Json
