import ModelChat.Json.Token

/-! Reading JSON texts. -/
namespace ModelChat.Json
open Text

/-- The two kinds of brackets. -/
inductive Bracket where
  | square
  | brace
  deriving DecidableEq, Repr

namespace Bracket

def opening : Bracket → UInt8
  | .square => '['.toUInt8
  | .brace => '\x7b'.toUInt8

def closing : Bracket → UInt8
  | .square => ']'.toUInt8
  | .brace => '\x7d'.toUInt8

def endProblem : Bracket → Problem
  | .square => .endInArray
  | .brace => .endInObject

def commaProblem : Bracket → Problem
  | .square => .expectedCommaOrBracket
  | .brace => .expectedCommaOrBrace

/-- Reads the closing bracket. -/
def close (b : Bracket) (s : Bytes) : Except Fault Bytes :=
  match skipBlanks s with
  | [] => .error (faultHere b.endProblem [])
  | c :: s =>
    if c = b.closing then .ok s
    else if c ≠ ','.toUInt8 then .error (faultHere .trailingCharacters (c :: s))
    else match b with
      | .brace => .error (faultHere .trailingComma (c :: s))
      | .square =>
        let rest := skipBlanks s
        if rest.head? = some b.closing then .error (faultHere .trailingComma rest)
        else .error (faultHere .trailingCharacters rest)

/-- Where a pending fault inside the brackets gets its place: after the closing bracket or, in an
array, after a comma, if one is next. -/
def settle (b : Bracket) (s : Bytes) : Bytes :=
  match skipBlanks s with
  | [] => []
  | c :: s =>
    if c = b.closing then s
    else if b = .square ∧ c = ','.toUInt8 then skipBlanks s
    else c :: s

end Bracket

/-- Reads what is in brackets, after the opening one. -/
def enclosed {α : Type} (b : Bracket) (body : Reader α) (s : Bytes) : Except Fault (α × Bytes) :=
  match body s with
  | .ok (v, s) =>
    match b.close s with
    | .ok s => .ok (v, s)
    | .error fault => .error fault
  | .error (.pending problem s) => .error (faultBefore problem (b.settle s))
  | .error fault => .error fault

/-- Goes to the next item of an array, if there is one. -/
def nextItem (first : Bool) (s : Bytes) : Except Fault (Option Bytes) :=
  match skipBlanks s with
  | [] => .error (faultHere .endInArray [])
  | c :: s =>
    if c = ']'.toUInt8 then .ok none
    else if first then .ok (some (c :: s))
    else if c ≠ ','.toUInt8 then .error (faultHere .expectedCommaOrBracket (c :: s))
    else match skipBlanks s with
      | [] => .error (faultHere .endInValue [])
      | c :: s =>
        if c = ']'.toUInt8 then .error (faultHere .trailingComma (c :: s)) else .ok (some (c :: s))

/-- Reads the next name of an object, if there is one. -/
def nextName (first : Bool) (s : Bytes) : Except Fault (Option (String × Bytes)) :=
  match skipBlanks s with
  | [] => .error (faultHere .endInObject [])
  | c :: s =>
    if c = '\x7d'.toUInt8 then .ok none
    else if first then
      if c = '"'.toUInt8 then (readString s).map some
      else .error (faultHere .nameNotString (c :: s))
    else if c ≠ ','.toUInt8 then .error (faultHere .expectedCommaOrBrace (c :: s))
    else match skipBlanks s with
      | [] => .error (faultHere .endInValue [])
      | c :: s =>
        if c = '"'.toUInt8 then (readString s).map some
        else if c = '\x7d'.toUInt8 then .error (faultHere .trailingComma (c :: s))
        else .error (faultHere .nameNotString (c :: s))

/-- Reads the colon after a name. -/
def readColon (s : Bytes) : Except Fault Bytes :=
  match skipBlanks s with
  | [] => .error (faultHere .endInObject [])
  | c :: s => if c = ':'.toUInt8 then .ok s else .error (faultHere .expectedColon (c :: s))

/-- Reads at most `bound` items. -/
def readItems {α : Type} (item : Reader α) : Nat → Bool → Bytes → Except Fault (List α × Bytes)
  | 0, _, s => .ok ([], s)
  | n + 1, first, s => do
    match ← nextItem first s with
    | none => return ([], s)
    | some s =>
      let (v, s) ← item s
      let (vs, s) ← readItems item n false s
      return (v :: vs, s)

/-- Reads at most `bound` members. -/
def readMembers {α : Type} (value : Reader α) :
    Nat → Bool → Bytes → Except Fault (List (String × α) × Bytes)
  | 0, _, s => .ok ([], s)
  | n + 1, first, s => do
    match ← nextName first s with
    | none => return ([], s)
    | some (name, s) =>
      let s ← readColon s
      let (v, s) ← value s
      let (ms, s) ← readMembers value n false s
      return ((name, v) :: ms, s)

/-- Reads a value with at most `room` brackets around any part of it. `bound` is at least the
number of bytes. -/
def readValue (bound : Nat) : (room : Nat) → Reader Json
  | 0, s =>
    match skipBlanks s with
    | [] => .error (faultHere .endInValue [])
    | c :: s =>
      if c = Bracket.square.opening ∨ c = Bracket.brace.opening then
        .error (faultHere .tooDeep (c :: s))
      else readScalar c s
  | room + 1, s =>
    match skipBlanks s with
    | [] => .error (faultHere .endInValue [])
    | c :: s =>
      if c = Bracket.square.opening then
        (enclosed .square (readItems (readValue bound room) bound true) s).map
          fun (items, s) => (Json.array items, s)
      else if c = Bracket.brace.opening then
        (enclosed .brace (readMembers (readValue bound room) bound true) s).map
          fun (members, s) => (Json.object members, s)
      else readScalar c s

/-- How deep brackets may nest. -/
def maxDepth : Nat := 127

/-- Reads a whole text with a given reader. -/
def readText {α : Type} (read : (bound room : Nat) → Reader α) (s : Bytes) : Except Fault α :=
  match read s.length maxDepth s with
  | .error fault => .error fault
  | .ok (v, rest) =>
    match skipBlanks rest with
    | [] => .ok v
    | rest => .error (faultHere .trailingCharacters rest)

/-- Reads a JSON text. -/
def parse (s : Bytes) : Except Fault Json :=
  readText readValue s

end ModelChat.Json
