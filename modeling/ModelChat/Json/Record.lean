import ModelChat.Json.Skip
import ModelChat.Json.Printer
import ModelChat.Text.Quoted

/-! Reading values of a known type. -/
namespace ModelChat.Json
open Text

/-- How a report names a value. -/
def describe : Json → String
  | .null => "null"
  | .bool b => "boolean `" ++ String.ofList (boolText b) ++ "`"
  | .integer i => "integer `" ++ String.ofList (integerText i) ++ "`"
  | .real x => "floating point `" ++ String.ofList (realText x) ++ "`"
  | .string s => "string " ++ quoted s
  | .array _ => "sequence"
  | .object _ => "map"

/-- How a report offers names to choose from. -/
def offer (names : List String) : String :=
  let ticked := names.map fun n => "`" ++ n ++ "`"
  match ticked with
  | [a] => a
  | [a, b] => a ++ " or " ++ b
  | _ => "one of " ++ String.intercalate ", " ticked

/-- The fault of a value of another type than expected. A scalar is read, a bracket is not. -/
def otherType (expected : String) (c : UInt8) (s : Bytes) : Fault :=
  if c = Bracket.square.opening then
    faultBefore (.wrongType (describe (.array [])) expected) (c :: s)
  else if c = Bracket.brace.opening then
    faultBefore (.wrongType (describe (.object [])) expected) (c :: s)
  else match readScalar c s with
    | .ok (v, rest) => faultBefore (.wrongType (describe v) expected) rest
    | .error fault => fault

/-- Reads a string. -/
def readStringOr (expected : String) (s : Bytes) : Except Fault (String × Bytes) :=
  match skipBlanks s with
  | [] => .error (faultHere .endInValue [])
  | c :: s => if c = '"'.toUInt8 then readString s else .error (otherType expected c s)

/-- Reads one of several names. -/
def readName {α : Type} (names : List String) (find : String → Option α) (s : Bytes) :
    Except Fault (α × Bytes) :=
  match readStringOr "variant identifier" s with
  | .error fault => .error fault
  | .ok (name, rest) =>
    match find name with
    | some v => .ok (v, rest)
    | none => .error (faultBefore (.unknown name (offer names)) rest)

/-- Reads a number; `accept` gives the value or what is wrong with it. -/
def readNumberOr {α : Type} (expected : String) (accept : Json → Except Problem α) (s : Bytes) :
    Except Fault (α × Bytes) :=
  match skipBlanks s with
  | [] => .error (faultHere .endInValue [])
  | c :: s =>
    if c = '-'.toUInt8 ∨ isDigit c then
      match readScalar c s with
      | .error fault => .error fault
      | .ok (v, rest) =>
        match accept v with
        | .ok n => .ok (n, rest)
        | .error problem => .error (faultBefore problem rest)
    else .error (otherType expected c s)

/-- Reads at most `bound` members into a state. -/
def foldMembers {σ : Type} (step : σ → String → Reader σ) :
    Nat → Bool → σ → Bytes → Except Fault (σ × Bytes)
  | 0, _, st, s => .ok (st, s)
  | n + 1, first, st, s => do
    match ← nextName first s with
    | none => return (st, s)
    | some (name, s) =>
      let (st, s) ← step st name s
      foldMembers step n false st s

/-- Reads the value of a member that may come only once. -/
def readField {α : Type} (name : String) (known : Option α) (read : Reader α) (s : Bytes) :
    Except Fault (Option α × Bytes) :=
  match known with
  | some _ => .error (.pending (.repeated name) s)
  | none => do
    let s ← readColon s
    let (v, s) ← read s
    .ok (some v, s)

/-- Passes over the value of a member. -/
def skipField (s : Bytes) : Except Fault Bytes := do
  skipValue (← readColon s)

/-- The value of a member that has to be there. -/
def require {α : Type} (name : String) (known : Option α) (s : Bytes) : Except Fault α :=
  match known with
  | some v => .ok v
  | none => .error (.pending (.missing name) s)

/-- Reads the item at place `index` of an array that stands for a record. -/
def readItem {α : Type} (index : Nat) (expected : String) (read : Reader α) (s : Bytes) :
    Except Fault (α × Bytes) :=
  match nextItem (index = 0) s with
  | .error fault => .error fault
  | .ok none => .error (.pending (.wrongLength index expected) s)
  | .ok (some s) => read s

/-- Reads a record, given as an array of its fields in order or as an object. -/
def readRecord {α : Type} (expected : String) (asArray asObject : (room : Nat) → Reader α)
    (room : Nat) (s : Bytes) : Except Fault (α × Bytes) :=
  match skipBlanks s with
  | [] => .error (faultHere .endInValue [])
  | c :: s =>
    if c = Bracket.square.opening then
      match room with
      | 0 => .error (faultHere .tooDeep (c :: s))
      | room + 1 => enclosed .square (asArray room) s
    else if c = Bracket.brace.opening then
      match room with
      | 0 => .error (faultHere .tooDeep (c :: s))
      | room + 1 => enclosed .brace (asObject room) s
    else .error (otherType expected c s)

end ModelChat.Json
