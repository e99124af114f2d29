import ModelChat.Json.Reader

/-! Passing over values nobody asked for. Only their form is checked, and brackets may nest
without limit. -/
namespace ModelChat.Json
open Text

/-- Drops the digits at the front. -/
def dropDigits (s : Bytes) : Bytes :=
  s.dropWhile isDigit

def startsWithDigit (s : Bytes) : Bool :=
  s.head?.any isDigit

def skipWhole : Bytes → Except Fault Bytes
  | [] => .error (faultBefore .badNumber [])
  | c :: s =>
    if c = '0'.toUInt8 then
      if startsWithDigit s then .error (faultHere .badNumber s) else .ok s
    else if isDigit c then .ok (dropDigits s)
    else .error (faultBefore .badNumber s)

def skipFraction : Bytes → Except Fault Bytes
  | [] => .ok []
  | c :: s =>
    if c = '.'.toUInt8 then
      if startsWithDigit s then .ok (dropDigits s) else .error (faultHere .badNumber s)
    else .ok (c :: s)

def skipExponent : Bytes → Except Fault Bytes
  | [] => .ok []
  | c :: s =>
    if c = 'e'.toUInt8 ∨ c = 'E'.toUInt8 then
      let s := (readSign s).2
      if startsWithDigit s then .ok (dropDigits s) else .error (faultBefore .badNumber s.tail)
    else .ok (c :: s)

/-- Passes over a number whose sign has been read. -/
def skipNumber (s : Bytes) : Except Fault Bytes := do
  skipExponent (← skipFraction (← skipWhole s))

/-- Passes over an escape, after its backslash. -/
def skipEscape : Bytes → Except Fault Bytes
  | [] => .error (faultBefore .endInString [])
  | c :: s =>
    if (shortEscape c).isSome then .ok s
    else if c = 'u'.toUInt8 then (readHex s).map (·.2)
    else .error (faultBefore .badEscape s)

/-- Passes over a string after its opening quote, in at most `bound` steps. -/
def skipChars : Nat → Bytes → Except Fault Bytes
  | 0, _ => .error (faultBefore .endInString [])
  | _, [] => .error (faultBefore .endInString [])
  | n + 1, c :: s =>
    if c = '"'.toUInt8 then .ok s
    else if c = '\\'.toUInt8 then
      match skipEscape s with
      | .error fault => .error fault
      | .ok s => skipChars n s
    else if c < 0x20 then .error (faultBefore .controlCharacter (c :: s))
    else skipChars n s

def skipString (s : Bytes) : Except Fault Bytes :=
  skipChars s.length s

/-- Passes over a value other than an array or object, given its first byte. -/
def skipScalar (c : UInt8) (s : Bytes) : Except Fault Bytes :=
  if c = 'n'.toUInt8 then readWord (Utf8.encode "ull") s
  else if c = 't'.toUInt8 then readWord (Utf8.encode "rue") s
  else if c = 'f'.toUInt8 then readWord (Utf8.encode "alse") s
  else if c = '-'.toUInt8 then skipNumber s
  else if isDigit c then skipNumber (c :: s)
  else if c = '"'.toUInt8 then skipString s
  else .error (faultHere .expectedValue (c :: s))

/-- Passes over a name and its colon. -/
def skipName (s : Bytes) : Except Fault Bytes :=
  match skipBlanks s with
  | [] => .error (faultHere .endInObject [])
  | c :: s =>
    if c = '"'.toUInt8 then
      match skipString s with
      | .error fault => .error fault
      | .ok s => readColon s
    else .error (faultHere .nameNotString (c :: s))

/-- Goes to the next value in brackets, past its name in an object. At the end of the brackets
gives what follows them. -/
def skipToNext (b : Bracket) (first : Bool) (s : Bytes) : Except Fault (Bool × Bytes) :=
  match skipBlanks s with
  | [] => .error (faultHere b.endProblem [])
  | c :: s =>
    if c = b.closing then .ok (true, s)
    else if !first ∧ c ≠ ','.toUInt8 then .error (faultHere b.commaProblem (c :: s))
    else
      let rest := if first then c :: s else s
      match b with
      | .square => .ok (false, rest)
      | .brace => (skipName rest).map (false, ·)

/-- Passes over the rest of what is in brackets, in at most `bound` values. -/
def skipRest (value : Bytes → Except Fault Bytes) (b : Bracket) :
    Nat → Bool → Bytes → Except Fault Bytes
  | 0, _, s => .ok s
  | n + 1, first, s => do
    match ← skipToNext b first s with
    | (true, s) => return s
    | (false, s) => skipRest value b n false (← value s)

/-- Passes over a value with at most `depth` brackets around any part of it. -/
def skipWithin (bound : Nat) : (depth : Nat) → Bytes → Except Fault Bytes
  | 0, _ => .error (faultHere .endInValue [])
  | depth + 1, s =>
    match skipBlanks s with
    | [] => .error (faultHere .endInValue [])
    | c :: s =>
      if c = Bracket.square.opening then skipRest (skipWithin bound depth) .square bound true s
      else if c = Bracket.brace.opening then skipRest (skipWithin bound depth) .brace bound true s
      else skipScalar c s

/-- Passes over a value. -/
def skipValue (s : Bytes) : Except Fault Bytes :=
  skipWithin s.length (s.length + 1) s

end ModelChat.Json
