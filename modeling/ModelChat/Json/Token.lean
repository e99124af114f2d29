import ModelChat.Json.Number
import ModelChat.Text.Hex

/-! Blanks, words and strings in JSON texts. -/
namespace ModelChat.Json
open Text

def isBlank (c : UInt8) : Bool :=
  c == 0x20 || c == 0x0A || c == 0x09 || c == 0x0D

def skipBlanks (s : Bytes) : Bytes :=
  s.dropWhile isBlank

/-- Reads the given bytes. -/
def readWord : Bytes → Bytes → Except Fault Bytes
  | [], s => .ok s
  | _ :: _, [] => .error (faultBefore .endInValue [])
  | w :: ws, c :: s => if c = w then readWord ws s else .error (faultBefore .expectedWord s)

/-- Four hexadecimal digits. -/
def readHex : Reader Nat
  | a :: b :: c :: d :: s =>
    match hexValue a, hexValue b, hexValue c, hexValue d with
    | some a, some b, some c, some d => .ok (((a * 16 + b) * 16 + c) * 16 + d, s)
    | _, _, _, _ => .error (faultBefore .badEscape s)
  | _ => .error (faultBefore .endInString [])

def isTrailingSurrogate (n : Nat) : Bool :=
  0xDC00 ≤ n && n < 0xE000

/-- The escape that has to follow a leading surrogate. -/
def readTrailing (lead : Nat) : Reader Char
  | [] => .error (faultBefore .endInString [])
  | c :: s =>
    if c ≠ '\\'.toUInt8 then .error (faultBefore .endOfHexEscape s)
    else match s with
      | [] => .error (faultBefore .endInString [])
      | c :: s =>
        if c ≠ 'u'.toUInt8 then .error (faultBefore .endOfHexEscape s)
        else match readHex s with
          | .error fault => .error fault
          | .ok (n, s) =>
            if isTrailingSurrogate n then
              .ok (.ofNat (0x10000 + (lead - 0xD800) * 0x400 + (n - 0xDC00)), s)
            else .error (faultBefore .loneSurrogate s)

/-- An escaped character given by number, after the letter `u`. -/
def readCodePoint (s : Bytes) : Except Fault (Char × Bytes) :=
  match readHex s with
  | .error fault => .error fault
  | .ok (n, s) =>
    if isTrailingSurrogate n then .error (faultBefore .loneSurrogate s)
    else if 0xD800 ≤ n ∧ n < 0xDC00 then readTrailing n s
    else .ok (.ofNat n, s)

/-- The character that a letter after a backslash stands for. -/
def shortEscape (c : UInt8) : Option Char :=
  if c = '"'.toUInt8 then some '"'
  else if c = '\\'.toUInt8 then some '\\'
  else if c = '/'.toUInt8 then some '/'
  else if c = 'b'.toUInt8 then some '\x08'
  else if c = 'f'.toUInt8 then some '\x0c'
  else if c = 'n'.toUInt8 then some '\n'
  else if c = 'r'.toUInt8 then some '\r'
  else if c = 't'.toUInt8 then some '\t'
  else none

/-- An escape, after its backslash. -/
def readEscape : Reader Char
  | [] => .error (faultBefore .endInString [])
  | c :: s =>
    match shortEscape c with
    | some d => .ok (d, s)
    | none => if c = 'u'.toUInt8 then readCodePoint s else .error (faultBefore .badEscape s)

/-- Reads the characters of a string up to its closing quote in at most `bound` steps. `done` holds
those read, the last one first. A malformed piece is a fault only of a string that is closed;
`spoilt` is the length of what has been read since the first one, escapes counted as the characters
they stand for. -/
def readChars (done : List Char) (spoilt : Option Nat) : Nat → Reader String
  | 0, _ => .error (faultBefore .endInString [])
  | _, [] => .error (faultBefore .endInString [])
  | n + 1, c :: s =>
    let reached (d : Char) := spoilt.map (· + d.utf8Size)
    if c = '"'.toUInt8 then
      match spoilt with
      | none => .ok (String.ofList done.reverse, s)
      | some length => .error (.placed .badCodePoint (s.length + length))
    else if c = '\\'.toUInt8 then
      match readEscape s with
      | .error fault => .error fault
      | .ok (d, s) => readChars (d :: done) (reached d) n s
    else if c < 0x20 then .error (faultBefore .controlCharacter s)
    else match Utf8.next c s with
      | (some d, rest) => readChars (d :: done) (reached d) n rest
      | (none, rest) =>
        readChars done (some (spoilt.getD 0 + (s.length + 1 - rest.length))) n rest

/-- Reads a string after its opening quote. -/
def readString (s : Bytes) : Except Fault (String × Bytes) :=
  readChars [] none s.length s

/-- Reads a value other than an array or object, given its first byte. -/
def readScalar (c : UInt8) (s : Bytes) : Except Fault (Json × Bytes) :=
  if c = 'n'.toUInt8 then (readWord (Utf8.encode "ull") s).map (Json.null, ·)
  else if c = 't'.toUInt8 then (readWord (Utf8.encode "rue") s).map (Json.bool true, ·)
  else if c = 'f'.toUInt8 then (readWord (Utf8.encode "alse") s).map (Json.bool false, ·)
  else if c = '-'.toUInt8 then readNumber true s
  else if isDigit c then readNumber false (c :: s)
  else if c = '"'.toUInt8 then (readString s).map fun (text, rest) => (Json.string text, rest)
  else .error (faultBefore .expectedValue s)

end ModelChat.Json
