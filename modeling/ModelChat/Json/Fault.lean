import ModelChat.Text.Utf8

/-! What can be wrong with a JSON text, and where. -/
namespace ModelChat.Json

/-- What is wrong. The first group concerns the text, the second the value it was read for. -/
inductive Problem where
  | endInValue
  | endInArray
  | endInObject
  | endInString
  | expectedColon
  | expectedCommaOrBracket
  | expectedCommaOrBrace
  | expectedWord
  | expectedValue
  | badEscape
  | badNumber
  | numberOutOfRange
  | badCodePoint
  | controlCharacter
  | nameNotString
  | loneSurrogate
  | trailingComma
  | trailingCharacters
  | endOfHexEscape
  | tooDeep
  | missing (field : String)
  | repeated (field : String)
  | unknown (name : String) (expected : String)
  | wrongType (found expected : String)
  | wrongValue (found expected : String)
  | wrongLength (length : Nat) (expected : String)
  | noVariant (type : String)
  deriving DecidableEq, Repr

def Problem.message : Problem → String
  | .endInValue => "EOF while parsing a value"
  | .endInArray => "EOF while parsing a list"
  | .endInObject => "EOF while parsing an object"
  | .endInString => "EOF while parsing a string"
  | .expectedColon => "expected `:`"
  | .expectedCommaOrBracket => "expected `,` or `]`"
  | .expectedCommaOrBrace => "expected `,` or `\x7d`"
  | .expectedWord => "expected ident"
  | .expectedValue => "expected value"
  | .badEscape => "invalid escape"
  | .badNumber => "invalid number"
  | .numberOutOfRange => "number out of range"
  | .badCodePoint => "invalid unicode code point"
  | .controlCharacter => "control character (\\u0000-\\u001F) found while parsing a string"
  | .nameNotString => "key must be a string"
  | .loneSurrogate => "lone leading surrogate in hex escape"
  | .trailingComma => "trailing comma"
  | .trailingCharacters => "trailing characters"
  | .endOfHexEscape => "unexpected end of hex escape"
  | .tooDeep => "recursion limit exceeded"
  | .missing field => "missing field `" ++ field ++ "`"
  | .repeated field => "duplicate field `" ++ field ++ "`"
  | .unknown name expected => "unknown variant `" ++ name ++ "`, expected " ++ expected
  | .wrongType found expected => "invalid type: " ++ found ++ ", expected " ++ expected
  | .wrongValue found expected => "invalid value: " ++ found ++ ", expected " ++ expected
  | .wrongLength length expected =>
    "invalid length " ++ toString length ++ ", expected " ++ expected
  | .noVariant type => "data did not match any variant of untagged enum " ++ type

/-- A problem and its place. -/
inductive Fault where
  /-- The place is given by the number of bytes after it. -/
  | placed (problem : Problem) (unread : Nat)
  /-- A problem of a value as a whole, found before `rest`. The bracket around the value gives it
  a place; without one it has none. -/
  | pending (problem : Problem) (rest : Bytes)
  deriving DecidableEq, Repr

def newline : UInt8 := 10

/-- Line and column after the given bytes: both count from one, the column in bytes. -/
def position (before : Bytes) : Nat × Nat :=
  (before.count newline + 1, (before.reverse.takeWhile (· != newline)).length)

/-- The report of a fault found in `text`. -/
def Fault.message (text : Bytes) : Fault → String
  | .placed problem unread =>
    let (line, column) := position (text.take (text.length - unread))
    problem.message ++ " at line " ++ toString line ++ " column " ++ toString column
  | .pending problem _ => problem.message

/-- A reader gives a value and the bytes after it, or a fault. -/
abbrev Reader (α : Type) := Bytes → Except Fault (α × Bytes)

/-- A fault at the next byte. -/
def faultHere (problem : Problem) (s : Bytes) : Fault :=
  .placed problem s.tail.length

/-- A fault after the bytes read so far. -/
def faultBefore (problem : Problem) (s : Bytes) : Fault :=
  .placed problem s.length

end ModelChat.Json
