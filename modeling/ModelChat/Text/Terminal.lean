import ModelChat.Text.Utf8

/-! Text for a terminal, without control sequences. -/
namespace ModelChat.Text

/-- Where a reader of terminal output stands. -/
inductive Mode where
  | text
  /-- After an escape character. -/
  | escape
  /-- After an escape character and some marks. -/
  | marked
  /-- In a control sequence. -/
  | sequence
  /-- In a command for the terminal, up to a bell. -/
  | command
  /-- In a string for the terminal. -/
  | message
  deriving DecidableEq, Repr

/-- Whether a character below the blank only moves the cursor on. -/
def isSpacing (c : Char) : Bool :=
  c = '\n' || c = '\t' || c = '\r' || c = '\x0c'

/-- The byte that ends a string for the terminal, also as a part of a character. -/
def stringEnd : UInt8 := 0x9C

/-- The mode after a character, and whether the character is shown. What only moves the cursor ends
a control sequence. -/
def Mode.step (m : Mode) (c : Char) : Mode × Bool :=
  let v := c.toNat
  if c = '\x1b' then (.escape, false)
  else if c = '\x18' ∨ c = '\x1a' then (.text, false)
  else match m with
    | .text => (.text, isSpacing c || (0x20 ≤ v && v ≠ 0x7F))
    | .command => (if c = '\x07' then .text else .command, false)
    | .message => (if (Utf8.encodeChar c).contains stringEnd then .text else .message, false)
    | m =>
      if isSpacing c then (.text, true)
      else if v < 0x20 ∨ 0x7F ≤ v then (m, false)
      else match m with
        | .sequence => (if v < 0x40 then .sequence else .text, false)
        | m =>
          if v < 0x30 then (.marked, false)
          else if m = .marked then (.text, false)
          else if c = '[' then (.sequence, false)
          else if c = ']' then (.command, false)
          else if c = 'P' ∨ c = 'X' ∨ c = '^' ∨ c = '_' then (.message, false)
          else (.text, false)

def plainChars (m : Mode) : List Char → List Char
  | [] => []
  | c :: cs =>
    let (m, shown) := m.step c
    if shown then c :: plainChars m cs else plainChars m cs

/-- The text without control characters and control sequences. -/
def plain (s : String) : String :=
  String.ofList (plainChars .text s.toList)

/-- Shows by number what a terminal could take for a command. -/
def escapeForTerminal (c : Char) : List Char :=
  let hex := Nat.toDigits 16 c.toNat
  if c = '\x07' ∨ c = '\x08' ∨ c = '\x0c' then '\\' :: 'x' :: '0' :: hex
  else if c = '\x1b' ∨ c = '\x7f' then '\\' :: 'x' :: hex
  else if 0x80 ≤ c.toNat ∧ c.toNat < 0xA0 then ['\\', 'u', '{'] ++ hex ++ ['}']
  else [c]

end ModelChat.Text
