/-! UTF-8 as bytes: writing, strict reading, and reading that replaces malformed pieces. -/
namespace ModelChat

/-- What arrives from or leaves for the outside. -/
abbrev Bytes := List UInt8

namespace Text.Utf8

/-- One to four bytes, as few as the character allows. -/
def encodeChar (c : Char) : Bytes :=
  let v := c.toNat
  if v < 0x80 then [.ofNat v]
  else if v < 0x800 then [.ofNat (0xC0 + v / 64), .ofNat (0x80 + v % 64)]
  else if v < 0x10000 then
    [.ofNat (0xE0 + v / 4096), .ofNat (0x80 + v / 64 % 64), .ofNat (0x80 + v % 64)]
  else
    [.ofNat (0xF0 + v / 262144), .ofNat (0x80 + v / 4096 % 64), .ofNat (0x80 + v / 64 % 64),
      .ofNat (0x80 + v % 64)]

def encodeChars (cs : List Char) : Bytes :=
  cs.flatMap encodeChar

def encode (s : String) : Bytes :=
  encodeChars s.toList

/-- A byte that continues a character. -/
def isTail (b : UInt8) : Bool :=
  0x80 ≤ b && b < 0xC0

/-- The second bytes allowed after the first byte of a long character: overlong forms, surrogates
and values past the last code point are cut off here. -/
def isSecond (a b : UInt8) : Bool :=
  isTail b && (a != 0xE0 || 0xA0 ≤ b) && (a != 0xED || b < 0xA0) && (a != 0xF0 || 0x90 ≤ b)
    && (a != 0xF4 || b < 0x90)

/-- The character whose first byte is `a`, or `none` for the longest malformed piece there,
with the bytes that follow. -/
def next (a : UInt8) (s : Bytes) : Option Char × Bytes :=
  let low (b : UInt8) : Nat := b.toNat - 0x80
  if a < 0x80 then (some (.ofNat a.toNat), s)
  else if a < 0xC2 || 0xF4 < a then (none, s)
  else match s with
    | [] => (none, [])
    | b :: s₁ =>
      if a < 0xE0 then
        if isTail b then (some (.ofNat ((a.toNat - 0xC0) * 64 + low b)), s₁) else (none, s)
      else if !isSecond a b then (none, s)
      else match s₁ with
        | [] => (none, [])
        | c :: s₂ =>
          if !isTail c then (none, s₁)
          else if a < 0xF0 then
            (some (.ofNat ((a.toNat - 0xE0) * 4096 + low b * 64 + low c)), s₂)
          else match s₂ with
            | [] => (none, [])
            | d :: s₃ =>
              if isTail d then
                (some (.ofNat ((a.toNat - 0xF0) * 262144 + low b * 4096 + low c * 64 + low d)), s₃)
              else (none, s₂)

/-- At most `n` characters or malformed pieces, from the front. -/
def piecesWithin : Nat → Bytes → List (Option Char)
  | 0, _ => []
  | _, [] => []
  | n + 1, a :: s =>
    let (c, rest) := next a s
    c :: piecesWithin n rest

/-- The characters of a text in order; `none` stands for a malformed piece. -/
def pieces (s : Bytes) : List (Option Char) :=
  piecesWithin s.length s

/-- The text, if no piece is malformed. -/
def decode? (s : Bytes) : Option String :=
  ((pieces s).mapM id).map String.ofList

/-- The text with U+FFFD in place of each malformed piece. -/
def decodeLossy (s : Bytes) : String :=
  String.ofList ((pieces s).map (·.getD '\uFFFD'))

end Text.Utf8
end ModelChat
