/-! White space of all kinds. -/
namespace ModelChat.Text

/-- Whether a character only takes up room: blanks of any width, tabs and ends of lines. -/
def isSpace (c : Char) : Bool :=
  let v := c.toNat
  (0x9 ≤ v && v ≤ 0xD) || (0x2000 ≤ v && v ≤ 0x200A)
    || [0x20, 0x85, 0xA0, 0x1680, 0x2028, 0x2029, 0x202F, 0x205F, 0x3000].contains v

/-- The text without white space around it. -/
def trim (cs : List Char) : List Char :=
  ((cs.dropWhile isSpace).reverse.dropWhile isSpace).reverse

end ModelChat.Text
