import ModelChat.Text.Hex

/-! Bytes written as a percent sign and two hexadecimal digits. -/
namespace ModelChat.Http.Percent
open Text

/-- Which ASCII characters a part of an address writes by number, besides control characters. -/
abbrev EncodeSet := Char → Bool

def controlSet : EncodeSet := fun _ => false

def fragmentSet : EncodeSet := fun c =>
  c = ' ' || c = '"' || c = '<' || c = '>' || c = '`'

def pathSet : EncodeSet := fun c =>
  fragmentSet c || c = '#' || c = '?' || c = '\x7b' || c = '\x7d'

def userSet : EncodeSet := fun c =>
  pathSet c || "/:;=@[\\]^|".toList.contains c

def querySet : EncodeSet := fun c =>
  c = ' ' || c = '"' || c = '#' || c = '<' || c = '>'

def specialQuerySet : EncodeSet := fun c =>
  querySet c || c = '\''

def hexDigit (n : Nat) : Char :=
  (Nat.digitChar n).toUpper

def encodeByte (b : UInt8) : List Char :=
  ['%', hexDigit (b.toNat / 16), hexDigit (b.toNat % 16)]

/-- Control characters and all beyond ASCII are always written by number. -/
def encodeChar (set : EncodeSet) (c : Char) : List Char :=
  if c.toNat < 0x20 ∨ 0x7F ≤ c.toNat ∨ set c then (Text.Utf8.encodeChar c).flatMap encodeByte
  else [c]

def encode (set : EncodeSet) (cs : List Char) : String :=
  String.ofList (cs.flatMap (encodeChar set))

/-- A percent sign without two digits after it stands for itself. -/
def decode : Bytes → Bytes
  | [] => []
  | b :: s =>
    if b = '%'.toUInt8 then
      match s with
      | h :: l :: rest =>
        match hexValue h, hexValue l with
        | some h, some l => .ofNat (h * 16 + l) :: decode rest
        | _, _ => b :: decode (h :: l :: rest)
      | short => b :: decode short
    else b :: decode s

end ModelChat.Http.Percent
