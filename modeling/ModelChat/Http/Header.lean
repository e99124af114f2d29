import ModelChat.Text.Utf8

/-! Header fields of requests and responses. -/
namespace ModelChat.Http

/-- A field. Names are compared and shown without regard to case. -/
structure Header where
  name : String
  value : Bytes
  deriving DecidableEq, Repr

/-- ASCII letters in lower case, all else unchanged. -/
def lowerCase (s : String) : String :=
  String.ofList (s.toList.map Char.toLower)

namespace Header

/-- The name as it is compared and shown. -/
def key (h : Header) : String :=
  lowerCase h.name

/-- The values of a name, in order. -/
def valuesOf (name : String) (hs : List Header) : List Bytes :=
  (hs.filter (·.key = lowerCase name)).map Header.value

/-- The fields grouped by name, in the order in which the names first appear. -/
def grouped (hs : List Header) : List Header :=
  (hs.map key).eraseDups.flatMap fun k => hs.filter (·.key = k)

/-- Given fields take the places of those that have their names. -/
def override (own given : List Header) : List Header :=
  let places := own.flatMap fun h =>
    let same := given.filter (·.key = h.key)
    if same.isEmpty then [h] else same
  places ++ given.filter fun h => !own.any (·.key = h.key)

/-- The value as text, if it has visible ASCII characters, blanks and tabs only. -/
def plainText? (value : Bytes) : Option String :=
  if value.all fun b => b = 9 || (32 ≤ b && b < 127) then
    some (String.ofList (value.map fun b => Char.ofNat b.toNat))
  else none

end Header

/-- A response whose body has been read. -/
structure Response where
  status : Nat
  headers : List Header
  body : Bytes
  deriving DecidableEq, Repr

end ModelChat.Http
