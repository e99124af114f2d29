import ModelChat.Json.Record
import ModelChat.Message

/-! Reading messages and their pieces from JSON texts. -/
namespace ModelChat
open Json

/-- Reads a role: its name, or an object whose one member has that name and no value. -/
def Role.read (_bound room : Nat) (s : Bytes) : Except Fault (Role × Bytes) :=
  let named := readName (Role.all.map Role.name) Role.ofName?
  match skipBlanks s with
  | [] => .error (faultHere .endInValue [])
  | c :: s =>
    if c = '"'.toUInt8 then named (c :: s)
    else if c ≠ Bracket.brace.opening then .error (faultHere .expectedValue (c :: s))
    else if room = 0 then .error (faultHere .tooDeep (c :: s))
    else do
      let (role, s) ← match skipBlanks s with
        | [] => .error (faultHere .endInObject [])
        | c :: s =>
          if c = '"'.toUInt8 ∨ c = Bracket.brace.closing then named (c :: s)
          else .error (faultHere .nameNotString (c :: s))
      match skipBlanks (← readColon s) with
      | [] => .error (faultHere .endInValue [])
      | c :: s =>
        if c ≠ 'n'.toUInt8 then .error (otherType "unit" c s)
        else
          let (_, s) ← readScalar c s
          match skipBlanks s with
          | [] => .error (faultBefore .endInObject [])
          | c :: s =>
            if c = Bracket.brace.closing then .ok (role, s)
            else .error (faultBefore .expectedValue (c :: s))

/-- The text of a value that should be one. -/
def textOf : Json → Except Problem String
  | .string s => .ok s
  | v => .error (.wrongType (describe v) "a string")

/-- The value of the one known member; others are ignored. -/
def onlyField {α : Type} (name : String) (value : Json → Except Problem α)
    (members : List (String × Json)) : Except Problem α := do
  let found ← members.foldlM (fun (known : Option α) (n, v) =>
    if n ≠ name then .ok known
    else if known.isSome then .error (.repeated name)
    else (value v).map some) none
  match found with
  | some v => .ok v
  | none => .error (.missing name)

/-- The value of the only item. -/
def onlyItem {α : Type} (expected : String) (value : Json → Except Problem α) :
    List Json → Except Problem α
  | [] => .error (.wrongLength 0 expected)
  | v :: rest => do
    let a ← value v
    if rest.isEmpty then .ok a
    else .error (.wrongLength (rest.length + 1) "1 element in sequence")

/-- The address in an image reference. -/
def imageUrlOf : Json → Except Problem String
  | .array items => onlyItem "struct ImageUrl with 1 element" textOf items
  | .object members => onlyField "url" textOf members
  | v => .error (.wrongType (describe v) "struct ImageUrl")

namespace ContentPart

/-- The part of a kind with the other members of its object. -/
def ofMembers (kind : Kind) (members : List (String × Json)) : Except Problem ContentPart :=
  match kind with
  | .text => (onlyField kind.name textOf members).map text
  | .imageUrl => (onlyField kind.name imageUrlOf members).map imageUrl

/-- The part of a kind with the other items of its array. -/
def ofItems (kind : Kind) (items : List Json) : Except Problem ContentPart :=
  match kind with
  | .text => (onlyItem "struct variant ContentPart::Text with 1 element" textOf items).map text
  | .imageUrl =>
    (onlyItem "struct variant ContentPart::ImageUrl with 1 element" imageUrlOf items).map imageUrl

/-- The kind that a value names, by text or by number. -/
def Kind.ofJson? : Json → Option Kind
  | .string s => ofName? s
  | .integer 0 => some text
  | .integer 1 => some imageUrl
  | _ => none

/-- Takes the kind out of the members of a part; it has to be there once. -/
def splitKind : List (String × Json) → Option (Kind × List (String × Json))
  | members =>
    match members.filter (·.1 = "type") with
    | [(_, v)] => (Kind.ofJson? v).map (·, members.filter (·.1 ≠ "type"))
    | _ => none

/-- The part that a value already read stands for. -/
def ofJson? : Json → Option ContentPart
  | .object members => do
    let (kind, others) ← splitKind members
    (ofMembers kind others).toOption
  | .array (v :: items) => do
    let kind ← Kind.ofJson? v
    (ofItems kind items).toOption
  | _ => none

def readKind (s : Bytes) : Except Fault (Kind × Bytes) :=
  readName (Kind.all.map Kind.name) Kind.ofName? s

/-- The name of the member that tells the kind. -/
def kindField : String := "type"

/-- The members of a part read so far. -/
structure Members where
  kind : Option Kind
  others : List (String × Json)

def readMember (bound room : Nat) (st : Members) (name : String) (s : Bytes) :
    Except Fault (Members × Bytes) := do
  if name = kindField then
    let (kind, s) ← readField kindField st.kind readKind s
    .ok (⟨kind, st.others⟩, s)
  else
    let s ← readColon s
    let (v, s) ← readValue bound room s
    .ok (⟨st.kind, st.others ++ [(name, v)]⟩, s)

/-- Reads a part: the kind decides how the rest is understood, wherever it stands. -/
def read (bound room : Nat) (s : Bytes) : Except Fault (ContentPart × Bytes) := do
  let asArray (room : Nat) (s : Bytes) : Except Fault (Except Problem ContentPart × Bytes) := do
    match ← nextItem true s with
    | none => .error (.pending (.missing kindField) s)
    | some s =>
      let (kind, s) ← readKind s
      let (items, s) ← readItems (readValue bound room) bound false s
      .ok (ofItems kind items, s)
  let asObject (room : Nat) (s : Bytes) : Except Fault (Except Problem ContentPart × Bytes) := do
    let (members, s) ← foldMembers (readMember bound room) bound true ⟨none, []⟩ s
    let kind ← require kindField members.kind s
    .ok (ofMembers kind members.others, s)
  let (part, s) ← readRecord "internally tagged enum ContentPart" asArray asObject room s
  match part with
  | .ok part => .ok (part, s)
  | .error problem => .error (.pending problem s)

end ContentPart

namespace Content

/-- The content that a value stands for: a text, or an array of parts. -/
def ofJson? : Json → Option Content
  | .string s => some (.text s)
  | .array items => (items.mapM ContentPart.ofJson?).map .parts
  | _ => none

/-- Reads a content. -/
def read (bound room : Nat) (s : Bytes) : Except Fault (Content × Bytes) := do
  let (v, s) ← readValue bound room s
  match ofJson? v with
  | some c => .ok (c, s)
  | none => .error (.pending (.noVariant "Content") s)

end Content

namespace Message

/-- The fields of a message read so far. -/
structure Fields where
  role : Option Role
  content : Option Content

def readField (bound room : Nat) (st : Fields) (name : String) (s : Bytes) :
    Except Fault (Fields × Bytes) := do
  if name = "role" then
    let (role, s) ← Json.readField name st.role (Role.read bound room) s
    .ok (⟨role, st.content⟩, s)
  else if name = "content" then
    let (content, s) ← Json.readField name st.content (Content.read bound room) s
    .ok (⟨st.role, content⟩, s)
  else
    let s ← skipField s
    .ok (st, s)

/-- Reads a message; members of other names are passed over. -/
def read (bound room : Nat) (s : Bytes) : Except Fault (Message × Bytes) :=
  let expected := "struct Message with 2 elements"
  let asArray (room : Nat) (s : Bytes) : Except Fault (Message × Bytes) := do
    let (role, s) ← readItem 0 expected (Role.read bound room) s
    let (content, s) ← readItem 1 expected (Content.read bound room) s
    .ok (⟨role, content⟩, s)
  let asObject (room : Nat) (s : Bytes) : Except Fault (Message × Bytes) := do
    let (fields, s) ← foldMembers (readField bound room) bound true ⟨none, none⟩ s
    let role ← require "role" fields.role s
    let content ← require "content" fields.content s
    .ok (⟨role, content⟩, s)
  readRecord "struct Message" asArray asObject room s

end Message
end ModelChat
