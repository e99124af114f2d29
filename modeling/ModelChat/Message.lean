import ModelChat.Json.Basic

/-! Messages of a chat. -/
namespace ModelChat

/-- Who speaks. -/
inductive Role where
  | system
  | assistant
  | user
  deriving DecidableEq, Repr

namespace Role

def name : Role → String
  | system => "system"
  | assistant => "assistant"
  | user => "user"

def all : List Role := [system, assistant, user]

def ofName? (s : String) : Option Role :=
  all.find? (·.name = s)

end Role

/-- A piece of a message in several parts. -/
inductive ContentPart where
  | text (text : String)
  | imageUrl (url : String)
  deriving DecidableEq, Repr

/-- A message is plain text or a list of parts. -/
inductive Content where
  | text (text : String)
  | parts (parts : List ContentPart)
  deriving DecidableEq, Repr

structure Message where
  role : Role
  content : Content
  deriving DecidableEq, Repr

namespace ContentPart

/-- The names that tell the kinds of parts apart. -/
inductive Kind where
  | text
  | imageUrl
  deriving DecidableEq, Repr

namespace Kind

def name : Kind → String
  | text => "text"
  | imageUrl => "image_url"

def all : List Kind := [text, imageUrl]

def ofName? (s : String) : Option Kind :=
  all.find? (·.name = s)

end Kind

def toJson : ContentPart → Json
  | text t => .object [("type", .string Kind.text.name), ("text", .string t)]
  | imageUrl url =>
    .object [("type", .string Kind.imageUrl.name), ("image_url", .object [("url", .string url)])]

end ContentPart

def Content.toJson : Content → Json
  | text t => .string t
  | parts ps => .array (ps.map ContentPart.toJson)

namespace Message

/-- A message of plain text. -/
def ofText (role : Role) (text : String) : Message :=
  ⟨role, .text text⟩

/-- The text, unless the message has parts. -/
def text? (m : Message) : Option String :=
  match m.content with
  | .text t => some t
  | .parts _ => none

def toJson (m : Message) : Json :=
  .object [("role", .string m.role.name), ("content", m.content.toJson)]

end Message
end ModelChat
