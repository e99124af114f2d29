import ModelChat.Http.Header
import ModelChat.Http.Host

/-! Web addresses in their normal form. -/
namespace ModelChat.Http
open Percent Text

/-- User, host and port. User and password are percent-encoded; a port is kept only if it is not
the usual one of the scheme. -/
structure Authority where
  user : String
  password : Option String
  host : Host
  port : Option Nat
  deriving DecidableEq, Repr

inductive Path where
  | plain (text : String)
  | segments (segments : List String)
  deriving DecidableEq, Repr

structure Url where
  scheme : String
  authority : Option Authority
  path : Path
  query : Option String
  fragment : Option String
  deriving DecidableEq, Repr

namespace Authority

def text (a : Authority) : String :=
  let user := match a.password with
    | some p => a.user ++ ":" ++ p ++ "@"
    | none => if a.user.isEmpty then "" else a.user ++ "@"
  let port := match a.port with
    | some p => ":" ++ toString p
    | none => ""
  user ++ a.host.text ++ port

end Authority

namespace Path

def text : Path → String
  | plain s => s
  | segments ss => String.join (ss.map ("/" ++ ·))

end Path

namespace Url

/-- The text of an address. Without an authority, a path whose first segment is empty is set off by
a dot, so that nobody takes it for one. -/
def text (u : Url) : String :=
  let before := match u.authority, u.path with
    | some a, _ => "//" ++ a.text
    | none, .segments ("" :: _ :: _) => "/."
    | none, _ => ""
  let after (mark : String) (part : Option String) : String := match part with
    | some s => mark ++ s
    | none => ""
  u.scheme ++ ":" ++ before ++ u.path.text ++ after "?" u.query ++ after "#" u.fragment

/-- Whether the address names a host. -/
def hasHost (u : Url) : Bool :=
  match u.authority with
  | some a => a.host ≠ .name ""
  | none => false

/-- The usual ports; schemes that have one are special. -/
def defaultPort (scheme : String) : Option Nat :=
  match scheme with
  | "http" => some 80
  | "ws" => some 80
  | "https" => some 443
  | "wss" => some 443
  | "ftp" => some 21
  | _ => none

def isSpecial (scheme : String) : Bool :=
  (defaultPort scheme).isSome || scheme = "file"

/-- The port that requests go to. -/
def port? (u : Url) : Option Nat :=
  (u.authority.bind Authority.port).or (defaultPort u.scheme)

/-- The length of the longest address that a request may have, in bytes. -/
def maxLength : Nat := 65534

/-- Whether a request can have this address: it names a host, of which some characters are fit for
an address but not for a request, and is not too long. -/
def fitsRequest (u : Url) : Bool :=
  let isFit (c : Char) : Bool := !"\"`\x7b\x7d".toList.contains c
  u.hasHost && (Utf8.encode u.text).length ≤ maxLength &&
    u.authority.all fun a => a.host.text.toList.all isFit

/-- Whether requests are sent to the address. -/
def isSendable (u : Url) : Bool :=
  (u.scheme = "http" || u.scheme = "https") && u.fitsRequest

/-- Slashes; in special addresses a backslash is one too. -/
def isSlash (special : Bool) (c : Char) : Bool :=
  c = '/' || (special && c = '\\')

/-- Drops control characters and blanks around the text, and tabs and line ends in it. -/
def cleaned (cs : List Char) : List Char :=
  let isEdge (c : Char) : Bool := c.toNat ≤ 0x20
  let trimmed := ((cs.dropWhile isEdge).reverse.dropWhile isEdge).reverse
  trimmed.filter fun c => c ≠ '\t' ∧ c ≠ '\n' ∧ c ≠ '\r'

/-- The scheme before the first colon, in lower case, and the rest. -/
def splitScheme (cs : List Char) : Option (String × List Char) :=
  let isPart (c : Char) : Bool := c.isAlphanum || c = '+' || c = '-' || c = '.'
  let name := cs.takeWhile isPart
  match name, cs.dropWhile isPart with
  | first :: _, ':' :: rest =>
    if first.isAlpha then some (lowerCase (String.ofList name), rest) else none
  | _, _ => none

/-- The text before the first question mark or number sign, the query and the fragment. -/
def splitEnd (cs : List Char) : List Char × Option (List Char) × Option (List Char) :=
  let path := cs.takeWhile fun c => c ≠ '?' ∧ c ≠ '#'
  match cs.dropWhile fun c => c ≠ '?' ∧ c ≠ '#' with
  | '?' :: rest =>
    let query := rest.takeWhile (· ≠ '#')
    match rest.dropWhile (· ≠ '#') with
    | _ :: fragment => (path, some query, some fragment)
    | [] => (path, some query, none)
  | _ :: fragment => (path, none, some fragment)
  | [] => (path, none, none)

def isSingleDot (seg : String) : Bool :=
  [".", "%2e"].contains (lowerCase seg)

def isDoubleDot (seg : String) : Bool :=
  ["..", ".%2e", "%2e.", "%2e%2e"].contains (lowerCase seg)

/-- A drive is a letter with a colon or bar, alone or before a backslash. -/
def isDrive (seg : String) : Bool :=
  match seg.toList with
  | [letter, mark] => letter.isAlpha && (mark = ':' || mark = '|')
  | letter :: mark :: c :: _ => letter.isAlpha && (mark = ':' || mark = '|') && c = '\\'
  | _ => false

/-- One level up; a drive is kept. -/
def goUp (done : List String) : List String :=
  if done.head?.any isDrive then done else done.tail

/-- Resolves dots in segments; `done` holds the resolved ones, the last first. In a local address
a drive at the root is written with a colon. -/
def resolveDots (isLocal : Bool) (done : List String) : List String → List String
  | [] => done.reverse
  | seg :: rest =>
    let ended := rest.isEmpty
    if isDoubleDot seg then
      resolveDots isLocal (if ended then "" :: goUp done else goUp done) rest
    else if isSingleDot seg then resolveDots isLocal (if ended then "" :: done else done) rest
    else
      let isRoot := isLocal && done.isEmpty && isDrive seg
      let colon (c : Char) : Char := if c = '|' then ':' else c
      resolveDots isLocal ((if isRoot then seg.map colon else seg) :: done) rest

/-- The encoded segments of a path without its first slash. -/
def segmentsOf (special : Bool) (cs : List Char) : List String :=
  (split (isSlash special) cs).map (encode pathSet)

/-- Where an authority ends. -/
def endsAuthority (special : Bool) (c : Char) : Bool :=
  isSlash special c || c = '?' || c = '#'

/-- Splits at the last at sign. -/
def splitUser? (cs : List Char) : Option (List Char × List Char) :=
  match split (· = '@') cs with
  | [] => none
  | [_] => none
  | parts => some (['@'].intercalate parts.dropLast, parts.getLast?.getD [])

/-- Reads user and password before the last at sign of the authority. With nothing before that sign
there has to be something after it, or nothing at all. -/
def readUser (special : Bool) (cs : List Char) :
    Option ((String × Option String) × List Char) :=
  let rest := cs.dropWhile (!endsAuthority special ·)
  match splitUser? (cs.takeWhile (!endsAuthority special ·)) with
  | none => some (("", none), cs)
  | some ([], []) => if rest.isEmpty then some (("", none), []) else none
  | some (before, host) =>
    let user := before.takeWhile (· ≠ ':')
    let password := (before.dropWhile (· ≠ ':')).drop 1
    some ((encode userSet user, if password.isEmpty then none else some (encode userSet password)),
      host ++ rest)

/-- Splits off the host: it ends with the authority, or at a colon outside square brackets. -/
def splitHost (special inside : Bool) : List Char → List Char × List Char
  | [] => ([], [])
  | c :: cs =>
    if endsAuthority special c ∨ (c = ':' ∧ !inside) then ([], c :: cs)
    else
      let (host, rest) := splitHost special (c = '[' || (inside && c ≠ ']')) cs
      (c :: host, rest)

/-- Reads a port, or nothing if there are no digits or it is the usual one. -/
def readPort (scheme : String) (cs : List Char) : Option (Option Nat × List Char) :=
  let digits := cs.takeWhile Char.isDigit
  let rest := cs.dropWhile Char.isDigit
  let n := numberOf 10 digits
  if 65535 < n ∨ rest.head?.any (!endsAuthority true ·) then none
  else some (if digits.isEmpty ∨ defaultPort scheme = some n then none else some n, rest)

/-- Reads what stands after two slashes, up to the path. -/
def readAuthority (scheme : String) (cs : List Char) : Option (Authority × List Char) := do
  let special := isSpecial scheme
  let ((user, password), cs) ← readUser special cs
  let (hostText, cs) := splitHost special false cs
  let host ← if special then Host.parse? hostText else Host.parseOpaque? hostText
  if host = .name "" ∧ (cs.head? = some ':' ∨ !user.isEmpty ∨ password.isSome) then none
  let (port, cs) ← match cs with
    | ':' :: cs => readPort scheme cs
    | cs => some (none, cs)
  some (⟨user, password, host, port⟩, cs)

/-- A local path without empty segments in front of others. -/
def withoutBlanks (segments : List String) : List String :=
  match segments.dropWhile (·.isEmpty) with
  | [] => [""]
  | rest => rest

/-- The host and the path of a local address. A drive takes the place of the host. Without a host,
the slash before the path counts as an empty segment. -/
def localPlace (host : Host) (path : List Char) : Host × List String :=
  let isNowhere : Bool := host = .name "" || host = .name "localhost"
  let segments := resolveDots true (if isNowhere then [""] else []) (segmentsOf true path)
  let host := if isNowhere ∨ segments.head?.any isDrive then .name "" else host
  (host, withoutBlanks segments)

/-- Reads a local address, up to its query: the host after two slashes may be missing or be a drive,
which begins the path. -/
def readLocal (cs : List Char) : Option (Authority × List String) := do
  let isSlash := isSlash true
  let nowhere (path : List Char) : Host × List String :=
    (.name "", withoutBlanks (resolveDots true [] (segmentsOf true path)))
  let (host, segments) ← match cs with
    | a :: b :: rest =>
      if !isSlash a then some (nowhere cs)
      else if !isSlash b then some (nowhere (b :: rest))
      else
        let hostText := rest.takeWhile (!isSlash ·)
        if isDrive (String.ofList hostText) then some (nowhere rest)
        else do
          let host ← if hostText.isEmpty then some (.name "") else Host.parse? hostText
          some (localPlace host ((rest.dropWhile (!isSlash ·)).drop 1))
    | cs => some (nowhere (cs.dropWhile isSlash))
  some (⟨"", none, host, none⟩, segments)

/-- Reads an absolute address; `none` if it is not one. -/
def parse? (s : String) : Option Url := do
  let (scheme, rest) ← splitScheme (cleaned s.toList)
  let special := isSpecial scheme
  let finish (authority : Option Authority) (path : Path) (query fragment : Option (List Char)) :
      Url :=
    ⟨scheme, authority, path, query.map (encode (if special then specialQuerySet else querySet)),
      fragment.map (encode fragmentSet)⟩
  let afterAuthority (cs : List Char) : Option Url := do
    let (authority, cs) ← readAuthority scheme cs
    let (main, query, fragment) := splitEnd cs
    let path := if main.head?.any (isSlash special) then main.drop 1 else main
    let segments :=
      if main.isEmpty ∧ !special then [] else resolveDots false [] (segmentsOf special path)
    some (finish (some authority) (.segments segments) query fragment)
  if scheme = "file" then
    let (main, query, fragment) := splitEnd rest
    let (authority, segments) ← readLocal main
    some (finish (some authority) (.segments segments) query fragment)
  else if special then afterAuthority (rest.dropWhile (isSlash true))
  else match rest with
    | '/' :: '/' :: cs => afterAuthority cs
    | _ =>
      let (main, query, fragment) := splitEnd rest
      let path := match main with
        | '/' :: cs => .segments (resolveDots false [] (segmentsOf false cs))
        | cs => .plain (encode controlSet cs)
      some (finish none path query fragment)

/-- The segments of a path; an opaque path has none. -/
def segments (u : Url) : List String :=
  match u.path with
  | .segments ss => ss
  | .plain _ => []

/-- Reads an address relative to another one: what it does not begin with is taken from there. -/
def follow? (base : Url) (cs : List Char) : Option Url :=
  let special := isSpecial base.scheme
  let (main, query, fragment) := splitEnd cs
  let query := query.map (encode (if special then specialQuerySet else querySet))
  let fragment := fragment.map (encode fragmentSet)
  let withPath (segments : List String) : Url :=
    { base with path := .segments (resolveDots false [] segments), query, fragment }
  match main with
  | [] => some { base with query := query <|> base.query, fragment }
  | c :: rest =>
    if !isSlash special c then
      some (withPath (base.segments.dropLast ++ segmentsOf special main))
    else if rest.head?.any (isSlash special) then
      parse? (base.scheme ++ ":" ++ String.ofList cs)
    else some (withPath (segmentsOf special rest))

/-- Reads an address that may be relative to another one. The scheme of that one may be repeated
before what is relative, if it is special. -/
def join? (base : Url) (s : String) : Option Url :=
  let cs := cleaned s.toList
  match splitScheme cs with
  | none => follow? base cs
  | some (scheme, rest) =>
    let slashes := rest.takeWhile (isSlash true)
    if isSpecial scheme ∧ scheme = base.scheme ∧ slashes.length < 2 then follow? base rest
    else parse? s

/-- The address without user and password. -/
def withoutUser (u : Url) : Url :=
  { u with authority := u.authority.map fun a => { a with user := "", password := none } }

end Url
end ModelChat.Http
