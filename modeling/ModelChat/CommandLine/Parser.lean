import ModelChat.CommandLine.Fault
import ModelChat.Decimal.Natural
import ModelChat.Settings
import ModelChat.Text.Split
import ModelChat.Text.Utf8

/-! Understanding a command line. -/
namespace ModelChat.CommandLine
open Text

/-- The value of an option once it has been accepted. -/
inductive Value where
  | text (text : String)
  | count (limit : Limit)
  | set
  deriving DecidableEq, Repr

/-- The options of a scope read so far. The last one waits, with its value if that has come, until
something else is read. -/
structure State where
  taken : List (Flag × Value)
  waiting : Option (Flag × Option Bytes)
  deriving DecidableEq, Repr

namespace State

def empty : State := ⟨[], none⟩

def has (st : State) (f : Flag) : Bool :=
  st.taken.any (·.1 = f)

/-- The options that are meant for certain. The one that waits is, be its value good or bad; if it
has come before, both are in doubt. -/
def used (st : State) : List Flag :=
  let taken := st.taken.map (·.1)
  match st.waiting with
  | some (f, some _) => if taken.contains f then taken.filter (· ≠ f) else taken ++ [f]
  | _ => taken

end State

/-- A limit for the transcript; zero is out of range. -/
def readLimit (f : Flag) (value : String) : Except Fault Limit :=
  match Decimal.readNatural Decimal.maxWord value with
  | .error fault => .error (.badNumber f value fault.message)
  | .ok n =>
    match Limit.ofNat? n with
    | some limit => .ok limit
    | none =>
      .error (.badNumber f value
        (toString n ++ " is not in 1.." ++ toString Decimal.maxWord))

/-- Reads the value of an option. -/
def readValue (s : Scope) (f : Flag) (value : Bytes) : Except Fault Value :=
  match Utf8.decode? value with
  | none => .error (.notUtf8 s)
  | some text =>
    match f with
    | .maxTurns => (readLimit f text).map .count
    | _ => .ok (.text text)

/-- Accepts an option with its value; none may come twice. -/
def accept (s : Scope) (taken : List (Flag × Value)) (f : Flag) (value : Bytes) :
    Except Fault State :=
  if taken.any (·.1 = f) then .error (.repeated s f)
  else (readValue s f value).map fun v => ⟨taken ++ [(f, v)], none⟩

/-- Settles the option that waits. -/
def settle (s : Scope) (st : State) : Except Fault State :=
  match st.waiting with
  | none => .ok st
  | some (f, none) => .error (.missingValue f)
  | some (f, some value) => accept s st.taken f value

/-- Guesses which option was meant: one of this scope, or of a command among the words to come.
Gives the tip, and the option of this scope as its usage shows it. -/
def guess (s : Scope) (name : String) (later : List Bytes) : List String × List String :=
  let names (s : Scope) : List String :=
    ((s.own ++ Scope.program.own).eraseDups).map Flag.name ++ [helpFlag, versionFlag]
  match (similar name (names s)).getLast? with
  | some found =>
    let shown := match s.flag? found with
      | some f => f.shown
      | none => "--" ++ found
    (Fault.offer "argument" ["--" ++ found], [shown])
  | none =>
    if s ≠ .program then ([], [])
    else
      let options := [Scope.chat, Scope.describe].filterMap fun c => do
        let found ← (similar name (names c)).getLast?
        let place ← later.findIdx? (· = Utf8.encode c.name)
        some (place, "'" ++ c.name ++ " --" ++ found ++ "' exists")
      match options.mergeSort fun x y => x.1 ≤ y.1 with
      | (_, tip) :: _ => ([tip], [])
      | [] => ([], [])

/-- What an option read from one word does. -/
inductive Effect where
  | go (st : State)
  | stop (reason : Stop)

def Effect.ofExcept : Except Fault State → Effect
  | .ok st => go st
  | .error fault => stop (.fault fault)

/-- Help and version take effect once the option before them is settled. -/
def effectOf (s : Scope) (st : State) (reason : Stop) : Effect :=
  match settle s st with
  | .ok _ => .stop reason
  | .error fault => .stop (.fault fault)

/-- A value for an option that takes none. Once an option that the scope brings in has been
accepted, the report shows all of these as one. -/
def surplus (s : Scope) (st : State) (option : String) (value : Bytes) : Effect :=
  let taken := st.taken.map (·.1)
  let own := s.own.map Flag.shown
  let used := (taken.map Flag.shown ++ [option]).eraseDups
  let used :=
    if taken.any s.own.contains then
      used.filter (!own.contains ·) ++ ["<" ++ String.intercalate "|" own ++ ">"]
    else used
  .stop (.fault (.surplusValue s option (Utf8.decodeLossy value) used))

/-- An option after two dashes, with its value if it has an equals sign. -/
def readLong (s : Scope) (st : State) (name : String) (value : Option Bytes) (later : List Bytes) :
    Effect :=
  if name = helpFlag ∨ name = versionFlag then
    match value with
    | some v => surplus s st ("--" ++ name) v
    | none => effectOf s st (if name = helpFlag then .help (.scope s) else .version s)
  else match s.flag? name with
    | none =>
      let (tips, meant) := guess s name later
      .stop (.fault (.unexpected s ("--" ++ name) tips
        ((st.used.map Flag.shown ++ meant).eraseDups)))
    | some f =>
      match f.valueName, value with
      | none, some v => surplus s st f.shown v
      | none, none =>
        .ofExcept do
          let st ← settle s st
          if st.has f then .error (.repeated s f) else .ok ⟨st.taken ++ [(f, .set)], none⟩
      | some _, none => .ofExcept ((settle s st).map fun st => ⟨st.taken, some (f, none)⟩)
      | some _, some v =>
        .ofExcept do
          let st ← settle s st
          accept s st.taken f v

/-- An option after one dash: only the first letter matters. What is not text is shown whole. -/
def readShort (s : Scope) (st : State) (letters : Bytes) : Effect :=
  let unexpected (shown : String) : Effect :=
    .stop (.fault (.unexpected s ("-" ++ shown) [] []))
  match Utf8.pieces letters with
  | some 'h' :: _ => effectOf s st (.help (.scope s))
  | some 'V' :: _ => effectOf s st (.version s)
  | some c :: _ => unexpected (String.singleton c)
  | _ => unexpected (Utf8.decodeLossy letters)

/-- The forms a word can have. -/
inductive Word where
  | separator
  | long (name : String) (value : Option Bytes)
  | short (letters : Bytes)
  | plain

def Word.of (w : Bytes) : Word :=
  let dash := '-'.toUInt8
  let equals := '='.toUInt8
  match w with
  | a :: b :: rest =>
    if a ≠ dash then plain
    else if b ≠ dash then short (b :: rest)
    else if rest.isEmpty then separator
    else
      let name := Utf8.decodeLossy (rest.takeWhile (· ≠ equals))
      match rest.dropWhile (· ≠ equals) with
      | _ :: value => long name (some value)
      | [] => long name none
  | _ => plain

/-- The report of a word that fits nowhere. After a separator even the name of a command does not,
which deserves a tip. -/
def misplaced (s : Scope) (escaped : Bool) (word : Bytes) : Fault :=
  let text := Utf8.decodeLossy word
  match s with
  | .program =>
    if escaped ∧ Fault.commandNames.contains text then
      .unexpected s text
        ["subcommand '" ++ text ++ "' exists; to use it, remove the '--' before it"] []
    else .unknownCommand text
  | s => .unexpected s text [] []

/-- What help was asked for, after what is known of the topic. -/
def helpTopic : Topic → List Bytes → Stop
  | topic, [] => .help topic
  | topic, w :: ws =>
    let text := Utf8.decodeLossy w
    match topic with
    | .scope .program =>
      match Scope.ofName? text with
      | some c => helpTopic (.scope c) ws
      | none =>
        if text = helpCommand then helpTopic .help ws else .fault (.unknownTopic topic text)
    | topic => .fault (.unknownTopic topic text)

/-- Reads the options of a scope. Gives the command that ends them, if one does, with the words
after it. -/
def readScope (s : Scope) (st : State) (escaped : Bool) :
    List Bytes → Except Stop (State × Option (Scope × List Bytes))
  | [] => .ok (st, none)
  | w :: ws =>
    let text := Utf8.decode? w
    let open? : Option Flag := match st.waiting with
      | some (f, none) => some f
      | _ => none
    if escaped then .error (.fault (misplaced s true w))
    else if s = .program ∧ open?.isNone ∧ text = some helpCommand then
      .error (helpTopic (.scope .program) ws)
    else match (if s = .program ∧ open?.isNone then text.bind Scope.ofName? else none) with
      | some c => .ok (st, some (c, ws))
      | none =>
        match Word.of w with
        | .separator => readScope s st true ws
        | .long name value =>
          match readLong s st name value ws with
          | .go st => readScope s st false ws
          | .stop reason => .error reason
        | .short letters =>
          match readShort s st letters with
          | .go st => readScope s st false ws
          | .stop reason => .error reason
        | .plain =>
          match open? with
          | some f => readScope s ⟨st.taken, some (f, some w)⟩ false ws
          | none => .error (.fault (misplaced s false w))

def textOf? (taken : List (Flag × Value)) (f : Flag) : Option String :=
  taken.findSome? fun (g, v) => match v with
    | .text t => if g = f then some t else none
    | _ => none

def limitOf? (taken : List (Flag × Value)) : Option Limit :=
  taken.findSome? fun (_, v) => match v with
    | .count l => some l
    | _ => none

/-- The command with the options given to it. -/
def commandOf (taken : List (Flag × Value)) : Scope → Option Command
  | .program => none
  | .chat =>
    some (.chat ((textOf? taken .model).getD Conversation.defaultModel) (limitOf? taken))
  | .describe =>
    some (.describe ((textOf? taken .model).getD Description.defaultModel)
      ((textOf? taken .imageUrl).getD Description.defaultImageUrl)
      ((textOf? taken .prompt).getD Description.defaultPrompt)
      (taken.any (·.1 = .logHttp)))

/-- Settles the last option of a scope. -/
def finish (s : Scope) (st : State) : Except Stop State :=
  match settle s st with
  | .ok st => .ok st
  | .error fault => .error (.fault fault)

/-- Reads the words after the name of the program. Options of the program may also stand after the
command, and count there if they stand on both sides. -/
def parse (words : List Bytes) : Except Stop Arguments := do
  let (st, command) ← readScope .program .empty false words
  match command with
  | none =>
    let st ← finish .program st
    return ⟨textOf? st.taken .apiBaseUrl, textOf? st.taken .apiKey, none⟩
  | some (c, words) =>
    let (inner, _) ← readScope c .empty false words
    let inner ← finish c inner
    let st ← finish .program st
    let given (f : Flag) : Option String := textOf? inner.taken f <|> textOf? st.taken f
    return ⟨given .apiBaseUrl, given .apiKey, commandOf inner.taken c⟩

/-- The name by which the program was called, as reports show it: the last part of the path in the
first word. Parts that mean no step are passed over; a step back is no name. -/
def calledBy (args : List Bytes) : Option String := do
  let dot := '.'.toUInt8
  let parts := (split (· = '/'.toUInt8) (← args.head?)).filter fun part =>
    part ≠ [] ∧ part ≠ [dot]
  let last ← parts.getLast?
  if last = [dot, dot] then none else (Utf8.decode? last).map plain

/-- Settings and command: flags count more than what was set before. No command means a chat. -/
def Arguments.resolve (a : Arguments) (base : Settings) : Settings × Command :=
  let command := a.command.getD (.chat Conversation.defaultModel none)
  let settings := { base with
    apiBaseUrl := a.apiBaseUrl.getD base.apiBaseUrl
    apiKey := a.apiKey.getD base.apiKey }
  match command with
  | .chat _ (some limit) => ({ settings with maxTurns := some limit }, command)
  | _ => (settings, command)

end ModelChat.CommandLine
