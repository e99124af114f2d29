import ModelChat.Proofs.Message.Reader
import ModelChat.Request

/-! Requests in JSON texts. Main statement: the text of a request is an object of the settings and
the messages, and the messages are read back from it as they were. -/
namespace ModelChat
open Json Text

namespace Message

/-- Reads a list of messages. -/
def readAll (bound room : Nat) (s : Bytes) : Except Fault (List Message × Bytes) :=
  match skipBlanks s with
  | [] => .error (faultHere .endInValue [])
  | c :: s =>
    if c = Bracket.square.opening then
      match room with
      | 0 => .error (faultHere .tooDeep (c :: s))
      | room + 1 => enclosed .square (readItems (Message.read bound room) bound true) s
    else .error (otherType "a sequence" c s)

theorem readAll_textOf (bound room : Nat) :
    Reads (readAll bound room) (fun ms t => TextOf room (.array (ms.map toJson)) t) bound := by
  intro ms b s rest hb hs hlength hrest
  obtain ⟨room, t, rfl, ht, rfl⟩ := hs.of_array
  have hlisted := ht.of_map
  have hcount := hlisted.length_le fun _ _ h => h.begins.length_pos
  simp only [List.length_cons, List.length_append, List.length_nil] at hlength
  obtain ⟨b', hb', hread⟩ := readItems_listed (read_textOf bound room) (fun _ _ h => h.begins)
    hlisted (n := bound) (by omega) (by omega) rest
  have hblank : isBlank Bracket.square.opening = false := by decide
  simp only [readAll, List.cons_append, List.append_assoc, List.nil_append,
    skipBlanks_append hb hblank, if_true, enclosed_append hb' hread]

end Message

namespace Request

/-- The name of the member that holds the messages. -/
def messagesField : String := "messages"

/-- Takes in a member; only the messages are read, other members are passed over. -/
def readMember (bound room : Nat) (known : Option (List Message)) (name : String) (s : Bytes) :
    Except Fault (Option (List Message) × Bytes) :=
  if name = messagesField then Json.readField name known (Message.readAll bound room) s
  else (skipField s).map (known, ·)

/-- Reads the messages of a request, given as an object that holds them or as an array of them
alone. -/
def readMessages (bound room : Nat) (s : Bytes) : Except Fault (List Message × Bytes) :=
  let asArray (room : Nat) (s : Bytes) : Except Fault (List Message × Bytes) :=
    readItem 0 "a request with 1 element" (Message.readAll bound room) s
  let asObject (room : Nat) (s : Bytes) : Except Fault (List Message × Bytes) := do
    let (known, s) ← foldMembers (readMember bound room) bound true none s
    let messages ← require messagesField known s
    .ok (messages, s)
  readRecord "a request" asArray asObject room s

/-- Texts of the members of a request: the messages, or a setting. -/
inductive MemberText (room : Nat) : Option (List Message) → Bytes → Prop
  | messages {ms : List Message} {s : Bytes} :
    TextOf room (.array (ms.map Message.toJson)) s → MemberText room (some ms) s
  | setting {s : Bytes} : ScalarForm s → MemberText room none s

/-- The messages known after one more member. -/
def take (known : Option (List Message)) (m : String × Option (List Message)) :
    Option (Option (List Message)) :=
  match known, m with
  | none, (name, some ms) => if name = messagesField then some (some ms) else none
  | some _, (_, some _) => none
  | known, (name, none) => if name = messagesField then none else some known

theorem readMember_takesIn (bound room : Nat) :
    TakesIn (readMember bound room) take (MemberText room) bound := by
  rintro known ⟨name, a⟩ known' b b' t rest htake hb hb' ht hlength hrest
  cases ht with
  | @messages ms _ ht =>
    cases known with
    | some known => cases htake
    | none =>
      simp only [take, Option.ite_none_right_eq_some] at htake
      obtain ⟨rfl, hknown⟩ := htake
      obtain rfl := Option.some.inj hknown
      simp only [readMember, if_true,
        readField_append (Message.readAll_textOf bound room) _ hb hb' ht hlength hrest]
  | setting ht =>
    simp only [take, Option.ite_none_left_eq_some] at htake
    obtain ⟨hname, hknown⟩ := htake
    obtain rfl := Option.some.inj hknown
    simp only [readMember, if_neg hname, skipField_append hb hb' ht hrest]
    rfl

/-- Members printed as the messages, once, and settings are read as these messages. -/
theorem readMessages_append {bound room : Nat} {ks : List (String × Option (List Message))}
    {t : Bytes} (ht : Listed (Member (MemberText room)) true ks t) {ms : List Message}
    (htaken : ks.foldlM take none = some (some ms)) (hlength : t.length ≤ bound) (rest : Bytes) :
    readMessages bound (room + 1)
      (Bracket.brace.opening :: (t ++ [Bracket.brace.closing]) ++ rest) = .ok (ms, rest) := by
  have hcount := (ht.length_le fun _ _ h => h.length_pos).trans hlength
  obtain ⟨b, hb, hread⟩ := foldMembers_listed (@readMember_takesIn bound room) ht htaken hcount
    hlength rest
  unfold readMessages
  refine readRecord_object (b := []) (List.forall_mem_nil _) hb ?_
  simp only [hread, ok_bind, require]

section Printed

private theorem scalarForm_real (x : Float) :
    ScalarForm (Utf8.encodeChars (compactText (.real x))) := by
  rw [compactText]
  by_cases hx : x.isFinite = true
  · obtain ⟨n, hn⟩ := realText_of_finite hx
    exact .number hn
  · rw [realText_of_not_finite (Bool.eq_false_iff.mpr hx)]
    exact .scalar .null

private theorem scalarForm_string (s : String) :
    ScalarForm (Utf8.encodeChars (compactText (.string s))) := by
  obtain ⟨q, hq, hquoted⟩ := stringText_quoted s
  rw [compactText, hq]
  exact .scalar (.string hquoted)

private theorem members_scalar (p : Sampling) (m : String × Json) (hm : m ∈ p.members) :
    ScalarForm (Utf8.encodeChars (compactText m.2)) := by
  simp only [Sampling.members, List.mem_cons, List.not_mem_nil, or_false] at hm
  rcases hm with rfl | rfl | rfl | rfl | rfl
  · exact scalarForm_string _
  · exact .number (integerText_numeral _)
  · exact scalarForm_real _
  · exact scalarForm_real _
  · exact scalarForm_real _

/-- No setting is taken for the messages. -/
private theorem members_names (p : Sampling) (m : String × Json) (hm : m ∈ p.members) :
    m.1 ≠ messagesField := by
  have hnames : messagesField ∉ ["model", "max_tokens", "frequency_penalty", "top_p",
      "temperature"] := by decide
  rintro h
  exact hnames (h ▸ List.mem_map_of_mem (f := Prod.fst) hm)

private theorem take_settings {ms : List (String × Json)} (h : ∀ m ∈ ms, m.1 ≠ messagesField) :
    (ms.map fun m => (m.1, none)).foldlM take none = some none := by
  induction ms with
  | nil => rfl
  | cons m ms ih =>
    obtain ⟨hm, hms⟩ := List.forall_mem_cons.mp h
    simp [take, hm, ih hms]

private theorem prints_messages (room : Nat) (ms : List Message) :
    Prints (room + 5) (.array (ms.map Message.toJson)) (.array (ms.map Message.toJson)) := by
  refine prints_array (List.forall₂_same.mpr ?_)
  intro v hv
  obtain ⟨m, -, rfl⟩ := List.mem_map.mp hv
  exact m.prints_toJson room

variable (r : Request)

/-- The members of a request, as far as its messages are concerned. -/
def reduced : List (String × Option (List Message)) :=
  r.sampling.members.map (fun m => (m.1, none)) ++ [(messagesField, some r.messages)]

private theorem take_reduced : r.reduced.foldlM take none = some (some r.messages) := by
  have hsettings := take_settings (members_names r.sampling)
  rw [reduced, List.foldlM_append, hsettings]
  rfl

private theorem text_reduced (room : Nat) :
    ∃ t, Listed (Member (MemberText (room + 5))) true r.reduced t ∧
      Utf8.encode r.text = Bracket.brace.opening :: (t ++ [Bracket.brace.closing]) := by
  rw [text, encode_compact]
  refine object_listed (List.rel_append ?_ (.cons ⟨rfl, .messages ?_⟩ .nil))
  · refine List.forall₂_map_right_iff.mpr (List.forall₂_same.mpr fun m hm => ?_)
    exact ⟨rfl, .setting (members_scalar r.sampling m hm)⟩
  · exact prints_messages room r.messages

/-- The text of a request gives back its messages. -/
theorem readMessages_text : readText readMessages (Utf8.encode r.text) = .ok r.messages := by
  -- Of the brackets allowed, one is around the members and five are around or in the messages.
  obtain ⟨t, ht, hbytes⟩ := text_reduced r 121
  have hlength : t.length ≤ (Utf8.encode r.text).length := by
    simp only [hbytes, List.length_cons, List.length_append]
    omega
  have hread := readMessages_append ht (take_reduced r) hlength []
  rw [List.append_nil, ← hbytes] at hread
  simp only [readText, maxDepth, hread]
  rfl

/-- What a printed number is read as: a number, or null if it is not finite. -/
def RendersNumber (x : Float) (v : Json) : Prop :=
  if x.isFinite then
    parse (Utf8.encodeChars (realText x)) = .ok v ∧ ((∃ i, v = .integer i) ∨ ∃ y, v = .real y)
  else v = .null

/-- The value of a request's text. -/
def Renders (v : Json) : Prop :=
  ∃ penalty topP temperature,
    RendersNumber r.sampling.frequencyPenalty penalty ∧ RendersNumber r.sampling.topP topP ∧
    RendersNumber r.sampling.temperature temperature ∧ v = .object [
      ("model", .string r.sampling.model),
      ("max_tokens", .integer r.sampling.maxTokens.toNat),
      ("frequency_penalty", penalty),
      ("top_p", topP),
      ("temperature", temperature),
      ("messages", .array (r.messages.map Message.toJson))]

/-- Finite settings are printed as numbers in range. -/
def InRange : Prop :=
  ∀ x ∈ [r.sampling.frequencyPenalty, r.sampling.topP, r.sampling.temperature],
    x.isFinite = true → (parse (Utf8.encodeChars (realText x))).isOk = true

instance : Decidable r.InRange :=
  inferInstanceAs (Decidable
    (∀ x ∈ [r.sampling.frequencyPenalty, r.sampling.topP, r.sampling.temperature],
      x.isFinite = true → (parse (Utf8.encodeChars (realText x))).isOk = true))

private theorem prints_number (room : Nat) {x : Float}
    (h : x.isFinite = true → (parse (Utf8.encodeChars (realText x))).isOk = true) :
    ∃ v, RendersNumber x v ∧ Prints room (.real x) v := by
  unfold RendersNumber
  by_cases hx : x.isFinite = true
  · simp only [if_pos hx]
    cases hparse : parse (Utf8.encodeChars (realText x)) with
    | error fault =>
      have hok := h hx
      rw [hparse] at hok
      cases hok
    | ok v =>
      obtain ⟨n, hn⟩ := realText_of_finite hx
      have hnumber := Numeral.value_number ((parse_number hn).mp hparse)
      exact ⟨v, ⟨rfl, hnumber⟩, prints_real room hx hparse⟩
  · simp only [if_neg hx]
    exact ⟨.null, rfl, prints_not_finite room (Bool.eq_false_iff.mpr hx)⟩

/-- The text of a request is one object of its settings and its messages. -/
theorem parse_text (h : r.InRange) : ∃ v, parse (Utf8.encode r.text) = .ok v ∧ r.Renders v := by
  obtain ⟨penalty, hpenalty, hpenalty'⟩ := prints_number 126 (h r.sampling.frequencyPenalty
    List.mem_cons_self)
  obtain ⟨topP, htopP, htopP'⟩ := prints_number 126 (h r.sampling.topP
    (List.mem_cons_of_mem _ List.mem_cons_self))
  obtain ⟨temperature, htemperature, htemperature'⟩ := prints_number 126
    (h r.sampling.temperature (List.mem_of_getLast? rfl))
  refine ⟨_, ?_, penalty, topP, temperature, hpenalty, htopP, htemperature, rfl⟩
  have hword : IsWord r.sampling.maxTokens.toNat := by
    have hlt := r.sampling.maxTokens.toNat_lt
    have hpow : 2 ^ 32 < Nat.pow 2 64 := by decide
    constructor <;> omega
  have hprints := prints_object (.cons ((prints_string 126 r.sampling.model).member "model")
    (.cons ((prints_integer 126 hword).member "max_tokens")
      (.cons (hpenalty'.member "frequency_penalty") (.cons (htopP'.member "top_p")
        (.cons (htemperature'.member "temperature")
          (.cons ((prints_messages 121 r.messages).member "messages") .nil))))))
  have hparse := parse_textOf (List.forall_mem_nil _) hprints (List.forall_mem_nil _)
  rw [List.nil_append, List.append_nil] at hparse
  rw [text, encode_compact]
  exact hparse

end Printed

/-- The text of a request is an object of its settings and its messages, in this order, and gives
back the messages, so that other messages have another text. -/
theorem text_roundTrip (r : Request) :
    (r.InRange → ∃ v, parse (Utf8.encode r.text) = .ok v ∧ r.Renders v) ∧
    readText readMessages (Utf8.encode r.text) = .ok r.messages ∧
    (∀ r' : Request, r'.text = r.text → r'.messages = r.messages) ∧
    ∀ url question,
      readText readMessages (Utf8.encode (describeImage r.sampling url question).text) =
        .ok [⟨.user, .parts [.imageUrl url, .text question]⟩] := by
  refine ⟨parse_text r, readMessages_text r, ?_, fun url question => readMessages_text _⟩
  intro r' h
  have hread := readMessages_text r'
  rw [h, readMessages_text r] at hread
  exact (Except.ok.inj hread).symm

/-- The settings for describing an image are in range. -/
theorem describeImage_text_parses :
    let r := describeImage (.vision "llava") "https://example.com/cat.png" "What is \"this\"?"
    ∃ v, parse (Utf8.encode r.text) = .ok v ∧ r.Renders v :=
  (text_roundTrip (describeImage (.vision "llava") "https://example.com/cat.png"
    "What is \"this\"?")).1 (by decide +kernel)

end Request
end ModelChat
