import ModelChat.Proofs.Json.Depth
import ModelChat.Proofs.Json.Printer
import ModelChat.Proofs.Json.Recognition
import ModelChat.Proofs.Text.Lines

/-! Values as they are laid out. Main statements: every item and every member of a laid out value
has lines of its own, and reading the text gives the value back. -/
namespace ModelChat.Json
open Text

/-- All numbers are integers of 64 bits. -/
inductive IsWhole : Json → Prop
  | null : IsWhole .null
  | bool (b : Bool) : IsWhole (.bool b)
  | integer {i : Int} : IsWord i → IsWhole (.integer i)
  | string (s : String) : IsWhole (.string s)
  | array {items : List Json} : (∀ v ∈ items, IsWhole v) → IsWhole (.array items)
  | object {members : List (String × Json)} :
    (∀ m ∈ members, IsWhole m.2) → IsWhole (.object members)

/-- Two blanks for each bracket around the place. -/
def pad (depth : Nat) : List Char :=
  List.replicate (2 * depth) ' '

mutual

/-- The lines of a value, with what stands before it in the first one and behind it in the last. -/
def layoutLines (depth : Nat) (lead trail : List Char) : Json → List (List Char)
  | .array (v :: vs) => (pad depth ++ lead ++ ['[']) :: layoutItems (depth + 1) (v :: vs) ++
    [pad depth ++ ']' :: trail]
  | .object (m :: ms) => (pad depth ++ lead ++ ['\x7b']) :: layoutMembers (depth + 1) (m :: ms) ++
    [pad depth ++ '\x7d' :: trail]
  | v => [pad depth ++ lead ++ compactText v ++ trail]

/-- A comma stands behind every item but the last. -/
def layoutItems (depth : Nat) : List Json → List (List Char)
  | [] => []
  | v :: vs => layoutLines depth [] (if vs.isEmpty then [] else [',']) v ++ layoutItems depth vs

/-- A member has its name before its value. -/
def layoutMembers (depth : Nat) : List (String × Json) → List (List Char)
  | [] => []
  | (n, v) :: ms =>
    layoutLines depth (stringText n ++ [':', ' ']) (if ms.isEmpty then [] else [',']) v ++
      layoutMembers depth ms

end

/-- A value line by line. -/
def layout (v : Json) : List String :=
  (layoutLines 0 [] [] v).map String.ofList

section Lines

/-- Lines behind line feeds. -/
def fed (ls : List (List Char)) : List Char :=
  ls.flatMap ('\n' :: ·)

theorem fed_append (ls ms : List (List Char)) : fed (ls ++ ms) = fed ls ++ fed ms :=
  List.flatMap_append

theorem fed_cons (l : List Char) (ls : List (List Char)) : fed (l :: ls) = '\n' :: l ++ fed ls :=
  List.flatMap_cons

theorem fed_singleton (l : List Char) : fed [l] = '\n' :: l := by
  rw [fed_cons]
  exact List.append_nil _

/-- The lines of a value are its text, wherever it stands. -/
private def LaidOut (v : Json) : Prop :=
  ∀ depth lead trail, fed (layoutLines depth lead trail v) =
    breakLine depth ++ (lead ++ (prettyText depth v ++ trail))

/-- A value without parts, or with nothing in its brackets, takes one line. -/
private theorem laidOut_compact {v : Json}
    (hlines : ∀ depth lead trail,
      layoutLines depth lead trail v = [pad depth ++ lead ++ compactText v ++ trail])
    (htext : ∀ depth, prettyText depth v = compactText v) : LaidOut v := by
  intro depth lead trail
  rw [hlines, fed_singleton, htext, breakLine, pad]
  simp

private theorem fed_layoutItems {v : Json} {vs : List Json} (h : ∀ w ∈ v :: vs, LaidOut w)
    (depth : Nat) : fed (layoutItems depth (v :: vs)) =
      breakLine depth ++ (prettyText depth v ++ prettyItems depth vs) := by
  induction vs generalizing v with
  | nil => simp [layoutItems, prettyItems, h v List.mem_cons_self depth]
  | cons w vs ih =>
    obtain ⟨hv, hvs⟩ := List.forall_mem_cons.mp h
    rw [layoutItems, fed_append, hv, ih hvs, prettyItems]
    simp

private theorem fed_layoutMembers {m : String × Json} {ms : List (String × Json)}
    (h : ∀ k ∈ m :: ms, LaidOut k.2) (depth : Nat) : fed (layoutMembers depth (m :: ms)) =
      breakLine depth ++
        (stringText m.1 ++ ':' :: ' ' :: prettyText depth m.2 ++ prettyMembers depth ms) := by
  induction ms generalizing m with
  | nil => simp [layoutMembers, prettyMembers, h m List.mem_cons_self depth]
  | cons k ms ih =>
    obtain ⟨hm, hms⟩ := List.forall_mem_cons.mp h
    rw [layoutMembers, fed_append, hm, ih hms, prettyMembers]
    simp

private theorem laidOut (v : Json) : LaidOut v := by
  induction v using forall_of_parts with
  | plain v h =>
    cases v with
    | array => exact h.elim
    | object => exact h.elim
    | _ => exact laidOut_compact (fun _ _ _ => rfl) fun _ => rfl
  | array items ih =>
    cases items with
    | nil => exact laidOut_compact (fun _ _ _ => rfl) fun _ => rfl
    | cons v vs =>
      intro depth lead trail
      rw [layoutLines, fed_append, fed_cons, fed_layoutItems ih, fed_singleton, prettyText]
      simp [breakLine, pad]
  | object members ih =>
    cases members with
    | nil => exact laidOut_compact (fun _ _ _ => rfl) fun _ => rfl
    | cons m ms =>
      intro depth lead trail
      rw [layoutLines, fed_append, fed_cons, fed_layoutMembers ih, fed_singleton, prettyText]
      simp [breakLine, pad]

private theorem fed_eq_intercalate {l : String} {ls : List String} :
    '\n' :: ("\n".intercalate (l :: ls)).toList = fed ((l :: ls).map String.toList) := by
  induction ls generalizing l with
  | nil => simp [fed]
  | cons m ls ih =>
    rw [List.map_cons, fed_cons, ← ih, String.intercalate_cons_cons]
    simp

private theorem layoutLines_ne_nil (depth : Nat) (lead trail : List Char) (v : Json) :
    layoutLines depth lead trail v ≠ [] := by
  intro h
  have hfed := laidOut v depth lead trail
  rw [h] at hfed
  cases hfed

/-- The text of a value is its lines with line feeds between them. -/
theorem intercalate_layout (v : Json) : "\n".intercalate (layout v) = v.pretty := by
  obtain ⟨l, ls, hlines⟩ := List.exists_cons_of_ne_nil (layoutLines_ne_nil 0 [] [] v)
  have hfed : '\n' :: ("\n".intercalate (layout v)).toList = '\n' :: prettyText 0 v := by
    have hall := laidOut v 0 [] []
    rw [layout, hlines, List.map_cons, fed_eq_intercalate]
    simpa [hlines, breakLine, Function.comp_def] using hall
  rw [pretty, ← (List.cons.inj hfed).2, String.ofList_toList]

/-- Has no line feed and no carriage return. -/
private def Unbroken (cs : List Char) : Prop :=
  ∀ c ∈ cs, c ≠ '\n' ∧ c ≠ '\r'

private instance (cs : List Char) : Decidable (Unbroken cs) :=
  List.decidableBAll _ cs

private theorem Unbroken.append {cs ds : List Char} (hcs : Unbroken cs) (hds : Unbroken ds) :
    Unbroken (cs ++ ds) :=
  List.forall_mem_append.mpr ⟨hcs, hds⟩

private theorem unbroken_pad (depth : Nat) : Unbroken (pad depth) := by
  intro c hc
  rw [List.eq_of_mem_replicate hc]
  decide

/-- Control characters are escaped, so a string stays in its line. -/
private theorem unbroken_string (s : String) : Unbroken (stringText s) := by
  have hquote : Unbroken ['"'] := by decide
  have hdigit : ∀ n < 16, Nat.digitChar n ≠ '\n' ∧ Nat.digitChar n ≠ '\r' := by decide
  have hchar (c : Char) : Unbroken (escapeChar c) := by
    unfold escapeChar
    split
    iterate 7 · decide
    next hnewline hreturn _ =>
      split
      next hctl =>
        have hzero : Unbroken ['\\', 'u', '0', '0'] := by decide
        refine hzero.append (List.forall_mem_cons.mpr ⟨hdigit _ (by omega), ?_⟩)
        exact List.forall_mem_singleton.mpr (hdigit _ (by omega))
      next => exact List.forall_mem_singleton.mpr ⟨hnewline, hreturn⟩
  have hchars : Unbroken (s.toList.flatMap escapeChar) := by
    intro c hc
    obtain ⟨d, -, hd⟩ := List.mem_flatMap.mp hc
    exact hchar d c hd
  exact (hquote.append hchars).append hquote

private theorem unbroken_integer (i : Int) : Unbroken (integerText i) := by
  have hdigits : Unbroken (Nat.toDigits 10 i.natAbs) := by
    intro c hc
    have hdigit := allDigits_toDigits i.natAbs c hc
    constructor
    · rintro rfl
      cases hdigit
    · rintro rfl
      cases hdigit
  unfold integerText
  split
  · exact List.forall_mem_cons.mpr ⟨by decide, hdigits⟩
  · exact hdigits

private theorem integerText_ne_nil (i : Int) : integerText i ≠ [] := by
  unfold integerText
  split
  · exact List.cons_ne_nil _ _
  · exact Nat.toDigits_ne_nil

/-- Something that stays in its line. -/
private def IsLine (cs : List Char) : Prop :=
  Unbroken cs ∧ cs ≠ []

/-- Between what stays in its line, a value has lines only. -/
private def HasOwnLines (v : Json) : Prop :=
  ∀ depth lead trail, Unbroken lead → Unbroken trail →
    ∀ l ∈ layoutLines depth lead trail v, IsLine l

private theorem hasOwnLines_compact {v : Json}
    (hlines : ∀ depth lead trail,
      layoutLines depth lead trail v = [pad depth ++ lead ++ compactText v ++ trail])
    (htext : IsLine (compactText v)) : HasOwnLines v := by
  intro depth lead trail hlead htrail
  rw [hlines]
  refine List.forall_mem_singleton.mpr ⟨?_, by simp [htext.2]⟩
  exact (((unbroken_pad depth).append hlead).append htext.1).append htrail

private theorem isLine_opening {lead : List Char} (h : Unbroken lead) (depth : Nat) {c : Char}
    (hc : Unbroken [c]) : IsLine (pad depth ++ lead ++ [c]) :=
  ⟨((unbroken_pad depth).append h).append hc, by simp⟩

private theorem isLine_closing {trail : List Char} (h : Unbroken trail) (depth : Nat) {c : Char}
    (hc : Unbroken [c]) : ∀ l ∈ [pad depth ++ c :: trail], IsLine l :=
  List.forall_mem_singleton.mpr ⟨(unbroken_pad depth).append (hc.append h), by simp⟩

private theorem unbroken_comma (b : Bool) : Unbroken (if b then [] else [',']) := by
  cases b <;> decide

private theorem isLine_layoutItems {vs : List Json} (h : ∀ v ∈ vs, HasOwnLines v) (depth : Nat) :
    ∀ l ∈ layoutItems depth vs, IsLine l := by
  induction vs with
  | nil => exact List.forall_mem_nil _
  | cons v vs ih =>
    obtain ⟨hv, hvs⟩ := List.forall_mem_cons.mp h
    have hempty : Unbroken [] := by decide
    exact List.forall_mem_append.mpr ⟨hv depth _ _ hempty (unbroken_comma _), ih hvs⟩

private theorem isLine_layoutMembers {ms : List (String × Json)} (h : ∀ m ∈ ms, HasOwnLines m.2)
    (depth : Nat) : ∀ l ∈ layoutMembers depth ms, IsLine l := by
  induction ms with
  | nil => exact List.forall_mem_nil _
  | cons m ms ih =>
    obtain ⟨hm, hms⟩ := List.forall_mem_cons.mp h
    have hcolon : Unbroken [':', ' '] := by decide
    have hname := (unbroken_string m.1).append hcolon
    exact List.forall_mem_append.mpr ⟨hm depth _ _ hname (unbroken_comma _), ih hms⟩

private theorem hasOwnLines {v : Json} (h : IsWhole v) : HasOwnLines v := by
  induction h with
  | null => exact hasOwnLines_compact (fun _ _ _ => rfl) ⟨by decide, by decide⟩
  | bool b => cases b <;> exact hasOwnLines_compact (fun _ _ _ => rfl) ⟨by decide, by decide⟩
  | @integer i _ =>
    exact hasOwnLines_compact (fun _ _ _ => rfl) ⟨unbroken_integer i, integerText_ne_nil i⟩
  | string s =>
    exact hasOwnLines_compact (fun _ _ _ => rfl) ⟨unbroken_string s, List.cons_ne_nil _ _⟩
  | @array items _ ih =>
    cases items with
    | nil => exact hasOwnLines_compact (fun _ _ _ => rfl) ⟨by decide, by decide⟩
    | cons v vs =>
      intro depth lead trail hlead htrail
      rw [layoutLines, List.forall_mem_append, List.forall_mem_cons]
      exact ⟨⟨isLine_opening hlead depth (by decide), isLine_layoutItems ih (depth + 1)⟩,
        isLine_closing htrail depth (by decide)⟩
  | @object members _ ih =>
    cases members with
    | nil => exact hasOwnLines_compact (fun _ _ _ => rfl) ⟨by decide, by decide⟩
    | cons m ms =>
      intro depth lead trail hlead htrail
      rw [layoutLines, List.forall_mem_append, List.forall_mem_cons]
      exact ⟨⟨isLine_opening hlead depth (by decide), isLine_layoutMembers ih (depth + 1)⟩,
        isLine_closing htrail depth (by decide)⟩

/-- No string and no name can end a line: the lines of the text are those that are laid out. -/
theorem hasLines_pretty {v : Json} (h : IsWhole v) : HasLines (layout v) v.pretty := by
  have hempty : Unbroken [] := by decide
  rw [← intercalate_layout]
  refine hasLines_intercalate (List.forall_mem_map.mpr fun l hl => ?_)
  obtain ⟨hunbroken, hne⟩ := hasOwnLines h 0 [] [] hempty hempty l hl
  refine ⟨?_, ?_, by simpa using hne⟩
  · rw [OneLine, String.toList_ofList]
    exact fun hc => (hunbroken _ hc).1 rfl
  · rw [String.toList_ofList]
    exact fun hc => (hunbroken _ hc).2 rfl

end Lines

section Reading
variable {room depth : Nat}

private theorem blank_breakLine (depth : Nat) : Blank (Utf8.encodeChars (breakLine depth)) := by
  intro b hb
  obtain ⟨c, hc, hb⟩ := List.mem_flatMap.mp hb
  have hfeed : (Utf8.encodeChar '\n').all isBlank = true := by decide
  have hspace : (Utf8.encodeChar ' ').all isBlank = true := by decide
  rcases List.mem_cons.mp hc with rfl | hc
  · exact List.all_eq_true.mp hfeed b hb
  · rw [List.eq_of_mem_replicate hc] at hb
    exact List.all_eq_true.mp hspace b hb

private theorem lead_breakLine (depth : Nat) :
    Lead false (Utf8.encodeChars (',' :: breakLine depth)) := by
  rw [encodeChars_cons (by decide)]
  exact .next blank_nil (blank_breakLine depth)

private theorem listed_prettyItems {vs : List Json}
    (h : ∀ v ∈ vs, TextOf room v (Utf8.encodeChars (prettyText depth v))) {tail : Bytes}
    (htail : Blank tail) :
    Listed (TextOf room) false vs (Utf8.encodeChars (prettyItems depth vs) ++ tail) := by
  induction vs with
  | nil => exact .nil htail
  | cons v vs ih =>
    obtain ⟨hv, hvs⟩ := List.forall_mem_cons.mp h
    rw [prettyItems, Utf8.encodeChars_append, Utf8.encodeChars_append, List.append_assoc,
      List.append_assoc]
    exact .cons (lead_breakLine depth) hv (ih hvs)

private theorem member_pretty {m : String × Json}
    (h : TextOf room m.2 (Utf8.encodeChars (prettyText depth m.2))) : Member (TextOf room) m
      (Utf8.encodeChars (stringText m.1 ++ ':' :: ' ' :: prettyText depth m.2)) := by
  obtain ⟨q, hq, hquoted⟩ := stringText_quoted m.1
  have hblank : Blank [' '.toUInt8] := List.forall_mem_singleton.mpr (by decide)
  rw [Utf8.encodeChars_append, hq, encodeChars_cons (by decide), encodeChars_cons (by decide)]
  exact .mk hquoted blank_nil hblank h

private theorem listed_prettyMembers {ms : List (String × Json)}
    (h : ∀ m ∈ ms, TextOf room m.2 (Utf8.encodeChars (prettyText depth m.2))) {tail : Bytes}
    (htail : Blank tail) :
    Listed (Member (TextOf room)) false ms
      (Utf8.encodeChars (prettyMembers depth ms) ++ tail) := by
  induction ms with
  | nil => exact .nil htail
  | cons m ms ih =>
    obtain ⟨hm, hms⟩ := List.forall_mem_cons.mp h
    have hsplit : prettyMembers depth (m :: ms) = (',' :: breakLine depth) ++
        ((stringText m.1 ++ ':' :: ' ' :: prettyText depth m.2) ++ prettyMembers depth ms) := by
      simp [prettyMembers]
    rw [hsplit, Utf8.encodeChars_append, Utf8.encodeChars_append, List.append_assoc,
      List.append_assoc]
    exact .cons (lead_breakLine depth) (member_pretty hm) (ih hms)

/-- A value that is laid out is a text of the value, at any depth. -/
theorem textOf_pretty {v : Json} (h : IsWhole v) (hroom : Nests room v) (depth : Nat) :
    TextOf room v (Utf8.encodeChars (prettyText depth v)) := by
  induction h generalizing room depth with
  | null => exact .scalar .null
  | bool b => cases b <;> exact .scalar (by constructor)
  | integer h => exact prints_integer room h
  | string s => exact prints_string room s
  | @array items _ ih =>
    cases hroom with
    | plain h => exact h.elim
    | @array room _ hnests =>
      refine .inr (.inl ⟨items, ?_⟩)
      cases items with
      | nil => exact ⟨[], rfl, .nil blank_nil, rfl⟩
      | cons v vs =>
        have hall := fun w hw => ih w hw (hnests w hw) (depth + 1)
        obtain ⟨hv, hvs⟩ := List.forall_mem_cons.mp hall
        refine ⟨_, rfl, .cons (.first (blank_breakLine (depth + 1))) hv
          (listed_prettyItems hvs (blank_breakLine depth)), ?_⟩
        have hsplit : prettyText depth (.array (v :: vs)) = '[' :: (breakLine (depth + 1) ++
            (prettyText (depth + 1) v ++ (prettyItems (depth + 1) vs ++ breakLine depth)) ++
              [']']) := by
          simp [prettyText]
        rw [hsplit, encodeChars_cons (by decide)]
        simp only [Utf8.encodeChars_append]
        rfl
  | @object members _ ih =>
    cases hroom with
    | plain h => exact h.elim
    | @object room _ hnests =>
      refine .inr (.inr ⟨members, ?_⟩)
      cases members with
      | nil => exact ⟨[], rfl, .nil blank_nil, rfl⟩
      | cons m ms =>
        have hall := fun k hk => ih k hk (hnests k hk) (depth + 1)
        obtain ⟨hm, hms⟩ := List.forall_mem_cons.mp hall
        refine ⟨_, rfl, .cons (.first (blank_breakLine (depth + 1))) (member_pretty hm)
          (listed_prettyMembers hms (blank_breakLine depth)), ?_⟩
        have hsplit : prettyText depth (.object (m :: ms)) = '\x7b' :: (breakLine (depth + 1) ++
            ((stringText m.1 ++ ':' :: ' ' :: prettyText (depth + 1) m.2) ++
              (prettyMembers (depth + 1) ms ++ breakLine depth)) ++ ['\x7d']) := by
          simp [prettyText]
        rw [hsplit, encodeChars_cons (by decide)]
        simp only [Utf8.encodeChars_append]
        rfl

/-- A value printed without blanks is a text of the value. -/
theorem prints_whole {v : Json} (h : IsWhole v) (hroom : Nests room v) : Prints room v v := by
  induction h generalizing room with
  | null => exact .scalar .null
  | bool b => cases b <;> exact .scalar (by constructor)
  | integer h => exact prints_integer room h
  | string s => exact prints_string room s
  | array _ ih =>
    cases hroom with
    | plain h => exact h.elim
    | array hnests => exact prints_array (List.forall₂_same.mpr fun w hw => ih w hw (hnests w hw))
  | object _ ih =>
    cases hroom with
    | plain h => exact h.elim
    | object hnests =>
      exact prints_object (List.forall₂_same.mpr fun m hm => (ih m hm (hnests m hm)).member m.1)

theorem isText_compact {v : Json} (h : IsWhole v) (hroom : Nests maxDepth v) :
    IsText v (Utf8.encode v.compact) := by
  refine ⟨[], _, [], blank_nil, prints_whole h hroom, blank_nil, ?_⟩
  rw [encode_compact, List.nil_append, List.append_nil]

theorem isText_pretty {v : Json} (h : IsWhole v) (hroom : Nests maxDepth v) :
    IsText v (Utf8.encode v.pretty) := by
  refine ⟨[], _, [], blank_nil, textOf_pretty h hroom 0, blank_nil, ?_⟩
  rw [Utf8.encode, pretty, String.toList_ofList, List.nil_append, List.append_nil]

/-- Reading a value that is laid out gives the value back. -/
theorem parse_pretty {v : Json} (h : IsWhole v) (hroom : Nests maxDepth v) :
    parse (Utf8.encode v.pretty) = .ok v :=
  parse_eq_ok.mpr (isText_pretty h hroom)

end Reading
end ModelChat.Json
