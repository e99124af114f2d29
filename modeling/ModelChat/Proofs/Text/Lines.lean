import ModelChat.Text.Lines

/-! Lines of texts. Main statements: a text is its lines with their ends, and lines that were
written one after another are read back. -/
namespace ModelChat.Text

theorem split_eq_splitOnP {α : Type} (p : α → Bool) (xs : List α) : split p xs = xs.splitOnP p := by
  induction xs with
  | nil => rfl
  | cons x xs ih =>
    rw [split, List.splitOnP_cons_eq_if_modifyHead, ih]
    cases hparts : xs.splitOnP p with
    | nil => exact absurd hparts (List.splitOnP_ne_nil p xs)
    | cons part parts => rfl

/-- The part before a separator that is the first one. -/
theorem split_append {α : Type} {p : α → Bool} {xs : List α} (h : ∀ x ∈ xs, p x = false) {sep : α}
    (hsep : p sep = true) (ys : List α) : split p (xs ++ sep :: ys) = xs :: split p ys := by
  rw [split_eq_splitOnP, split_eq_splitOnP]
  exact List.splitOnP_append_cons_of_forall_mem h sep hsep ys

theorem split_eq_self {α : Type} {p : α → Bool} {xs : List α} (h : ∀ x ∈ xs, p x = false) :
    split p xs = [xs] := by
  rw [split_eq_splitOnP]
  exact List.splitOnP_eq_singleton h

theorem split_ne_nil {α : Type} (p : α → Bool) (xs : List α) : split p xs ≠ [] := by
  rw [split_eq_splitOnP]
  exact List.splitOnP_ne_nil p xs

section Segments
variable {cs : List Char} (h : '\n' ∉ cs)
include h

private theorem not_newline (c : Char) (hc : c ∈ cs) : decide (c = '\n') = false :=
  decide_eq_false fun he => h (he ▸ hc)

theorem segments_append (ds : List Char) :
    segments (cs ++ '\n' :: ds) = cs :: segments ds :=
  split_append (not_newline h) rfl ds

theorem segments_eq_self : segments cs = [cs] :=
  split_eq_self (not_newline h)

end Segments

/-- Has no line feed. -/
def OneLine (s : String) : Prop :=
  '\n' ∉ s.toList

instance (s : String) : Decidable (OneLine s) :=
  inferInstanceAs (Decidable ('\n' ∉ s.toList))

theorem OneLine.append {s t : String} (hs : OneLine s) (ht : OneLine t) : OneLine (s ++ t) := by
  rw [OneLine, String.toList_append, List.mem_append]
  exact not_or.mpr ⟨hs, ht⟩

theorem oneLine_join {ss : List String} (h : ∀ s ∈ ss, OneLine s) : OneLine (String.join ss) := by
  rw [OneLine, String.toList_join, List.mem_flatMap]
  rintro ⟨s, hs, hc⟩
  exact h s hs hc

/-- Lines one after another, each with its end. -/
def unlines (ls : List String) : String :=
  String.join (ls.map (· ++ "\n"))

theorem unlines_cons (l : String) (ls : List String) :
    (unlines (l :: ls)).toList = l.toList ++ '\n' :: (unlines ls).toList := by
  simp [unlines, String.toList_join]

/-- Written lines are read back; nothing stands behind the last line feed. -/
theorem segments_unlines {ls : List String} (h : ∀ l ∈ ls, OneLine l) :
    segments (unlines ls).toList = ls.map String.toList ++ [[]] := by
  induction ls with
  | nil => rfl
  | cons l ls ih =>
    obtain ⟨hl, hls⟩ := List.forall_mem_cons.mp h
    rw [unlines_cons, segments_append hl, ih hls]
    rfl

/-- The lines of a text: each ends in a line feed, with a carriage return that may come before it,
or with the text itself unless nothing is left. -/
inductive HasLines : List String → String → Prop
  | nil : HasLines [] ""
  | last {l : String} : OneLine l → l ≠ "" → HasLines [l] l
  | feed {l s : String} {ls : List String} : OneLine l → l.toList.getLast? ≠ some '\r' →
    HasLines ls s → HasLines (l :: ls) (l ++ "\n" ++ s)
  | returnFeed {l s : String} {ls : List String} : OneLine l →
    HasLines ls s → HasLines (l :: ls) (l ++ "\r\n" ++ s)

theorem HasLines.oneLine {ls : List String} {s : String} (h : HasLines ls s) :
    ∀ l ∈ ls, OneLine l := by
  induction h with
  | nil => exact List.forall_mem_nil _
  | last hl => exact List.forall_mem_singleton.mpr hl
  | feed hl _ _ ih => exact List.forall_mem_cons.mpr ⟨hl, ih⟩
  | returnFeed hl _ ih => exact List.forall_mem_cons.mpr ⟨hl, ih⟩

/-- Lines without carriage returns are the lines of a text where line feeds stand between them. -/
theorem hasLines_intercalate {ls : List String}
    (h : ∀ l ∈ ls, OneLine l ∧ '\r' ∉ l.toList ∧ l ≠ "") : HasLines ls ("\n".intercalate ls) := by
  induction ls with
  | nil => exact .nil
  | cons l ls ih =>
    obtain ⟨⟨hline, hreturn, hne⟩, hls⟩ := List.forall_mem_cons.mp h
    cases ls with
    | nil => exact .last hline hne
    | cons m ls =>
      rw [String.intercalate_cons_cons]
      exact .feed hline (fun hlast => hreturn (List.mem_of_getLast? hlast)) (ih hls)

private theorem lineChars_cons (seg : List Char) {segs : List (List Char)} (h : segs ≠ []) :
    lineChars (seg :: segs) = dropReturn seg :: lineChars segs := by
  cases segs with
  | nil => exact absurd rfl h
  | cons first rest => rfl

/-- A line that a line feed ends, and the lines of the rest. -/
theorem lines_append {l : String} (h : OneLine l) (s : String) :
    lines (l ++ "\n" ++ s) = String.ofList (dropReturn l.toList) :: lines s := by
  have htext : (l ++ "\n" ++ s).toList = l.toList ++ '\n' :: s.toList := by simp
  have hrest : segments s.toList ≠ [] := split_ne_nil _ _
  rw [lines, htext, segments_append h, lineChars_cons _ hrest]
  rfl

theorem lines_eq_self {l : String} (h : OneLine l) (hne : l ≠ "") : lines l = [l] := by
  have hlist : l.toList ≠ [] := by simpa using hne
  simp [lines, segments_eq_self h, lineChars, hlist]

/-- The lines of a text are what has been defined as such. -/
theorem lines_eq_of_hasLines {ls : List String} {s : String} (h : HasLines ls s) :
    lines s = ls := by
  induction h with
  | nil => rfl
  | last hl hne => exact lines_eq_self hl hne
  | feed hl hreturn _ ih =>
    rw [lines_append hl, dropReturn, if_neg hreturn, String.ofList_toList, ih]
  | @returnFeed l s ls hl _ ih =>
    have hone : OneLine (l ++ "\r") := hl.append (by decide)
    have htext : l ++ "\r\n" ++ s = l ++ "\r" ++ "\n" ++ s := by
      simp only [String.append_assoc]
      rfl
    rw [htext, lines_append hone, ih]
    simp [dropReturn]

/-- A text is its lines with their ends. -/
theorem hasLines_lines (s : String) : HasLines (lines s) s := by
  -- On the length: the text up to its first line feed is a line, and the rest is shorter.
  induction hn : s.toList.length using Nat.strongRecOn generalizing s with
  | ind n ih =>
    by_cases hfeed : '\n' ∈ s.toList
    · obtain ⟨cs, ds, hsplit, hcs⟩ := List.eq_append_cons_of_mem hfeed
      have hrest := ih ds.length (by simp [← hn, hsplit]; omega) (String.ofList ds) (by simp)
      have htext : s = String.ofList cs ++ "\n" ++ String.ofList ds := by
        rw [← String.toList_inj]
        simp [hsplit]
      have hline : OneLine (String.ofList cs) := by simpa [OneLine] using hcs
      rw [htext, lines_append hline, String.toList_ofList]
      by_cases hreturn : cs.getLast? = some '\r'
      · obtain ⟨line, rfl⟩ := List.getLast?_eq_some_iff.mp hreturn
        have hends : String.ofList (line ++ ['\r']) ++ "\n" = String.ofList line ++ "\r\n" := by
          rw [← String.toList_inj]
          simp
        have hone : OneLine (String.ofList line) := by
          rw [OneLine, String.toList_ofList]
          exact fun hc => hcs (List.mem_append_left _ hc)
        rw [dropReturn, if_pos hreturn, List.dropLast_concat, hends]
        exact .returnFeed hone hrest
      · rw [dropReturn, if_neg hreturn]
        exact .feed hline (by simpa using hreturn) hrest
    · by_cases hempty : s = ""
      · subst hempty
        exact .nil
      · rw [lines_eq_self hfeed hempty]
        exact .last hfeed hempty

end ModelChat.Text
