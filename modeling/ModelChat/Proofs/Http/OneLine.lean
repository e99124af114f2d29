import ModelChat.Http.Url
import ModelChat.Proofs.Text.Lines

/-! Addresses as they are shown. Main statement: whatever text an address was read from, it is
written without a line feed. -/
namespace ModelChat
open Text

/-- Digits are no line feeds. -/
theorem oneLine_toDigits {b : Nat} (hb : 1 < b) (n : Nat) :
    OneLine (String.ofList (Nat.toDigits b n)) := by
  rw [OneLine, String.toList_ofList]
  induction n using Nat.strongRecOn with
  | ind n ih =>
    rw [Nat.toDigits_eq_if hb]
    split
    next => simp
    next hn =>
      have hrest := ih (n / b) (Nat.div_lt_self (by omega) hb)
      simp [hrest]

theorem oneLine_toString (n : Nat) : OneLine (toString n) :=
  oneLine_toDigits (by decide) n

theorem oneLine_intercalate {s : String} (hs : OneLine s) {ts : List String}
    (h : ∀ t ∈ ts, OneLine t) : OneLine (s.intercalate ts) := by
  induction ts with
  | nil => simp [OneLine]
  | cons t ts ih =>
    obtain ⟨ht, hts⟩ := List.forall_mem_cons.mp h
    cases ts with
    | nil => simpa using ht
    | cons u ts =>
      rw [String.intercalate_cons_cons]
      exact (ht.append hs).append (ih hts)

/-- Only small letters come of a change to lower case. -/
theorem eq_of_toLower_eq {c d : Char} (hd : d.isLower = false) (h : c.toLower = d) : c = d := by
  unfold Char.toLower at h
  split at h
  next hupper =>
    have hlow : 65 ≤ c.val.toNat := UInt32.le_iff_toNat_le.mp hupper.1
    have hhigh : c.val.toNat ≤ 90 := UInt32.le_iff_toNat_le.mp hupper.2
    have hsmall : c.val.toNat + 32 < 4294967296 := by omega
    have hval : d.val.toNat = c.val.toNat + 32 := by
      rw [← h, UInt32.toNat_add]
      exact Nat.mod_eq_of_lt hsmall
    have hrange : (decide (97 ≤ d.val) && decide (d.val ≤ 122)) = false := hd
    rw [Bool.and_eq_false_iff, decide_eq_false_iff_not, decide_eq_false_iff_not,
      UInt32.le_iff_toNat_le, UInt32.le_iff_toNat_le, hval] at hrange
    change ¬ 97 ≤ _ ∨ ¬ _ ≤ 122 at hrange
    omega
  next => exact h

namespace Http

/-- A character that is no small letter stands in a text if it does in the text in lower case. -/
theorem mem_of_mem_lowerCase {s : String} {d : Char} (hd : d.isLower = false)
    (h : d ∈ (lowerCase s).toList) : d ∈ s.toList := by
  rw [lowerCase, String.toList_ofList] at h
  obtain ⟨c, hc, he⟩ := List.mem_map.mp h
  rwa [← eq_of_toLower_eq hd he]

theorem Percent.oneLine_encode (set : Percent.EncodeSet) (cs : List Char) :
    OneLine (Percent.encode set cs) := by
  have hdigit : ∀ n < 16, Percent.hexDigit n ≠ '\n' := by decide
  rw [OneLine, Percent.encode, String.toList_ofList, List.mem_flatMap]
  rintro ⟨c, -, hc⟩
  unfold encodeChar at hc
  split at hc
  next =>
    obtain ⟨b, -, hb⟩ := List.mem_flatMap.mp hc
    have hbyte := b.toNat_lt
    simp only [encodeByte, List.mem_cons, List.not_mem_nil, or_false] at hb
    rcases hb with hb | hb | hb
    · exact absurd hb (by decide)
    · exact hdigit _ (by omega) hb.symm
    · exact hdigit _ (by omega) hb.symm
  next hplain =>
    obtain rfl := List.mem_singleton.mp hc
    exact hplain (.inl (by decide))

namespace Host

theorem oneLine_ipv4 (n : Nat) : OneLine (Host.ipv4 n).text := by
  refine oneLine_intercalate (by decide) fun t ht => ?_
  obtain ⟨k, -, rfl⟩ := List.mem_map.mp ht
  exact oneLine_toString k

theorem oneLine_ipv6 (pieces : List Nat) : OneLine (Host.ipv6 pieces).text := by
  have hjoin (ns : List Nat) : OneLine (String.intercalate ":" (ns.map hexGroup)) := by
    refine oneLine_intercalate (by decide) fun t ht => ?_
    obtain ⟨k, -, rfl⟩ := List.mem_map.mp ht
    exact oneLine_toDigits (by decide) k
  have hpieces : OneLine (ipv6Text pieces) := by
    unfold ipv6Text
    obtain ⟨start, length⟩ := longestZeros pieces
    dsimp only
    split
    · exact hjoin pieces
    · exact ((hjoin _).append (by decide)).append (hjoin _)
  exact (OneLine.append (by decide) hpieces).append (by decide)

theorem oneLine_of_bracketed {cs : List Char} {h : Host} (hread : bracketed? cs = some h) :
    OneLine h.text := by
  unfold bracketed? at hread
  split at hread
  · obtain ⟨pieces, -, rfl⟩ := Option.map_eq_some_iff.mp hread
    exact oneLine_ipv6 pieces
  · cases hread

theorem oneLine_of_parse {cs : List Char} {h : Host} (hread : parse? cs = some h) :
    OneLine h.text := by
  unfold parse? at hread
  split at hread
  · exact oneLine_of_bracketed hread
  · simp only [Option.bind_eq_bind, Option.bind_eq_some_iff] at hread
    obtain ⟨text, -, name, -, hread⟩ := hread
    split at hread
    · cases hread
    next hfit =>
      split at hread
      · obtain ⟨address, -, rfl⟩ := Option.map_eq_some_iff.mp hread
        exact oneLine_ipv4 address
      · obtain rfl := Option.some.inj hread
        rw [OneLine, Host.text, String.toList_ofList]
        intro hmem
        exact hfit (.inr (List.any_eq_true.mpr ⟨'\n', hmem, by decide⟩))

theorem oneLine_of_parseOpaque {cs : List Char} {h : Host} (hread : parseOpaque? cs = some h) :
    OneLine h.text := by
  unfold parseOpaque? at hread
  split at hread
  · exact oneLine_of_bracketed hread
  · split at hread
    · cases hread
    · obtain rfl := Option.some.inj hread
      exact Percent.oneLine_encode _ _

end Host

/-- No part of the authority has a line feed. -/
structure Authority.OneLine (a : Authority) : Prop where
  user : Text.OneLine a.user
  password : ∀ p, a.password = some p → Text.OneLine p
  host : Text.OneLine a.host.text

theorem Authority.OneLine.text {a : Authority} (h : a.OneLine) : Text.OneLine a.text := by
  have hat : Text.OneLine "@" := by decide
  have hcolon : Text.OneLine ":" := by decide
  dsimp only [Authority.text]
  refine OneLine.append (OneLine.append ?_ h.host) ?_
  · split
    next p hp => exact ((h.user.append hcolon).append (h.password p hp)).append hat
    next =>
      split
      · decide
      · exact h.user.append hat
  · split
    next p _ => exact hcolon.append (oneLine_toString p)
    next => decide

namespace Url

/-- No part of the address has a line feed. -/
structure OneLine (u : Url) : Prop where
  scheme : Text.OneLine u.scheme
  authority : ∀ a, u.authority = some a → a.OneLine
  path : Text.OneLine u.path.text
  query : ∀ q, u.query = some q → Text.OneLine q
  fragment : ∀ f, u.fragment = some f → Text.OneLine f

theorem OneLine.text {u : Url} (h : u.OneLine) : Text.OneLine u.text := by
  dsimp only [Url.text]
  refine .append (.append (.append (.append (h.scheme.append (by decide)) ?_) h.path) ?_) ?_
  · split
    next _ a ha => exact OneLine.append (by decide) (h.authority a ha).text
    next => decide
    next => decide
  · split
    next q hq => exact OneLine.append (by decide) (h.query q hq)
    next => decide
  · split
    next f hf => exact OneLine.append (by decide) (h.fragment f hf)
    next => decide

theorem OneLine.withoutUser {u : Url} (h : u.OneLine) : u.withoutUser.OneLine where
  scheme := h.scheme
  authority a ha := by
    obtain ⟨b, hb, rfl⟩ := Option.map_eq_some_iff.mp ha
    have hempty : Text.OneLine "" := by decide
    exact ⟨hempty, nofun, (h.authority b hb).host⟩
  path := h.path
  query := h.query
  fragment := h.fragment

theorem oneLine_of_readUser {special : Bool} {cs rest : List Char} {user : String}
    {password : Option String} (h : readUser special cs = some ((user, password), rest)) :
    Text.OneLine user ∧ ∀ p, password = some p → Text.OneLine p := by
  have hempty : Text.OneLine "" := by decide
  unfold readUser at h
  dsimp only at h
  split at h
  · cases h
    exact ⟨hempty, nofun⟩
  · split at h
    · cases h
      exact ⟨hempty, nofun⟩
    · cases h
  · cases h
    refine ⟨Percent.oneLine_encode _ _, fun p hp => ?_⟩
    split at hp
    · cases hp
    · cases hp
      exact Percent.oneLine_encode _ _

theorem oneLine_of_readAuthority {scheme : String} {cs rest : List Char} {a : Authority}
    (h : readAuthority scheme cs = some (a, rest)) : a.OneLine := by
  simp only [readAuthority, Option.bind_eq_bind, Option.bind_eq_some_iff] at h
  obtain ⟨⟨⟨user, password⟩, cs⟩, huser, h⟩ := h
  obtain ⟨hname, hpassword⟩ := oneLine_of_readUser huser
  obtain ⟨host, hhost, port, rfl⟩ :
      ∃ host, Text.OneLine host.text ∧ ∃ port, a = ⟨user, password, host, port⟩ := by
    split at h
    · obtain ⟨host, hread, h⟩ := Option.bind_eq_some_iff.mp h
      exact ⟨host, Host.oneLine_of_parse hread, by grind [Option.bind_eq_some_iff]⟩
    · obtain ⟨host, hread, h⟩ := Option.bind_eq_some_iff.mp h
      exact ⟨host, Host.oneLine_of_parseOpaque hread, by grind [Option.bind_eq_some_iff]⟩
  exact ⟨hname, hpassword, hhost⟩

theorem oneLine_of_splitScheme {cs rest : List Char} {scheme : String}
    (h : splitScheme cs = some (scheme, rest)) : Text.OneLine scheme := by
  unfold splitScheme at h
  dsimp only at h
  split at h
  next first name _ hname _ =>
    split at h
    · obtain ⟨rfl, -⟩ := Prod.mk.inj (Option.some.inj h)
      intro hmem
      have hpart := mem_of_mem_lowerCase (by decide) hmem
      rw [String.toList_ofList] at hpart
      have hfit := List.all_takeWhile (p := fun c : Char =>
        c.isAlphanum || decide (c = '+') || decide (c = '-') || decide (c = '.')) (l := cs)
      exact absurd (List.all_eq_true.mp hfit _ hpart) (by decide)
    · cases h
  next => cases h

theorem oneLine_segmentsOf (special : Bool) (cs : List Char) :
    ∀ s ∈ segmentsOf special cs, Text.OneLine s := by
  intro s hs
  obtain ⟨part, -, rfl⟩ := List.mem_map.mp hs
  exact Percent.oneLine_encode _ _

theorem mem_of_mem_goUp {done : List String} {s : String} (h : s ∈ goUp done) : s ∈ done := by
  unfold goUp at h
  split at h
  · exact h
  · exact List.mem_of_mem_tail h

/-- Dots are resolved within the segments; what is put in has no line feed either. -/
theorem oneLine_resolveDots (isLocal : Bool) {done segs : List String}
    (hdone : ∀ s ∈ done, Text.OneLine s) (hsegs : ∀ s ∈ segs, Text.OneLine s) :
    ∀ s ∈ resolveDots isLocal done segs, Text.OneLine s := by
  have hempty : Text.OneLine "" := by decide
  induction segs generalizing done with
  | nil => exact fun s hs => hdone s (List.mem_reverse.mp hs)
  | cons seg rest ih =>
    obtain ⟨hseg, hrest⟩ := List.forall_mem_cons.mp hsegs
    have hup : ∀ s ∈ goUp done, Text.OneLine s := fun s hs => hdone s (mem_of_mem_goUp hs)
    have hcolon : Text.OneLine (seg.map fun c => if c = '|' then ':' else c) := by
      rw [Text.OneLine, String.toList_map, List.mem_map]
      rintro ⟨c, hc, he⟩
      split at he
      · exact absurd he (by decide)
      · exact hseg (he ▸ hc)
    rw [resolveDots]
    dsimp only
    split
    · refine ih ?_ hrest
      split
      · exact List.forall_mem_cons.mpr ⟨hempty, hup⟩
      · exact hup
    · split
      · refine ih ?_ hrest
        split
        · exact List.forall_mem_cons.mpr ⟨hempty, hdone⟩
        · exact hdone
      · refine ih (List.forall_mem_cons.mpr ⟨?_, hdone⟩) hrest
        split
        · exact hcolon
        · exact hseg

theorem oneLine_path {segs : List String} (h : ∀ s ∈ segs, Text.OneLine s) :
    Text.OneLine (Path.segments segs).text := by
  refine oneLine_join fun s hs => ?_
  obtain ⟨t, ht, rfl⟩ := List.mem_map.mp hs
  exact OneLine.append (by decide) (h t ht)

theorem oneLine_withoutBlanks {segs : List String} (h : ∀ s ∈ segs, Text.OneLine s) :
    ∀ s ∈ withoutBlanks segs, Text.OneLine s := by
  have hempty : Text.OneLine "" := by decide
  unfold withoutBlanks
  split
  · exact List.forall_mem_singleton.mpr hempty
  · exact fun s hs => h s ((List.dropWhile_sublist _).subset hs)

theorem oneLine_localPlace {host : Host} (hhost : Text.OneLine host.text) (path : List Char) :
    Text.OneLine (localPlace host path).1.text ∧
      ∀ s ∈ (localPlace host path).2, Text.OneLine s := by
  have hempty : Text.OneLine "" := by decide
  have hchoice (p : Prop) [Decidable p] :
      Text.OneLine (if p then Host.name "" else host).text := by
    split
    · exact hempty
    · exact hhost
  have hroot (p : Prop) [Decidable p] : ∀ s ∈ if p then [""] else [], Text.OneLine s := by
    split
    · exact List.forall_mem_singleton.mpr hempty
    · exact List.forall_mem_nil _
  exact ⟨hchoice _, oneLine_withoutBlanks
    (oneLine_resolveDots true (hroot _) (oneLine_segmentsOf true path))⟩

theorem oneLine_of_readLocal {cs : List Char} {a : Authority} {segs : List String}
    (h : readLocal cs = some (a, segs)) : a.OneLine ∧ ∀ s ∈ segs, Text.OneLine s := by
  have hempty : Text.OneLine "" := by decide
  have hplace {host : Host} (hhost : Text.OneLine host.text) :
      (⟨"", none, host, none⟩ : Authority).OneLine :=
    ⟨hempty, nofun, hhost⟩
  have hnowhere (path : List Char) : (⟨"", none, .name "", none⟩ : Authority).OneLine ∧
      ∀ s ∈ withoutBlanks (resolveDots true [] (segmentsOf true path)), Text.OneLine s :=
    ⟨hplace hempty, oneLine_withoutBlanks
      (oneLine_resolveDots true (List.forall_mem_nil _) (oneLine_segmentsOf true path))⟩
  have hsome {host : Host} (hhost : Text.OneLine host.text) (path : List Char) :
      (⟨"", none, (localPlace host path).1, none⟩ : Authority).OneLine ∧
        ∀ s ∈ (localPlace host path).2, Text.OneLine s :=
    ⟨hplace (oneLine_localPlace hhost path).1, (oneLine_localPlace hhost path).2⟩
  unfold readLocal at h
  dsimp only at h
  split at h
  next x y rest =>
    split at h
    · cases h
      exact hnowhere _
    · split at h
      · cases h
        exact hnowhere _
      · split at h
        · cases h
          exact hnowhere _
        · split at h
          · cases h
            exact hsome (show Text.OneLine (Host.name "").text from hempty) _
          · obtain ⟨host, hread, h⟩ := Option.bind_eq_some_iff.mp h
            cases h
            exact hsome (Host.oneLine_of_parse hread) _
  · cases h
    exact hnowhere _

/-- An address whose parts before the query have no line feed; the others are encoded. -/
private theorem oneLine_finished {scheme : String} {authority : Option Authority} {path : Path}
    (hscheme : Text.OneLine scheme) (hauthority : ∀ a, authority = some a → a.OneLine)
    (hpath : Text.OneLine path.text) (set set' : Percent.EncodeSet)
    (query fragment : Option (List Char)) :
    (⟨scheme, authority, path, query.map (Percent.encode set),
      fragment.map (Percent.encode set')⟩ : Url).OneLine where
  scheme := hscheme
  authority := hauthority
  path := hpath
  query q hq := by
    obtain ⟨cs, -, rfl⟩ := Option.map_eq_some_iff.mp hq
    exact Percent.oneLine_encode set cs
  fragment f hf := by
    obtain ⟨cs, -, rfl⟩ := Option.map_eq_some_iff.mp hf
    exact Percent.oneLine_encode set' cs

private theorem oneLine_resolved (special : Bool) (cs : List Char) :
    Text.OneLine (Path.segments (resolveDots false [] (segmentsOf special cs))).text :=
  oneLine_path
    (oneLine_resolveDots false (List.forall_mem_nil _) (oneLine_segmentsOf special cs))

/-- Whatever an address was read from, it has no line feed. -/
theorem oneLine_of_parse {s : String} {u : Url} (h : parse? s = some u) : u.OneLine := by
  have hnone : ∀ a, (none : Option Authority) = some a → a.OneLine := nofun
  have hsome {a : Authority} (ha : a.OneLine) : ∀ b, some a = some b → b.OneLine := by
    intro b hb
    cases hb
    exact ha
  have hpath (main : List Char) (special : Bool) (path : List Char) : Text.OneLine
      (Path.segments (if main.isEmpty ∧ !special then []
        else resolveDots false [] (segmentsOf special path))).text := by
    split
    · exact (by decide : Text.OneLine "")
    · exact oneLine_resolved special path
  simp only [parse?, Option.bind_eq_bind, Option.bind_eq_some_iff] at h
  obtain ⟨⟨scheme, rest⟩, hread, h⟩ := h
  have hscheme := oneLine_of_splitScheme hread
  split at h
  · obtain ⟨⟨a, segs⟩, hlocal, h⟩ := Option.bind_eq_some_iff.mp h
    obtain ⟨ha, hsegs⟩ := oneLine_of_readLocal hlocal
    cases h
    exact oneLine_finished hscheme (hsome ha) (oneLine_path hsegs) _ _ _ _
  · split at h
    · obtain ⟨⟨a, cs⟩, hauthority, h⟩ := Option.bind_eq_some_iff.mp h
      cases h
      exact oneLine_finished hscheme (hsome (oneLine_of_readAuthority hauthority))
        (hpath _ _ _) _ _ _ _
    · split at h
      · obtain ⟨⟨a, cs⟩, hauthority, h⟩ := Option.bind_eq_some_iff.mp h
        cases h
        exact oneLine_finished hscheme (hsome (oneLine_of_readAuthority hauthority))
          (hpath _ _ _) _ _ _ _
      · cases h
        refine oneLine_finished hscheme hnone ?_ _ _ _ _
        split
        · exact oneLine_resolved false _
        · exact Percent.oneLine_encode _ _

end Url

end Http
end ModelChat
