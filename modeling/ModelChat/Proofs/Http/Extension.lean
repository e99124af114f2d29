import ModelChat.Proofs.Http.Authority

/-! Addresses with a path put behind them. Main statement: an address of a host leads to the same
server when its slashes at the end are replaced by a path. -/
namespace ModelChat.Http.Url
open Text

/-- What is dropped around an address. -/
def isEdge (c : Char) : Bool :=
  c.toNat ≤ 0x20

/-- What is dropped within an address. -/
def isDropped (c : Char) : Bool :=
  c = '\t' || c = '\n' || c = '\r'

/-- The characters of an address that count, but for those dropped at its end. -/
def front (cs : List Char) : List Char :=
  (cs.dropWhile isEdge).filter (!isDropped ·)

/-- A path that can stand behind an address as it is. -/
structure IsPath (x : List Char) : Prop where
  slash : x.head? = some '/'
  whole : ∀ c ∈ x, isEdge c = false

theorem isEdge_of_isDropped {c : Char} (h : isDropped c = true) : isEdge c = true := by
  simp only [isDropped, Bool.or_eq_true, decide_eq_true_eq] at h
  rcases h with (rfl | rfl) | rfl <;> decide

theorem mem_of_mem_cleaned {cs : List Char} {c : Char} (h : c ∈ cleaned cs) : c ∈ cs := by
  have htrimmed := List.mem_reverse.mp (List.mem_filter.mp h).1
  have hbegun := List.mem_reverse.mp ((List.dropWhile_sublist _).mem htrimmed)
  exact (List.dropWhile_sublist _).mem hbegun

theorem cleaned_append {cs x : List Char} (hx : ∀ c ∈ x, isDropped c = false)
    (hcs : cs.dropWhile isEdge ≠ [])
    (hlast : ∀ c, (cs ++ x).getLast? = some c → isEdge c = false) :
    cleaned (cs ++ x) = front cs ++ x := by
  let rest := cs.dropWhile isEdge
  have hdrop : (cs ++ x).dropWhile isEdge = rest ++ x := by
    rw [List.dropWhile_append, if_neg (by simpa using hcs)]
  have hend : ∀ c, (rest ++ x).reverse.head? = some c → isEdge c = false := by
    intro c hc
    refine hlast c ?_
    obtain ⟨d, hd⟩ : ∃ d, rest.getLast? = some d :=
      Option.ne_none_iff_exists'.mp (mt List.getLast?_eq_none_iff.mp hcs)
    have hsplit : cs = cs.takeWhile isEdge ++ rest := List.takeWhile_append_dropWhile.symm
    rw [← List.getLast?_eq_head?_reverse, List.getLast?_append, hd] at hc
    rw [hsplit, List.getLast?_append, List.getLast?_append, hd]
    exact hc
  have htrim : ((rest ++ x).reverse.dropWhile isEdge).reverse = rest ++ x := by
    rw [List.dropWhile_eq_self_iff.mpr, List.reverse_reverse]
    intro h
    rw [hend _ (List.head?_eq_getElem? ▸ List.getElem?_eq_getElem h)]
    exact Bool.false_ne_true
  have hfilter : (fun c : Char => decide (c ≠ '\t' ∧ c ≠ '\n' ∧ c ≠ '\r')) = (!isDropped ·) := by
    funext c
    simp [isDropped, Bool.and_assoc]
  change (((cs ++ x).dropWhile isEdge).reverse.dropWhile isEdge).reverse.filter _ = _
  rw [hdrop, htrim, hfilter, List.filter_append,
    List.filter_eq_self (l := x) |>.mpr fun c hc => by simp [hx c hc]]
  rfl

/-- What a scheme is made of. -/
def isSchemePart (c : Char) : Bool :=
  c.isAlphanum || c = '+' || c = '-' || c = '.'

theorem splitScheme_eq_some {cs : List Char} {scheme : String} {rest : List Char} :
    splitScheme cs = some (scheme, rest) ↔
      ∃ first name, cs = first :: name ++ ':' :: rest ∧
        (∀ c ∈ first :: name, isSchemePart c = true) ∧ first.isAlpha = true ∧
        scheme = lowerCase (String.ofList (first :: name)) := by
  have hpart : (fun c : Char => c.isAlphanum || c = '+' || c = '-' || c = '.') = isSchemePart := rfl
  simp only [splitScheme, hpart]
  constructor
  · intro h
    split at h
    next first name rest' hname hrest =>
      split at h
      next halpha =>
        obtain ⟨rfl, rfl⟩ := Prod.mk.inj (Option.some.inj h)
        refine ⟨first, name, ?_, ?_, halpha, by rw [hname]⟩
        · rw [← hname, ← hrest, List.takeWhile_append_dropWhile]
        · intro c hc
          exact List.mem_takeWhile_imp (hname ▸ hc)
      next => cases h
    next => cases h
  · rintro ⟨first, name, rfl, hpart, halpha, rfl⟩
    have hcolon : ∀ c, (':' :: rest).head? = some c → isSchemePart c = false := by
      rintro c ⟨⟩
      decide
    rw [takeWhile_behind _ hcolon, dropWhile_behind _ hcolon, List.takeWhile_eq_self_iff.mpr hpart,
      List.dropWhile_eq_nil_iff.mpr hpart]
    simp [halpha]

/-- The scheme is read off before anything that is put behind. -/
theorem splitScheme_append {cs x : List Char} (hx : ∀ c, x.head? = some c → c = '/')
    {scheme : String} {rest : List Char} (h : splitScheme (cs ++ x) = some (scheme, rest)) :
    ∃ place, rest = place ++ x ∧ ∀ y, splitScheme (cs ++ y) = some (scheme, place ++ y) := by
  obtain ⟨first, name, hsplit, hpart, halpha, hscheme⟩ := splitScheme_eq_some.mp h
  rcases List.append_eq_append_iff.mp hsplit with ⟨more, hcs, hx'⟩ | ⟨more, hcs, hrest⟩
  · -- The scheme would have to end in what is put behind.
    cases more with
    | nil => exact absurd (hx ':' (by rw [hx']; rfl)) (by decide)
    | cons c more =>
      obtain rfl : c = '/' := hx c (by rw [hx']; rfl)
      exact absurd (hpart '/' (by rw [hcs]; simp)) (by decide)
  · cases more with
    | nil => exact absurd (hx ':' (by rw [← List.nil_append x, ← hrest]; rfl)) (by decide)
    | cons c place =>
      obtain ⟨rfl, rfl⟩ := List.cons.inj hrest
      refine ⟨place, rfl, fun y => ?_⟩
      rw [splitScheme_eq_some]
      exact ⟨first, name, by rw [hcs]; simp, hpart, halpha, hscheme⟩

theorem parse?_eq_some {s : String} {u : Url} (h : parse? s = some u) :
    ∃ rest, splitScheme (cleaned s.toList) = some (u.scheme, rest) := by
  unfold parse? at h
  cases hsplit : splitScheme (cleaned s.toList) with
  | none => simp [hsplit] at h
  | some p =>
    obtain ⟨scheme, rest⟩ := p
    refine ⟨rest, ?_⟩
    suffices hs : u.scheme = scheme by rw [hs]
    simp only [hsplit, Option.bind_eq_bind, Option.bind_some] at h
    split at h
    · simp only [Option.bind_eq_some_iff] at h
      obtain ⟨p, hp, h⟩ := h
      rw [← Option.some.inj h]
    · split at h
      · simp only [Option.bind_eq_some_iff] at h
        obtain ⟨p, hp, h⟩ := h
        rw [← Option.some.inj h]
      · split at h
        · simp only [Option.bind_eq_some_iff] at h
          obtain ⟨p, hp, h⟩ := h
          rw [← Option.some.inj h]
        · rw [← Option.some.inj h]

/-- What an address of this scheme names is read off after the slashes. -/
theorem parse?_http {s : String} {rest : List Char}
    (h : splitScheme (cleaned s.toList) = some ("http", rest)) :
    (parse? s).map (fun u => (u.scheme, u.authority)) =
      (readAuthority "http" (rest.dropWhile (isSlash true))).map fun p => ("http", some p.1) := by
  have hspecial : isSpecial "http" = true := rfl
  have hfile : "http" ≠ "file" := by decide
  simp only [parse?, h, Option.bind_eq_bind, Option.bind_some, hspecial, if_neg hfile, if_true,
    Option.map_bind]
  rw [Option.map_eq_bind]
  rfl

/-- An address does not consist of slashes only, even after what is dropped before it. -/
private theorem begun_of_parse? {cs slashes : List Char} (hslashes : ∀ c ∈ slashes, c = '/')
    {u : Url} (hu : parse? (String.ofList (cs ++ slashes)) = some u) :
    cs.dropWhile isEdge ≠ [] := by
  intro hnone
  obtain ⟨rest, hsplit⟩ := parse?_eq_some hu
  obtain ⟨first, name, hread, -, halpha, -⟩ := splitScheme_eq_some.mp hsplit
  have hfirst : first ∈ cs ++ slashes := by
    refine mem_of_mem_cleaned ?_
    rw [← String.toList_ofList (l := cs ++ slashes), hread]
    exact List.mem_cons_self
  rcases List.mem_append.mp hfirst with h | h
  · have hedge := List.dropWhile_eq_nil_iff.mp hnone first h
    have hlow : first.toNat ≤ 0x20 := of_decide_eq_true hedge
    have hcontrol : ∀ n < 0x21, (Char.ofNat n).isAlpha = false := by decide
    have hother := hcontrol first.toNat (Nat.lt_succ_of_le hlow)
    rw [Char.ofNat_toNat, halpha] at hother
    cases hother
  · rw [hslashes first h] at halpha
    exact absurd halpha (by decide)

/-- The place named after the scheme leads to a server in the same way whatever is behind it. -/
private theorem readAuthority_behind {place x y : List Char}
    (hplace : place.dropWhile (isSlash true) ≠ []) (hx : ∀ c, x.head? = some c → c = '/')
    (hy : ∀ c, y.head? = some c → c = '/') :
    (readAuthority "http" ((place ++ x).dropWhile (isSlash true))).map Prod.fst =
      (readAuthority "http" ((place ++ y).dropWhile (isSlash true))).map Prod.fst := by
  let inside := (place.dropWhile (isSlash true)).takeWhile (!endsAuthority true ·)
  let after := (place.dropWhile (isSlash true)).dropWhile (!endsAuthority true ·)
  have hinside : ∀ c ∈ inside, endsAuthority true c = false := by
    intro c hc
    simpa using List.mem_takeWhile_imp hc
  have hread (z : List Char) (hz : ∀ c, z.head? = some c → c = '/') :
      (readAuthority "http" ((place ++ z).dropWhile (isSlash true))).map Prod.fst =
        (readAuthority "http" inside).map Prod.fst := by
    have hbehind : IsBehind (after ++ z) := by
      intro c hc
      cases hafter : after with
      | nil =>
        rw [hafter, List.nil_append] at hc
        rw [hz c hc]
        rfl
      | cons d ds =>
        obtain rfl : d = c := by simpa [hafter] using hc
        have hne : after ≠ [] := hafter ▸ List.cons_ne_nil d ds
        have hhead := List.head_dropWhile_not (!endsAuthority true ·) hne
        simpa [hafter, after] using hhead
    rw [List.dropWhile_append, if_neg (by simpa using hplace),
      ← List.takeWhile_append_dropWhile (p := (!endsAuthority true ·))
        (l := place.dropWhile (isSlash true)), List.append_assoc]
    exact readAuthority_append hbehind hinside
  rw [hread x hx, hread y hy]

/-- An address leads to the same server when a path takes the place of the slashes at its end. -/
theorem parse?_extended {cs slashes path : List Char} {u : Url}
    (hu : parse? (String.ofList (cs ++ slashes)) = some u) (hhttp : u.scheme = "http")
    (hlast : ∀ c, (cs ++ slashes).getLast? = some c → isEdge c = false)
    (hslashes : ∀ c ∈ slashes, c = '/') (hpath : IsPath path) :
    ∃ v, parse? (String.ofList (cs ++ path)) = some v ∧ v.scheme = u.scheme ∧
      v.authority = u.authority := by
  have hbegun := begun_of_parse? hslashes hu
  have hslash : ∀ c, slashes.head? = some c → c = '/' :=
    fun c hc => hslashes c (List.mem_of_head? hc)
  have hpathslash : ∀ c, path.head? = some c → c = '/' := by
    intro c hc
    rw [hpath.slash] at hc
    exact (Option.some.inj hc).symm
  have hbase : cleaned (cs ++ slashes) = front cs ++ slashes :=
    cleaned_append (fun c hc => hslashes c hc ▸ rfl) hbegun hlast
  have hlong : cleaned (cs ++ path) = front cs ++ path := by
    refine cleaned_append (fun c hc => ?_) hbegun (fun c hc => ?_)
    · exact Bool.eq_false_iff.mpr fun h =>
        Bool.false_ne_true (hpath.whole c hc ▸ isEdge_of_isDropped h)
    · obtain ⟨d, hd⟩ : ∃ d, path.getLast? = some d := by
        cases path with
        | nil => cases hpath.slash
        | cons d ds => exact ⟨_, List.getLast?_cons⟩
      rw [List.getLast?_append, hd] at hc
      obtain rfl : d = c := Option.some.inj hc
      exact hpath.whole d (List.mem_of_getLast? hd)
  obtain ⟨rest, hsplit⟩ := parse?_eq_some hu
  rw [hhttp, String.toList_ofList, hbase] at hsplit
  obtain ⟨place, rfl, hplace⟩ := splitScheme_append hslash hsplit
  have hnamed : place.dropWhile (isSlash true) ≠ [] := by
    intro hnone
    have hslashes' : ∀ c ∈ place ++ slashes, isSlash true c = true := List.forall_mem_append.mpr
      ⟨List.dropWhile_eq_nil_iff.mp hnone, fun c hc => hslashes c hc ▸ rfl⟩
    have hread := parse?_http (s := String.ofList (cs ++ slashes))
      (by rw [String.toList_ofList, hbase, hplace])
    rw [List.dropWhile_eq_nil_iff.mpr hslashes', readAuthority_nil, hu] at hread
    cases hread
  have hread (z : List Char) (hz : cleaned (cs ++ z) = front cs ++ z) :
      (parse? (String.ofList (cs ++ z))).map (fun v => (v.scheme, v.authority)) =
        ((readAuthority "http" ((place ++ z).dropWhile (isSlash true))).map Prod.fst).map
          fun a => ("http", some a) := by
    rw [parse?_http (by rw [String.toList_ofList, hz, hplace]), Option.map_map]
    rfl
  have hsame := (hread path hlong).trans
    ((congrArg _ (readAuthority_behind hnamed hpathslash hslash)).trans (hread slashes hbase).symm)
  rw [hu] at hsame
  obtain ⟨v, hv, hplaced⟩ := Option.map_eq_some_iff.mp hsame
  obtain ⟨hscheme, hauthority⟩ := Prod.mk.inj hplaced
  exact ⟨v, hv, hscheme, hauthority⟩

end ModelChat.Http.Url
