import Mathlib.Data.List.Basic
import ModelChat.Http.Header

/-! The order in which fields are shown. Main statement: grouped fields are the given ones, those of
a name as they were given, and the names in the order in which they first appear. -/
namespace ModelChat.Http

section FirstPlaces
variable {α : Type} [DecidableEq α]

/-- Leaving out what is neither of two does not change which of them comes first. -/
private theorem idxOf_lt_of_filter {a b c : α} (hb : b ≠ a) (hc : c ≠ a) {l : List α}
    (h : (l.filter (!· == a)).idxOf b < (l.filter (!· == a)).idxOf c) :
    l.idxOf b < l.idxOf c := by
  induction l with
  | nil => exact h
  | cons x l ih => grind

/-- What is left of a list without repetitions stands in the order of the first places. -/
theorem pairwise_eraseDups (l : List α) :
    l.eraseDups.Pairwise fun a b => l.idxOf a < l.idxOf b := by
  induction hn : l.length using Nat.strongRecOn generalizing l with
  | ind n ih =>
    cases l with
    | nil => exact .nil
    | cons a l =>
      have hshorter : (l.filter (!· == a)).length < n :=
        hn ▸ Nat.lt_succ_of_le (List.length_filter_le _ _)
      have hrest := ih _ hshorter (l.filter (!· == a)) rfl
      have hother : ∀ b ∈ (l.filter (!· == a)).eraseDups, b ≠ a := by
        intro b hb
        simpa using (List.mem_filter.mp (List.mem_eraseDups.mp hb)).2
      rw [List.eraseDups_cons]
      refine .cons (fun b hb => ?_) (hrest.imp_of_mem fun {b c} hb hc hlt => ?_)
      · simp [(hother b hb).symm]
      · have hlater := idxOf_lt_of_filter (hother b hb) (hother c hc) hlt
        simpa [List.idxOf_cons, (hother b hb).symm, (hother c hc).symm] using hlater

end FirstPlaces

namespace Header

/-- Fields in groups: those of a name as they were given, and the names in the order in which they
first appear. -/
structure Grouped {α : Type} (name : α → String) (given shown : List α) : Prop where
  each : shown.Perm given
  within (k : String) : shown.filter (name · = k) = given.filter (name · = k)
  order : shown.Pairwise fun x y =>
    (given.map name).idxOf (name x) ≤ (given.map name).idxOf (name y)

/-- Of different names at most one is a given one. -/
private theorem flatMap_only {β : Type} {ks : List String} (hks : ks.Nodup) (k : String)
    (xs : List β) : (ks.flatMap fun i => if i = k then xs else []) = if k ∈ ks then xs else [] := by
  induction ks with
  | nil => rfl
  | cons i ks ih =>
    obtain ⟨hi, hks⟩ := List.nodup_cons.mp hks
    rw [List.flatMap_cons, ih hks]
    grind

theorem filter_grouped (hs : List Header) (k : String) :
    (grouped hs).filter (·.key = k) = hs.filter (·.key = k) := by
  have hnodup : (hs.map key).eraseDups.Nodup :=
    (pairwise_eraseDups _).imp fun {i j} hlt he => by simp [he] at hlt
  have hpart (i : String) : (hs.filter (·.key = i)).filter (·.key = k) =
      if i = k then hs.filter (·.key = k) else [] := by
    rw [List.filter_filter]
    split
    next hi => simp [hi]
    next hi =>
      refine List.filter_eq_nil_iff.mpr fun h _ hboth => ?_
      simp only [Bool.and_eq_true, decide_eq_true_eq] at hboth
      exact hi (hboth.2.symm.trans hboth.1)
  rw [grouped, List.filter_flatMap]
  simp only [hpart]
  rw [flatMap_only hnodup]
  split
  next => rfl
  next hk =>
    refine (List.filter_eq_nil_iff.mpr fun h hh he => hk ?_).symm
    exact List.mem_eraseDups.mpr (List.mem_map.mpr ⟨h, hh, by simpa using he⟩)

theorem grouped_perm (hs : List Header) : (grouped hs).Perm hs := by
  refine List.perm_iff_count.mpr fun h => ?_
  have hown (l : List Header) : (l.filter (·.key = h.key)).count h = l.count h :=
    List.count_filter (decide_eq_true rfl)
  rw [← hown, filter_grouped, hown]

theorem grouped_order (hs : List Header) : (grouped hs).Pairwise fun x y =>
    (hs.map key).idxOf x.key ≤ (hs.map key).idxOf y.key := by
  have hkey {k : String} {x : Header} (hx : x ∈ hs.filter (·.key = k)) : x.key = k := by
    simpa using (List.mem_filter.mp hx).2
  rw [grouped, List.pairwise_flatMap]
  refine ⟨fun k _ => List.pairwise_of_forall_mem_list fun x hx y hy => ?_,
    (pairwise_eraseDups _).imp fun {i j} hlt x hx y hy => ?_⟩
  · exact Nat.le_of_eq (by rw [hkey hx, hkey hy])
  · rw [hkey hx, hkey hy]
    exact Nat.le_of_lt hlt

/-- What is shown of fields is grouped as the fields are, as long as it keeps their names. -/
theorem grouped_map {α : Type} (name : α → String) (line : Header → α)
    (hname : ∀ h, name (line h) = h.key) (hs : List Header) :
    Grouped name (hs.map line) ((grouped hs).map line) where
  each := (grouped_perm hs).map line
  within k := by
    simp only [List.filter_map, Function.comp_def, hname, filter_grouped]
  order := by
    simp only [List.pairwise_map, List.map_map, Function.comp_def, hname]
    exact grouped_order hs

end Header
end ModelChat.Http
