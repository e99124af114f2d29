import Mathlib.Data.List.Nodup
import ModelChat.Proofs.Json.PrettyPrinter

/-! Values whose members change places. Main statements: the order of members makes no difference
to the sorted value, and a value whose names are distinct differs from the sorted one in the order
of members only. -/
namespace ModelChat.Json

/-- The last value of a name among members. -/
def Last (members : List (String × Json)) (name : String) (v : Json) : Prop :=
  ∃ before after, members = before ++ (name, v) :: after ∧ ∀ m ∈ after, m.1 ≠ name

/-- Values that differ in the places of their members, at any depth. Among members of one name the
places matter, so their names are distinct. -/
inductive Reordered : Json → Json → Prop
  | refl (v : Json) : Reordered v v
  | trans {u v w : Json} : Reordered u v → Reordered v w → Reordered u w
  | perm {members others : List (String × Json)} : (members.map Prod.fst).Nodup →
    members.Perm others → Reordered (.object members) (.object others)
  | item {v w : Json} {before after : List Json} : Reordered v w →
    Reordered (.array (before ++ v :: after)) (.array (before ++ w :: after))
  | value {v w : Json} {name : String} {before after : List (String × Json)} : Reordered v w →
    Reordered (.object (before ++ (name, v) :: after)) (.object (before ++ (name, w) :: after))

/-- No object has two members of one name. -/
inductive HasDistinctNames : Json → Prop
  | plain {v : Json} : IsPlain v → HasDistinctNames v
  | array {items : List Json} : (∀ v ∈ items, HasDistinctNames v) → HasDistinctNames (.array items)
  | object {members : List (String × Json)} : (members.map Prod.fst).Nodup →
    (∀ m ∈ members, HasDistinctNames m.2) → HasDistinctNames (.object members)

section Members
variable {ms done : List (String × Json)} {m : String × Json} {name : String} {v : Json}

theorem not_last_nil : ¬ Last [] name v := by
  rintro ⟨before, after, h, -⟩
  cases before <;> cases h

theorem last_cons : Last (m :: ms) name v ↔
    Last ms name v ∨ m = (name, v) ∧ ∀ k ∈ ms, k.1 ≠ name := by
  constructor
  · rintro ⟨before, after, hsplit, hafter⟩
    cases before with
    | nil =>
      obtain ⟨rfl, rfl⟩ := List.cons.inj hsplit
      exact .inr ⟨rfl, hafter⟩
    | cons k before =>
      obtain ⟨-, rfl⟩ := List.cons.inj hsplit
      exact .inl ⟨before, after, rfl, hafter⟩
  · rintro (⟨before, after, rfl, hafter⟩ | ⟨rfl, hafter⟩)
    · exact ⟨m :: before, after, rfl, hafter⟩
    · exact ⟨[], ms, rfl, hafter⟩

theorem Last.mem (h : Last ms name v) : (name, v) ∈ ms := by
  obtain ⟨before, after, rfl, -⟩ := h
  exact List.mem_append_right before List.mem_cons_self

theorem last_of_nodup (h : (ms.map Prod.fst).Nodup) : Last ms name v ↔ (name, v) ∈ ms := by
  refine ⟨Last.mem, fun hv => ?_⟩
  obtain ⟨before, after, rfl⟩ := List.append_of_mem hv
  refine ⟨before, after, rfl, fun m hm hname => ?_⟩
  rw [List.map_append, List.map_cons] at h
  have hlater := (List.nodup_cons.mp (List.nodup_append.mp h).2.1).1
  exact hlater (List.mem_map.mpr ⟨m, hm, hname⟩)

theorem nodup_of_sorted (h : ms.Pairwise (·.1 < ·.1)) : (ms.map Prod.fst).Nodup :=
  List.pairwise_map.mpr (h.imp fun hlt => ne_of_lt hlt)

/-- Members of distinct names are the same up to their places if they are the same ones. -/
theorem perm_of_nodup {ks : List (String × Json)} (hms : (ms.map Prod.fst).Nodup)
    (hks : (ks.map Prod.fst).Nodup) (h : ∀ m, m ∈ ms ↔ m ∈ ks) : ms.Perm ks :=
  (List.perm_ext_iff_of_nodup (List.Nodup.of_map _ hms) (List.Nodup.of_map _ hks)).mpr h

theorem mem_insertMember_iff (h : ms.Pairwise (·.1 < ·.1)) :
    m ∈ insertMember name v ms ↔ m = (name, v) ∨ m ∈ ms ∧ m.1 ≠ name := by
  induction ms with
  | nil => simp [insertMember]
  | cons k ms ih =>
    obtain ⟨hk, hms⟩ := List.pairwise_cons.mp h
    have hlater {x : String} (hx : x ≤ k.1) : ∀ j ∈ ms, j.1 ≠ x :=
      fun j hj => ne_of_gt (lt_of_le_of_lt hx (hk j hj))
    unfold insertMember
    split
    next hlt =>
      have hother : ∀ j ∈ k :: ms, j.1 ≠ name :=
        List.forall_mem_cons.mpr ⟨ne_of_gt hlt, hlater (le_of_lt hlt)⟩
      rw [List.mem_cons, and_iff_left_of_imp (hother m)]
    next =>
      split
      next heq =>
        have hother : m ∈ ms → m.1 ≠ name := hlater (le_of_eq heq) m
        have hsame : m = k → m.1 = name := fun hm => by rw [hm, heq]
        simp only [List.mem_cons]
        tauto
      next hne =>
        have hfirst : m = k → m.1 ≠ name := fun hm => by
          rw [hm]
          exact Ne.symm hne
        simp only [List.mem_cons, ih hms]
        tauto

/-- Each name stands once among the sorted members, with its last value. -/
theorem mem_canonicalMembers_iff (h : done.Pairwise (·.1 < ·.1)) :
    m ∈ canonicalMembers ms done ↔ (∃ u, Last ms m.1 u ∧ u.canonical = m.2) ∨
      m ∈ done ∧ ∀ k ∈ ms, k.1 ≠ m.1 := by
  induction ms generalizing done with
  | nil => simp [canonicalMembers, not_last_nil]
  | cons k ms ih =>
    obtain ⟨name, v⟩ := k
    rw [canonicalMembers, ih (pairwise_insertMember name v.canonical h), mem_insertMember_iff h]
    simp only [last_cons, List.forall_mem_cons, Prod.ext_iff]
    constructor
    · rintro (⟨u, hu, hm⟩ | ⟨⟨hname, hm⟩ | ⟨hm, hname⟩, hother⟩)
      · exact .inl ⟨u, .inl hu, hm⟩
      · exact .inl ⟨v, .inr ⟨⟨hname.symm, rfl⟩, hother⟩, hm.symm⟩
      · exact .inr ⟨hm, Ne.symm hname, hother⟩
    · rintro (⟨u, hu | ⟨⟨hname, rfl⟩, hother⟩, hm⟩ | ⟨hm, hname, hother⟩)
      · exact .inl ⟨u, hu, hm⟩
      · exact .inr ⟨.inl ⟨hname.symm, hm.symm⟩, hother⟩
      · exact .inr ⟨.inr ⟨hm, Ne.symm hname⟩, hother⟩

theorem mem_canonicalMembers_nil :
    m ∈ canonicalMembers ms [] ↔ ∃ u, Last ms m.1 u ∧ u.canonical = m.2 := by
  rw [mem_canonicalMembers_iff .nil]
  simp

theorem canonicalMembers_append (ks : List (String × Json)) :
    canonicalMembers (ms ++ ks) done = canonicalMembers ks (canonicalMembers ms done) := by
  induction ms generalizing done with
  | nil => rfl
  | cons m ms ih =>
    rw [List.cons_append, canonicalMembers, canonicalMembers]
    exact ih

/-- Sorted members are the same if the last value of each name is. -/
theorem canonicalMembers_eq_of_last {ks : List (String × Json)}
    (h : ∀ name v, Last ms name v ↔ Last ks name v) :
    canonicalMembers ms [] = canonicalMembers ks [] := by
  have hms := pairwise_canonicalMembers ms .nil
  have hks := pairwise_canonicalMembers ks .nil
  have hmem (m : String × Json) : m ∈ canonicalMembers ms [] ↔ m ∈ canonicalMembers ks [] := by
    rw [mem_canonicalMembers_nil, mem_canonicalMembers_nil]
    simp only [h]
  have hperm := perm_of_nodup (nodup_of_sorted hms) (nodup_of_sorted hks) hmem
  exact hperm.eq_of_pairwise (fun _ _ _ _ hlt hgt => absurd hgt (lt_asymm hlt)) hms hks

end Members

namespace Reordered
variable {v w : Json}

private theorem forall_replaced {α : Type} {P : α → Prop} {a a' : α} {before after : List α}
    (h : ∀ x ∈ before ++ a :: after, P x) (ha : P a → P a') : ∀ x ∈ before ++ a' :: after, P x := by
  rw [List.forall_mem_append, List.forall_mem_cons] at h ⊢
  exact ⟨h.1, ha h.2.1, h.2.2⟩

/-- Sorting brings members back to the same places. -/
theorem canonical_eq (h : Reordered v w) : v.canonical = w.canonical := by
  induction h with
  | refl => rfl
  | trans _ _ ihv ihw => rw [ihv, ihw]
  | @perm members others hnames hperm =>
    have hothers : (others.map Prod.fst).Nodup := (hperm.map Prod.fst).nodup_iff.mp hnames
    rw [canonical, canonical, canonicalMembers_eq_of_last fun name v => ?_]
    rw [last_of_nodup hnames, last_of_nodup hothers, hperm.mem_iff]
  | item _ ih => simp only [canonical, canonicalItems_eq_map, List.map_append, List.map_cons, ih]
  | value _ ih => simp only [canonical, canonicalMembers_append, canonicalMembers, ih]

theorem isWhole (h : Reordered v w) (hv : IsWhole v) : IsWhole w := by
  induction h with
  | refl => exact hv
  | trans _ _ ihv ihw => exact ihw (ihv hv)
  | perm _ hperm =>
    cases hv with
    | object hmembers => exact .object fun m hm => hmembers m (hperm.mem_iff.mpr hm)
  | item _ ih =>
    cases hv with
    | array hitems => exact .array (forall_replaced hitems ih)
  | value _ ih =>
    cases hv with
    | object hmembers => exact .object (forall_replaced hmembers ih)

theorem nests (h : Reordered v w) {room : Nat} (hv : Nests room v) : Nests room w := by
  induction h generalizing room with
  | refl => exact hv
  | trans _ _ ihv ihw => exact ihw (ihv hv)
  | perm _ hperm =>
    cases hv with
    | plain h => exact h.elim
    | object hmembers => exact .object fun m hm => hmembers m (hperm.mem_iff.mpr hm)
  | item _ ih =>
    cases hv with
    | plain h => exact h.elim
    | array hitems => exact .array (forall_replaced hitems ih)
  | value _ ih =>
    cases hv with
    | plain h => exact h.elim
    | object hmembers => exact .object (forall_replaced hmembers ih)

/-- All items may be reordered, one after another. -/
private theorem items {f : Json → Json} {vs : List Json} (h : ∀ v ∈ vs, Reordered v (f v))
    (before : List Json) : Reordered (.array (before ++ vs)) (.array (before ++ vs.map f)) := by
  induction vs generalizing before with
  | nil => exact .refl _
  | cons v vs ih =>
    obtain ⟨hv, hvs⟩ := List.forall_mem_cons.mp h
    have hrest := ih hvs (before ++ [f v])
    rw [← List.append_cons, ← List.append_cons] at hrest
    exact .trans (.item hv) hrest

private theorem values {f : Json → Json} {ms : List (String × Json)}
    (h : ∀ m ∈ ms, Reordered m.2 (f m.2)) (before : List (String × Json)) :
    Reordered (.object (before ++ ms)) (.object (before ++ ms.map fun m => (m.1, f m.2))) := by
  induction ms generalizing before with
  | nil => exact .refl _
  | cons m ms ih =>
    obtain ⟨hm, hms⟩ := List.forall_mem_cons.mp h
    have hrest := ih hms (before ++ [(m.1, f m.2)])
    rw [← List.append_cons, ← List.append_cons] at hrest
    exact .trans (.value hm) hrest

end Reordered

theorem IsWhole.canonical {v : Json} (h : IsWhole v) : IsWhole v.canonical := by
  induction h with
  | null => exact .null
  | bool b => exact .bool b
  | integer h => exact .integer h
  | string s => exact .string s
  | array _ ih =>
    rw [Json.canonical, canonicalItems_eq_map]
    exact .array (List.forall_mem_map.mpr ih)
  | object _ ih =>
    rw [Json.canonical]
    refine .object fun m hm => ?_
    obtain ⟨u, hu, hm⟩ := mem_canonicalMembers_nil.mp hm
    rw [← hm]
    exact ih _ hu.mem

/-- Where names are distinct, sorting does no more than change the places of members. -/
theorem reordered_canonical {v : Json} (h : HasDistinctNames v) : Reordered v v.canonical := by
  induction h with
  | plain h =>
    rw [h.canonical_eq]
    exact .refl _
  | @array items _ ih =>
    rw [canonical, canonicalItems_eq_map]
    exact .items ih []
  | @object members hnames _ ih =>
    rw [canonical]
    let sorted := members.map fun m => (m.1, m.2.canonical)
    have hsame : sorted.map Prod.fst = members.map Prod.fst := by simp [sorted]
    have hnodup : (sorted.map Prod.fst).Nodup := hsame ▸ hnames
    have hmem (m : String × Json) : m ∈ sorted ↔ m ∈ canonicalMembers members [] := by
      rw [mem_canonicalMembers_nil]
      simp only [last_of_nodup hnames, sorted, List.mem_map, Prod.ext_iff, Prod.exists]
      constructor
      · rintro ⟨_, u, hu, rfl, hm⟩
        exact ⟨u, hu, hm⟩
      · rintro ⟨u, hu, hm⟩
        exact ⟨m.1, u, hu, rfl, hm⟩
    have hsorted := nodup_of_sorted (pairwise_canonicalMembers members .nil)
    exact .trans (.values ih []) (.perm hnodup (perm_of_nodup hnodup hsorted hmem))

end ModelChat.Json
