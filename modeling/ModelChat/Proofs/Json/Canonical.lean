import Mathlib.Data.String.Basic
import ModelChat.Json.Basic

/-! Values with their members sorted. Main statements: sorting leaves a sorted value as it is, and
puts nothing into a value that was not there. -/
namespace ModelChat.Json

/-- Has no parts. -/
def IsPlain : Json → Prop
  | .array _ => False
  | .object _ => False
  | _ => True

/-- What holds of a value whenever it holds of its parts holds of every value. -/
theorem forall_of_parts {P : Json → Prop} (plain : ∀ v, IsPlain v → P v)
    (array : ∀ items, (∀ v ∈ items, P v) → P (.array items))
    (object : ∀ members : List (String × Json), (∀ m ∈ members, P m.2) → P (.object members)) :
    ∀ v, P v
  | .null => plain .null trivial
  | .bool b => plain (.bool b) trivial
  | .integer i => plain (.integer i) trivial
  | .real x => plain (.real x) trivial
  | .string s => plain (.string s) trivial
  | .array items => array items fun v _ => forall_of_parts plain array object v
  | .object members => object members fun m hm =>
    have : sizeOf m.2 < 1 + sizeOf members := by
      have hmember := List.sizeOf_lt_of_mem hm
      obtain ⟨name, v⟩ := m
      simp only [Prod.mk.sizeOf_spec] at hmember ⊢
      omega
    forall_of_parts plain array object m.2

/-- All members stand in the order of their names, without repetitions. -/
inductive IsCanonical : Json → Prop
  | plain {v : Json} : IsPlain v → IsCanonical v
  | array {items : List Json} : (∀ v ∈ items, IsCanonical v) → IsCanonical (.array items)
  | object {members : List (String × Json)} : members.Pairwise (·.1 < ·.1) →
    (∀ m ∈ members, IsCanonical m.2) → IsCanonical (.object members)

theorem IsPlain.canonical_eq {v : Json} (h : IsPlain v) : v.canonical = v := by
  cases v with
  | array => exact h.elim
  | object => exact h.elim
  | _ => rfl

theorem canonicalItems_eq_map (vs : List Json) : canonicalItems vs = vs.map canonical := by
  induction vs with
  | nil => rfl
  | cons v vs ih => rw [canonicalItems, ih, List.map_cons]

theorem mem_insertMember {name : String} {v : Json} {ms : List (String × Json)}
    {m : String × Json} (h : m ∈ insertMember name v ms) : m = (name, v) ∨ m ∈ ms := by
  induction ms with
  | nil => exact .inl (List.mem_singleton.mp h)
  | cons k ms ih =>
    unfold insertMember at h
    split at h
    · exact List.mem_cons.mp h
    · split at h
      · exact (List.mem_cons.mp h).imp_right (List.mem_cons_of_mem k)
      · rcases List.mem_cons.mp h with rfl | h
        · exact .inr List.mem_cons_self
        · exact (ih h).imp_right (List.mem_cons_of_mem k)

theorem pairwise_insertMember (name : String) (v : Json) {ms : List (String × Json)}
    (h : ms.Pairwise (·.1 < ·.1)) : (insertMember name v ms).Pairwise (·.1 < ·.1) := by
  induction ms with
  | nil => exact List.pairwise_singleton _ _
  | cons k ms ih =>
    obtain ⟨hk, hms⟩ := List.pairwise_cons.mp h
    unfold insertMember
    split
    next hlt =>
      refine .cons (fun m hm => ?_) h
      rcases List.mem_cons.mp hm with rfl | hm
      · exact hlt
      · exact lt_trans hlt (hk m hm)
    next hnot =>
      split
      next heq =>
        subst heq
        exact .cons hk hms
      next hne =>
        -- The new member belongs somewhere behind the first one.
        have hlater : k.1 < name := lt_of_le_of_ne (le_of_not_gt hnot) (Ne.symm hne)
        refine .cons (fun m hm => ?_) (ih hms)
        rcases mem_insertMember hm with rfl | hm
        · exact hlater
        · exact hk m hm

/-- What comes after all names is put at the end. -/
theorem insertMember_last {name : String} (v : Json) {ms : List (String × Json)}
    (h : ∀ m ∈ ms, m.1 < name) : insertMember name v ms = ms ++ [(name, v)] := by
  induction ms with
  | nil => rfl
  | cons k ms ih =>
    obtain ⟨hk, hms⟩ := List.forall_mem_cons.mp h
    rw [insertMember, if_neg (lt_asymm hk), if_neg (ne_of_gt hk), ih hms, List.cons_append]

theorem mem_canonicalMembers {ms done : List (String × Json)} {m : String × Json}
    (h : m ∈ canonicalMembers ms done) : m ∈ done ∨ ∃ k ∈ ms, m = (k.1, k.2.canonical) := by
  induction ms generalizing done with
  | nil => exact .inl h
  | cons k ms ih =>
    rw [canonicalMembers] at h
    rcases ih h with hdone | ⟨k', hk', rfl⟩
    · rcases mem_insertMember hdone with rfl | hdone
      · exact .inr ⟨k, List.mem_cons_self, rfl⟩
      · exact .inl hdone
    · exact .inr ⟨k', List.mem_cons_of_mem k hk', rfl⟩

theorem pairwise_canonicalMembers (ms : List (String × Json)) {done : List (String × Json)}
    (h : done.Pairwise (·.1 < ·.1)) : (canonicalMembers ms done).Pairwise (·.1 < ·.1) := by
  induction ms generalizing done with
  | nil => exact h
  | cons k ms ih =>
    rw [canonicalMembers]
    exact ih (pairwise_insertMember k.1 k.2.canonical h)

/-- Sorted members are taken over one by one. -/
theorem canonicalMembers_eq_append {ms done : List (String × Json)}
    (hsorted : (done ++ ms).Pairwise (·.1 < ·.1)) (hvalues : ∀ m ∈ ms, m.2.canonical = m.2) :
    canonicalMembers ms done = done ++ ms := by
  induction ms generalizing done with
  | nil => exact (List.append_nil done).symm
  | cons k ms ih =>
    obtain ⟨hk, hms⟩ := List.forall_mem_cons.mp hvalues
    have hbefore : ∀ m ∈ done, m.1 < k.1 := fun m hm =>
      (List.pairwise_append.mp hsorted).2.2 m hm k List.mem_cons_self
    rw [List.append_cons] at hsorted ⊢
    rw [canonicalMembers, hk, insertMember_last k.2 hbefore]
    exact ih hsorted hms

/-- Sorting gives a sorted value. -/
theorem isCanonical_canonical (v : Json) : IsCanonical v.canonical := by
  induction v using forall_of_parts with
  | plain v h =>
    rw [h.canonical_eq]
    exact .plain h
  | array items ih =>
    rw [canonical, canonicalItems_eq_map]
    exact .array (List.forall_mem_map.mpr ih)
  | object members ih =>
    rw [canonical]
    refine .object (pairwise_canonicalMembers members .nil) fun m hm => ?_
    obtain h | ⟨k, hk, rfl⟩ := mem_canonicalMembers hm
    · cases h
    · exact ih k hk

/-- Sorted values are left alone. -/
theorem IsCanonical.canonical_eq {v : Json} (h : IsCanonical v) : v.canonical = v := by
  induction h with
  | plain h => exact h.canonical_eq
  | @array items _ ih =>
    rw [canonical, canonicalItems_eq_map, List.map_congr_left ih, List.map_id']
  | @object members hsorted _ ih =>
    have hsame : canonicalMembers members [] = [] ++ members :=
      canonicalMembers_eq_append hsorted ih
    rw [canonical, hsame, List.nil_append]

end ModelChat.Json
