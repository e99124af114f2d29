import ModelChat.Proofs.Json.Canonical
import ModelChat.Proofs.Json.Record

/-! How deep values nest. Main statement: what has been read nests no deeper than a reader allows,
and so does the same value sorted. -/
namespace ModelChat.Json

/-- Has at most `room` brackets around any part. -/
inductive Nests : (room : Nat) → Json → Prop
  | plain {room : Nat} {v : Json} : IsPlain v → Nests room v
  | array {room : Nat} {items : List Json} :
    (∀ v ∈ items, Nests room v) → Nests (room + 1) (.array items)
  | object {room : Nat} {members : List (String × Json)} :
    (∀ m ∈ members, Nests room m.2) → Nests (room + 1) (.object members)

theorem Nests.canonical {room : Nat} {v : Json} (h : Nests room v) : Nests room v.canonical := by
  induction h with
  | plain h =>
    rw [h.canonical_eq]
    exact .plain h
  | array _ ih =>
    rw [Json.canonical, canonicalItems_eq_map]
    exact .array (List.forall_mem_map.mpr ih)
  | object _ ih =>
    rw [Json.canonical]
    refine .object fun m hm => ?_
    obtain h | ⟨k, hk, rfl⟩ := mem_canonicalMembers hm
    · cases h
    · exact ih k hk

section Readers
variable {α : Type} {P : α → Prop}

/-- What holds of all a reader can read. -/
def Yields (read : Reader α) (P : α → Prop) : Prop :=
  ∀ s a rest, read s = .ok (a, rest) → P a

theorem Yields.map {β : Type} {Q : β → Prop} {read : Reader α} (h : Yields read P) {f : α → β}
    (hf : ∀ a, P a → Q (f a)) : Yields (fun s => (read s).map fun p => (f p.1, p.2)) Q := by
  intro s b rest hread
  dsimp only at hread
  cases hs : read s with
  | error fault =>
    rw [hs] at hread
    cases hread
  | ok p =>
    rw [hs] at hread
    cases hread
    exact hf p.1 (h s p.1 p.2 hs)

theorem Yields.readItems {item : Reader α} (h : Yields item P) (n : Nat) (first : Bool) :
    Yields (readItems item n first) fun items => ∀ a ∈ items, P a := by
  intro s items rest hread
  induction n generalizing first s items with
  | zero =>
    cases hread
    exact List.forall_mem_nil _
  | succ n ih =>
    rw [Json.readItems, bind_eq_ok] at hread
    obtain ⟨next, -, hread⟩ := hread
    cases next with
    | none =>
      cases hread
      exact List.forall_mem_nil _
    | some s =>
      simp only [bind_eq_ok] at hread
      obtain ⟨⟨a, s⟩, hitem, ⟨items, s'⟩, hitems, hread⟩ := hread
      cases hread
      exact List.forall_mem_cons.mpr ⟨h _ _ _ hitem, ih _ _ _ hitems⟩

theorem Yields.readMembers {value : Reader α} (h : Yields value P) (n : Nat) (first : Bool) :
    Yields (readMembers value n first) fun members => ∀ m ∈ members, P m.2 := by
  intro s members rest hread
  induction n generalizing first s members with
  | zero =>
    cases hread
    exact List.forall_mem_nil _
  | succ n ih =>
    rw [Json.readMembers, bind_eq_ok] at hread
    obtain ⟨next, -, hread⟩ := hread
    cases next with
    | none =>
      cases hread
      exact List.forall_mem_nil _
    | some next =>
      simp only [bind_eq_ok] at hread
      obtain ⟨s, -, ⟨a, s'⟩, hvalue, ⟨members, s''⟩, hmembers, hread⟩ := hread
      cases hread
      exact List.forall_mem_cons.mpr ⟨h _ _ _ hvalue, ih _ _ _ hmembers⟩

theorem Yields.enclosed {body : Reader α} (h : Yields body P) (b : Bracket) :
    Yields (enclosed b body) P := by
  intro s a rest hread
  unfold Json.enclosed at hread
  split at hread
  next hbody =>
    split at hread
    · cases hread
      exact h _ _ _ hbody
    · cases hread
  next => cases hread
  next => cases hread

end Readers

theorem yields_readNumber (negative : Bool) : Yields (readNumber negative) IsPlain := by
  intro s v rest h
  simp only [readNumber, bind_eq_ok] at h
  obtain ⟨⟨n, s'⟩, -, h⟩ := h
  split at h
  next hvalue =>
    cases h
    obtain ⟨i, rfl⟩ | ⟨x, rfl⟩ := n.value_number hvalue
    · trivial
    · trivial
  next => cases h

theorem yields_readScalar (c : UInt8) : Yields (readScalar c) IsPlain := by
  have hword (w : Bytes) {v : Json} (hv : IsPlain v) :
      ∀ s a rest, (readWord w s).map (v, ·) = .ok (a, rest) → IsPlain a := by
    intro s a rest h
    cases hs : readWord w s with
    | error fault =>
      rw [hs] at h
      cases h
    | ok s' =>
      rw [hs] at h
      cases h
      exact hv
  intro s v rest h
  unfold readScalar at h
  split at h
  · exact hword _ (v := .null) trivial _ _ _ h
  · split at h
    · exact hword _ (v := .bool true) trivial _ _ _ h
    · split at h
      · exact hword _ (v := .bool false) trivial _ _ _ h
      · split at h
        · exact yields_readNumber true _ _ _ h
        · split at h
          · exact yields_readNumber false _ _ _ h
          · split at h
            · have hstring : Yields readString fun _ => True := fun _ _ _ _ => trivial
              exact hstring.map (Q := IsPlain) (f := Json.string) (fun _ _ => trivial) _ _ _ h
            · cases h

theorem yields_readValue (bound room : Nat) : Yields (readValue bound room) (Nests room) := by
  induction room with
  | zero =>
    intro s v rest h
    unfold readValue at h
    split at h
    · cases h
    · split at h
      · cases h
      · exact .plain (yields_readScalar _ _ _ _ h)
  | succ room ih =>
    intro s v rest h
    unfold readValue at h
    split at h
    · cases h
    · split at h
      · exact ((ih.readItems bound true).enclosed .square).map (fun _ => Nests.array) _ _ _ h
      · split at h
        · exact ((ih.readMembers bound true).enclosed .brace).map (fun _ => Nests.object) _ _ _ h
        · exact .plain (yields_readScalar _ _ _ _ h)

/-- Whatever has been read nests no deeper than it may. -/
theorem nests_of_parse {s : Bytes} {v : Json} (h : parse s = .ok v) : Nests maxDepth v := by
  unfold parse readText at h
  split at h
  · cases h
  next hread =>
    split at h
    · cases h
      exact yields_readValue _ _ _ _ _ hread
    · cases h

end ModelChat.Json
