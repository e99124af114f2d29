import Mathlib.Data.List.Perm.Basic
import ModelChat.Reply

/-! End markers of replies. Main statement: a reply is finished if its text ends in a marker, of
which one goes and nothing else does; in which order the markers are tried makes no difference. -/
namespace ModelChat.Reply

/-- Takes at most one of the markers off the text, the first that is at its end. -/
def trying (markers : List String) (raw : String) : Reply :=
  match markers.findSome? (withoutMarker? raw) with
  | some t => finished t
  | none => truncated raw

theorem ofRaw_eq_trying (raw : String) : ofRaw raw = trying endMarkers raw := rfl

theorem withoutEnd?_eq_some {tail cs kept : List Char} :
    withoutEnd? tail cs = some kept ↔ cs = kept ++ tail := by
  unfold withoutEnd?
  dsimp only
  constructor
  · intro h
    split at h
    next hkept =>
      cases h
      exact hkept.symm
    next => cases h
  · rintro rfl
    have hkept : (kept ++ tail).take ((kept ++ tail).length - tail.length) = kept := by simp
    rw [hkept, if_pos rfl]

theorem withoutMarker?_eq_some {raw marker t : String} :
    withoutMarker? raw marker = some t ↔ raw = t ++ marker := by
  simp only [withoutMarker?, Option.map_eq_some_iff, withoutEnd?_eq_some]
  constructor
  · rintro ⟨kept, hraw, rfl⟩
    rw [← String.toList_inj, hraw, String.toList_append, String.toList_ofList]
  · rintro rfl
    exact ⟨t.toList, String.toList_append, String.ofList_toList⟩

/-- No text ends in two markers: neither of them is the end of the other. -/
theorem marker_unique {marker marker' t t' : String} (hmarker : marker ∈ endMarkers)
    (hmarker' : marker' ∈ endMarkers) (h : t ++ marker = t' ++ marker') : marker = marker' := by
  have hapart : ∀ m ∈ endMarkers, ∀ m' ∈ endMarkers, m.toList <:+ m'.toList → m = m' := by decide
  have hend : marker.toList <:+ (t ++ marker).toList := by simp
  have hend' : marker'.toList <:+ (t ++ marker).toList := by simp [h]
  rcases List.suffix_or_suffix_of_suffix hend hend' with hsuffix | hsuffix
  · exact hapart marker hmarker marker' hmarker' hsuffix
  · exact (hapart marker' hmarker' marker hmarker hsuffix).symm

section Trying
variable {markers : List String} (hmarkers : markers.Perm endMarkers) {raw t : String}
include hmarkers

theorem findSome?_marker :
    markers.findSome? (withoutMarker? raw) = some t ↔ ∃ marker ∈ endMarkers, raw = t ++ marker := by
  constructor
  · intro h
    obtain ⟨marker, hmem, hread⟩ := List.exists_of_findSome?_eq_some h
    exact ⟨marker, hmarkers.mem_iff.mp hmem, withoutMarker?_eq_some.mp hread⟩
  · rintro ⟨marker, hmem, rfl⟩
    match hfound : markers.findSome? (withoutMarker? (t ++ marker)) with
    | none =>
      have hnone := List.findSome?_eq_none_iff.mp hfound marker (hmarkers.mem_iff.mpr hmem)
      cases hnone.symm.trans (withoutMarker?_eq_some.mpr rfl)
    | some t' =>
      -- What was found may be the work of another marker, of which there is none.
      obtain ⟨marker', hmem', hread⟩ := List.exists_of_findSome?_eq_some hfound
      have hraw := withoutMarker?_eq_some.mp hread
      obtain rfl := marker_unique hmem (hmarkers.mem_iff.mp hmem') hraw
      rw [String.append_left_inj] at hraw
      rw [hraw]

theorem trying_eq_finished :
    trying markers raw = .finished t ↔ ∃ marker ∈ endMarkers, raw = t ++ marker := by
  rw [← findSome?_marker hmarkers, trying]
  cases markers.findSome? (withoutMarker? raw) <;> simp

theorem trying_eq_truncated :
    trying markers raw = .truncated t ↔
      t = raw ∧ ∀ kept, ∀ marker ∈ endMarkers, raw ≠ kept ++ marker := by
  have hnone : markers.findSome? (withoutMarker? raw) = none ↔
      ∀ kept, ∀ marker ∈ endMarkers, raw ≠ kept ++ marker := by
    rw [Option.eq_none_iff_forall_ne_some]
    refine forall_congr' fun kept => ?_
    rw [Ne, findSome?_marker hmarkers]
    simp only [not_exists, not_and, ne_eq]
  rw [← hnone, trying]
  cases markers.findSome? (withoutMarker? raw) <;> simp [eq_comm]

theorem trying_eq_ofRaw : trying markers raw = ofRaw raw := by
  have hfirst : endMarkers.Perm endMarkers := .refl endMarkers
  rw [ofRaw_eq_trying]
  cases h : trying endMarkers raw with
  | finished t => rwa [trying_eq_finished hmarkers, ← trying_eq_finished hfirst]
  | truncated t => rwa [trying_eq_truncated hmarkers, ← trying_eq_truncated hfirst]

end Trying

theorem forall_marker {p : String → Prop} :
    (∀ marker ∈ endMarkers, p marker) ↔ p "</s>" ∧ p "<eos>" := by
  simp [endMarkers]

theorem exists_marker {p : String → Prop} :
    (∃ marker ∈ endMarkers, p marker) ↔ p "</s>" ∨ p "<eos>" := by
  simp [endMarkers]

/-- A reply is finished with the text before a marker at the end of what came, and cut off with all
that came if there is no marker there. The marker that goes is one, whichever is tried first, and
what is before it stays, be it another marker or part of one. -/
theorem ofRaw_takes_one_marker (raw : String) :
    (∀ t, ofRaw raw = .finished t ↔ raw = t ++ "</s>" ∨ raw = t ++ "<eos>") ∧
    (∀ t, ofRaw raw = .truncated t ↔
      t = raw ∧ ∀ kept, raw ≠ kept ++ "</s>" ∧ raw ≠ kept ++ "<eos>") ∧
    (∀ t, ∀ marker ∈ endMarkers, ofRaw (t ++ marker) = .finished t) ∧
    (∀ markers, markers.Perm endMarkers → trying markers raw = ofRaw raw) ∧
    (∀ reply : Reply, reply.display = match reply with
      | .finished _ => reply.text
      | .truncated _ => reply.text ++ "...") ∧
    ∃ tail, raw = (ofRaw raw).text ++ tail ∧
      if (ofRaw raw).isTruncated then tail = "" else tail ∈ endMarkers := by
  have hfirst : endMarkers.Perm endMarkers := .refl endMarkers
  refine ⟨fun t => ?_, fun t => ?_, fun t marker hmarker => ?_, fun markers hmarkers => ?_,
    fun reply => ?_, ?_⟩
  · rw [ofRaw_eq_trying, trying_eq_finished hfirst, exists_marker]
  · simp only [ofRaw_eq_trying, trying_eq_truncated hfirst, forall_marker]
  · exact (trying_eq_finished hfirst).mpr ⟨marker, hmarker, rfl⟩
  · exact trying_eq_ofRaw hmarkers
  · cases reply <;> rfl
  · cases h : ofRaw raw with
    | finished t =>
      obtain ⟨marker, hmarker, hraw⟩ := (trying_eq_finished hfirst).mp h
      exact ⟨marker, hraw, hmarker⟩
    | truncated t =>
      obtain ⟨rfl, -⟩ := (trying_eq_truncated hfirst).mp h
      exact ⟨"", by simp [text], rfl⟩

end ModelChat.Reply
