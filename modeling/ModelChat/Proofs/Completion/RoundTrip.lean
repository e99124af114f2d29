import ModelChat.Proofs.Completion.Classification
import ModelChat.Proofs.Json.Reordering

/-! The text of a model on its way through a response. Main statement: it arrives as it is, however
the body is laid out and whatever else the body holds. -/
namespace ModelChat
open Text Http

namespace Json
variable {v w : Json}

section Paths

theorem has_object {members : List (String × Json)} {name : String} :
    Has name (.object members) w ↔ Last members name w := by
  simp [Has, Last]

theorem has_canonical {name : String} :
    Has name v.canonical w ↔ ∃ u, Has name v u ∧ u.canonical = w := by
  cases v with
  | object members =>
    have hnames := nodup_of_sorted (pairwise_canonicalMembers members .nil)
    simp only [canonical, has_object, last_of_nodup hnames, mem_canonicalMembers_nil]
  | _ => simp [canonical, Has]

/-- A sorted value holds in each place what the value holds there, sorted. -/
theorem at_canonical {path : List Step} :
    At path v.canonical w ↔ ∃ u, At path v u ∧ u.canonical = w := by
  induction path generalizing v with
  | nil => simp [At]
  | cons step path ih =>
    cases step with
    | member name =>
      simp only [At, has_canonical]
      constructor
      · rintro ⟨_, ⟨u, hu, rfl⟩, hw⟩
        obtain ⟨x, hx, rfl⟩ := ih.mp hw
        exact ⟨x, ⟨u, hu, hx⟩, rfl⟩
      · rintro ⟨x, ⟨u, hu, hx⟩, rfl⟩
        exact ⟨_, ⟨u, hu, rfl⟩, ih.mpr ⟨x, hx, rfl⟩⟩
    | item i =>
      cases v with
      | array items =>
        simp only [At, canonical, canonicalItems_eq_map, array.injEq, exists_and_left,
          exists_eq_left', List.getElem?_map, Option.map_eq_some_iff]
        constructor
        · rintro ⟨_, ⟨u, hu, rfl⟩, hw⟩
          obtain ⟨x, hx, rfl⟩ := ih.mp hw
          exact ⟨x, ⟨u, hu, hx⟩, rfl⟩
        · rintro ⟨x, ⟨u, hu, hx⟩, rfl⟩
          exact ⟨_, ⟨u, hu, rfl⟩, ih.mpr ⟨x, hx, rfl⟩⟩
      | _ => simp [At, canonical]

theorem at_canonical_string {path : List Step} {text : String} :
    At path v.canonical (.string text) ↔ At path v (.string text) := by
  rw [at_canonical]
  constructor
  · rintro ⟨u, hu, htext⟩
    cases u with
    | string s =>
      rw [← htext]
      exact hu
    | _ => cases htext
  · exact fun h => ⟨_, h, rfl⟩

end Paths

end Json

namespace Completion
open Json
variable {v w : Json}

theorem offers_canonical {c : Completion} : Offers v.canonical c ↔ Offers v c :=
  offers_congr (fun _ _ _ => at_canonical_string) c

theorem offers_reordered (h : Reordered v w) {c : Completion} : Offers w c ↔ Offers v c := by
  rw [← offers_canonical, ← h.canonical_eq, offers_canonical]

/-- What stands in the place of the text is the content, whatever the reason to stop is. -/
theorem offers_of_at {text : String} (h : At contentPath v (.string text)) :
    Offers v ⟨text, (lookup finishPath v).bind string?⟩ := by
  refine ⟨h, fun reason => ?_⟩
  rw [bind_string?_eq_some, lookup_eq_some]

theorem ofJson_silent (h : ∀ text, ¬ At contentPath v (.string text)) :
    ofJson v =
      .error (.invalidResponse ("No message received. Resp: " ++ v.canonical.compact)) := by
  cases hv : ofJson v with
  | ok c => exact absurd (ofJson_eq_ok.mp hv).1 (h c.content)
  | error failure =>
    simp only [ofJson] at hv
    split at hv
    next => cases hv
    next => rw [← hv]

theorem ofResponse_text {r : Response} (hr : IsSuccess r.status) (hbody : IsText v r.body) :
    ofResponse r = ofJson v := by
  rw [ofResponse_success hr, ofBody, parse_eq_ok.mpr hbody]

/-- Whatever text stands for the content of the first choice is taken from a successful response
as it is, in whatever way and order its body is written, and so is the reason to stop, if that is
text. Where there is no such text the report shows the body with its members sorted, again in the
same way for all bodies, and gives back their value. -/
theorem text_survives_response {v : Json} (hv : v.IsWhole) (hdepth : v.Nests maxDepth) :
    (∀ w, Reordered v w → IsText w (Utf8.encode w.compact) ∧ IsText w (Utf8.encode w.pretty)) ∧
    (∀ w r, Reordered v w → IsText w r.body → IsSuccess r.status →
      (∀ text, At contentPath v (.string text) → ∃ reason, ofResponse r = .ok ⟨text, reason⟩ ∧
        ∀ why, reason = some why ↔ At finishPath v (.string why)) ∧
      ((∀ text, ¬ At contentPath v (.string text)) → ofResponse r =
        .error (.invalidResponse ("No message received. Resp: " ++ v.canonical.compact)))) ∧
    parse (Utf8.encode v.canonical.compact) = .ok v.canonical ∧ v.canonical.IsCanonical ∧
    (v.HasDistinctNames → Reordered v v.canonical) := by
  refine ⟨?_, ?_, ?_, isCanonical_canonical v, reordered_canonical⟩
  · intro w hw
    have hwhole := hw.isWhole hv
    have hnests := hw.nests hdepth
    exact ⟨isText_compact hwhole hnests, isText_pretty hwhole hnests⟩
  · intro w r hw hbody hr
    constructor
    · intro text htext
      have hoffers := offers_of_at htext
      refine ⟨_, ?_, hoffers.2⟩
      rw [ofResponse_text hr hbody, ofJson_eq_ok]
      exact (offers_reordered hw).mpr hoffers
    · intro hsilent
      have hnone : ∀ text, ¬ At contentPath w (.string text) := by
        intro text htext
        apply hsilent text
        rw [← at_canonical_string, hw.canonical_eq]
        exact at_canonical_string.mpr htext
      rw [ofResponse_text hr hbody, ofJson_silent hnone, hw.canonical_eq]
  · exact parse_eq_ok.mpr (isText_compact hv.canonical hdepth.canonical)

/-- A body with an escaped text behind another member, and no reason to stop. -/
theorem text_survives_response_escaped :
    let choice : Json := .object [("finish_reason", .null),
      ("message", .object [("content", .string "\"\\\n\u0000\"")])]
    let v : Json := .object [("id", .integer 18446744073709551615), ("choices", .array [choice])]
    v.IsWhole ∧ v.Nests maxDepth ∧
      ofResponse ⟨201, [], Utf8.encode v.pretty⟩ = .ok ⟨"\"\\\n\u0000\"", none⟩ := by
  intro choice v
  have hchoice : choice.IsWhole :=
    .object (List.forall_mem_cons.mpr ⟨.null, List.forall_mem_singleton.mpr
      (.object (List.forall_mem_singleton.mpr (.string _)))⟩)
  have hv : v.IsWhole :=
    .object (List.forall_mem_cons.mpr ⟨.integer ⟨by decide +kernel, by decide +kernel⟩,
      List.forall_mem_singleton.mpr (.array (List.forall_mem_singleton.mpr hchoice))⟩)
  have hinner : choice.Nests 125 :=
    .object (List.forall_mem_cons.mpr ⟨.plain trivial, List.forall_mem_singleton.mpr
      (.object (List.forall_mem_singleton.mpr (.plain trivial)))⟩)
  have hdepth : v.Nests maxDepth :=
    .object (List.forall_mem_cons.mpr ⟨.plain trivial, List.forall_mem_singleton.mpr
      (.array (List.forall_mem_singleton.mpr hinner))⟩)
  obtain ⟨hbodies, houtcome, -⟩ := text_survives_response hv hdepth
  have hcontent : At contentPath v (.string "\"\\\n\u0000\"") := lookup_eq_some.mp rfl
  have hsuccess : IsSuccess 201 := ⟨by omega, by omega⟩
  have houtcome := houtcome v ⟨201, [], Utf8.encode v.pretty⟩ (.refl v)
  dsimp only at houtcome
  obtain ⟨reason, hreason, hwhy⟩ := (houtcome (hbodies v (.refl v)).2 hsuccess).1 _ hcontent
  have hnone : reason = none := by
    apply Option.eq_none_iff_forall_ne_some.mpr
    intro why h
    have hlookup := lookup_eq_some.mpr ((hwhy why).mp h)
    cases hlookup
  rw [hnone] at hreason
  exact ⟨hv, hdepth, hreason⟩

end Completion
end ModelChat
