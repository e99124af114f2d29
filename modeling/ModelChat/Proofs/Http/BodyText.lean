import ModelChat.Proofs.Http.Framing
import ModelChat.Proofs.Json.PrettyPrinter

/-! Bodies as they are shown. Main statement: the lines of a body that is JSON are the layout of its
value, from which the value can be read again; those of any other body are the lines of its text. -/
namespace ModelChat.Http
open Text Json

/-- What a body is as JSON. Of several members of one name the last counts, and the order is that of
the names. -/
def valueOf (body : Bytes) : Except Json.Fault Json :=
  (Json.parse body).map canonical

section Values
variable {body : Bytes}

theorem valueOf_eq_ok {v : Json} (h : valueOf body = .ok v) :
    ∃ w, Json.parse body = .ok w ∧ w.canonical = v := by
  unfold valueOf at h
  cases hw : Json.parse body with
  | error fault =>
    rw [hw] at h
    cases h
  | ok w =>
    rw [hw] at h
    exact ⟨w, rfl, Except.ok.inj h⟩

/-- A JSON body is shown as its value. -/
theorem bodyText_of_value {v : Json} (h : valueOf body = .ok v) : bodyText body = v.pretty := by
  obtain ⟨w, hparse, rfl⟩ := valueOf_eq_ok h
  rw [bodyText, hparse]

theorem bodyText_of_fault {fault : Json.Fault} (h : valueOf body = .error fault) :
    bodyText body = Utf8.decodeLossy body := by
  unfold valueOf at h
  cases hw : Json.parse body with
  | error => rw [bodyText, hw]
  | ok w =>
    rw [hw] at h
    cases h

/-- What is shown of a value has that value. -/
theorem valueOf_pretty {v : Json} (h : valueOf body = .ok v) (hwhole : v.IsWhole) :
    valueOf (Utf8.encode v.pretty) = .ok v := by
  obtain ⟨w, hparse, rfl⟩ := valueOf_eq_ok h
  have hread := parse_pretty hwhole (nests_of_parse hparse).canonical
  rw [valueOf, hread]
  exact congrArg Except.ok (isCanonical_canonical w).canonical_eq

end Values

/-- Different lines make different sections. -/
theorem renderBody_eq_iff (body body' : Bytes) :
    renderBody body = renderBody body' ↔ lines (bodyText body) = lines (bodyText body') := by
  have hsegments (body : Bytes) : segments (renderBody body).toList =
      (lines (bodyText body)).map (fun l => ("    " ++ l).toList) ++ [[]] := by
    have hindent : ∀ l ∈ (lines (bodyText body)).map ("    " ++ ·), OneLine l := by
      refine List.forall_mem_map.mpr fun l hl => OneLine.append (by decide) ?_
      exact (hasLines_lines _).oneLine l hl
    have htext : renderBody body = unlines ((lines (bodyText body)).map ("    " ++ ·)) := by
      rw [renderBody, unlines, List.map_map]
      rfl
    rw [htext, segments_unlines hindent, List.map_map]
    rfl
  refine ⟨fun h => ?_, fun h => by rw [renderBody, renderBody, h]⟩
  have hlines := congrArg (fun s => Frame.readBody? (segments s.toList)) h
  simpa only [hsegments, Frame.readBody?_lines, Option.some.injEq] using hlines

/-- The lines of the body in a rendering, without their indent. -/
def bodyLines? (s : String) : Option (List String) :=
  (Frame.read? s).map Frame.body

/-- What a rendering shows of a JSON body whose numbers are integers of 64 bits is the layout of its
value and nothing else: the value can be read from it again, and only bodies with that value are
shown in this way. Any other body is shown with all its lines, as far as its bytes are text. -/
theorem body_is_faithful {start s : String} {headers : List Header} {body : Bytes}
    (h : IsRendering start headers body s) : ∃ ls, bodyLines? s = some ls ∧
      (∀ v, valueOf body = .ok v → v.IsWhole →
        ls = v.layout ∧ "\n".intercalate ls = v.pretty ∧
        valueOf (Utf8.encode ("\n".intercalate ls)) = .ok v ∧
        ∀ body' v', valueOf body' = .ok v' → v'.IsWhole →
          (renderBody body' = renderBody body ↔ v' = v)) ∧
      ∀ fault, valueOf body = .error fault → HasLines ls (Utf8.decodeLossy body) := by
  have hshows := h.frame_shows
  refine ⟨lines (bodyText body), ?_, fun v hv hwhole => ?_, fun fault hfault => ?_⟩
  · rw [bodyLines?, hshows.read]
    rfl
  · have hlayout {body : Bytes} {v : Json} (hv : valueOf body = .ok v) (hwhole : v.IsWhole) :
        lines (bodyText body) = v.layout := by
      rw [bodyText_of_value hv]
      exact lines_eq_of_hasLines (hasLines_pretty hwhole)
    rw [hlayout hv hwhole, intercalate_layout]
    refine ⟨rfl, rfl, valueOf_pretty hv hwhole, fun body' v' hv' hwhole' => ?_⟩
    rw [renderBody_eq_iff, hlayout hv hwhole, hlayout hv' hwhole']
    refine ⟨fun heq => ?_, fun heq => by rw [heq]⟩
    -- Equal lines are the same text, and that has one value.
    have htext : v'.pretty = v.pretty := by
      rw [← intercalate_layout, heq, intercalate_layout]
    have hread := valueOf_pretty hv' hwhole'
    rw [htext, valueOf_pretty hv hwhole] at hread
    exact (Except.ok.inj hread).symm
  · rw [bodyText_of_fault hfault]
    exact hasLines_lines _

/-- A value with a repeated name, empty brackets, line ends in a string and a number of 64 bits. -/
def results : Json :=
  .object [("b", .null), ("a", .array []),
    ("b", .array [.integer (-9223372036854775808), .string "\n\u2028\r"])]

theorem body_is_faithful_of_results :
    let v : Json := .object [("a", .array []),
      ("b", .array [.integer (-9223372036854775808), .string "\n\u2028\r"])]
    let r : Response := ⟨200, [], Utf8.encode results.pretty⟩
    (∀ h ∈ r.headers, h.IsValid) ∧ valueOf r.body = .ok v ∧ v.IsWhole ∧
    bodyLines? r.render = some ["\x7b", "  \"a\": [],", "  \"b\": [", "    -9223372036854775808,",
      "    \"\\n\u2028\\r\"", "  ]", "\x7d"] := by
  intro v r
  have hvalid : ∀ h ∈ r.headers, h.IsValid := List.forall_mem_nil _
  have hempty : IsWhole (.array []) := .array (List.forall_mem_nil _)
  have hfull : IsWhole (.array [.integer (-9223372036854775808), .string "\n\u2028\r"]) :=
    .array (List.forall_mem_cons.mpr ⟨.integer ⟨by decide +kernel, by decide +kernel⟩,
      List.forall_mem_singleton.mpr (.string _)⟩)
  have hwhole : v.IsWhole :=
    .object (List.forall_mem_cons.mpr ⟨hempty, List.forall_mem_singleton.mpr hfull⟩)
  have hvalue : valueOf r.body = .ok v := by
    have hresults : IsWhole results := .object (List.forall_mem_cons.mpr ⟨.null,
      List.forall_mem_cons.mpr ⟨hempty, List.forall_mem_singleton.mpr hfull⟩⟩)
    have hnests : Nests maxDepth results := by
      refine .object (List.forall_mem_cons.mpr ⟨.plain trivial, List.forall_mem_cons.mpr
        ⟨.array (List.forall_mem_nil _), List.forall_mem_singleton.mpr (.array ?_)⟩⟩)
      exact List.forall_mem_cons.mpr
        ⟨.plain trivial, List.forall_mem_singleton.mpr (.plain trivial)⟩
    rw [valueOf, parse_pretty hresults hnests]
    rfl
  obtain ⟨ls, hls, hjson, -⟩ := body_is_faithful (.response hvalid)
  obtain ⟨rfl, -⟩ := hjson v hvalue hwhole
  have hlayout : v.layout = ["\x7b", "  \"a\": [],", "  \"b\": [", "    -9223372036854775808,",
      "    \"\\n\u2028\\r\"", "  ]", "\x7d"] := by
    decide +kernel
  exact ⟨hvalid, hvalue, hwhole, hls.trans (congrArg some hlayout)⟩

end ModelChat.Http
