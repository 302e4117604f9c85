import Switchboard.Proofs.Route.Capture
import Switchboard.Proofs.Text.Split

/-!
# Which templates cover others

A template covers another one if nothing fits the other that does not fit it.  Its
segments tell: it has as many, and at each place a parameter or the same literal
(`Covers`).  One path is enough to find out: the one in which all parameters of the
other template are filled with a text that is no literal of this one
(`covers_iff_isSome_capture?_fill`).
-/

namespace Switchboard

namespace Segment

/-- The text of a segment in a path where all parameters have the same text. -/
def fill (filler : String) : Segment → String
  | literal text => text
  | parameter _ => filler

/-- There is a text for parameters that is none of the given literals. -/
theorem exists_filler (segments : List Segment) :
    ∃ filler : String, filler ≠ "" ∧ '/' ∉ filler.toList ∧ literal filler ∉ segments := by
  -- a text longer than all literals
  have hbound : ∃ n, ∀ text, literal text ∈ segments → text.toList.length ≤ n := by
    induction segments with
    | nil => exact ⟨0, by simp⟩
    | cons segment segments ih =>
        obtain ⟨n, hn⟩ := ih
        refine ⟨n + (segment.fill "").toList.length, fun text hmem => ?_⟩
        rcases List.mem_cons.1 hmem with rfl | hmem
        · exact Nat.le_add_left _ _
        · exact Nat.le_trans (hn text hmem) (Nat.le_add_right _ _)
  obtain ⟨n, hn⟩ := hbound
  refine ⟨String.ofList (List.replicate (n + 1) 'x'), ?_, ?_, ?_⟩
  · intro hempty
    have hnil := congrArg String.toList hempty
    simp at hnil
  · simp
  · intro hmem
    have hle := hn _ hmem
    rw [String.toList_ofList, List.length_replicate] at hle
    omega

end Segment

namespace Template

/-- As many segments, and at each place a parameter or the same literal. -/
def Covers (s t : Template) : Prop :=
  s.segments.length = t.segments.length ∧
    ∀ (j : Nat) (text : String), s.segments[j]? = some (.literal text) →
      t.segments[j]? = some (.literal text)

variable {s t : Template} {path relative filler : String}

theorem isSome_capture?_iff :
    (t.capture? relative).isSome = true ↔
      t.segments.length = (pathSegments relative).length ∧
        LiteralsFit t.segments (pathSegments relative) :=
  captureFrom_isSome_iff

/-- What fits a template fits all that cover it. -/
theorem Covers.isSome_capture? (h : s.Covers t) (ht : (t.capture? relative).isSome = true) :
    (s.capture? relative).isSome = true := by
  rw [isSome_capture?_iff] at ht ⊢
  obtain ⟨hlen, hfit⟩ := ht
  refine ⟨h.1.trans hlen, ?_⟩
  intro j text hj
  exact hfit j text (h.2 j text hj)

/-- The path in which all parameters have the same text. -/
def fill (t : Template) (filler : String) : String :=
  String.ofList ((t.segments.map fun segment => (segment.fill filler).toList).flatMap ('/' :: ·))

theorem pathSegments_fill (hne : filler ≠ "") (hslash : '/' ∉ filler.toList) :
    pathSegments ((ofPath path).fill filler) =
      (ofPath path).segments.map fun segment => (segment.fill filler).toList := by
  rw [pathSegments, fill, String.toList_ofList, Text.parts_flatMap_eq_self]
  intro piece hpiece
  simp only [ofPath, List.map_map, List.mem_map, Function.comp] at hpiece
  obtain ⟨text, htext, rfl⟩ := hpiece
  rcases Segment.ofText_cases text with ⟨name, hname⟩ | hliteral
  · rw [hname, Segment.fill]
    exact ⟨by simpa using hne, hslash⟩
  · rw [hliteral, Segment.fill, String.toList_ofList]
    exact Text.mem_parts htext

theorem isSome_capture?_fill (hne : filler ≠ "") (hslash : '/' ∉ filler.toList) :
    ((ofPath path).capture? ((ofPath path).fill filler)).isSome = true := by
  rw [isSome_capture?_iff, pathSegments_fill hne hslash, List.length_map]
  refine ⟨rfl, ?_⟩
  intro j text hj
  rw [List.getElem?_map, hj]
  rfl

/-- A template covers another one if it fits one path of that, in which the parameters have a text
that is no literal of the first. -/
theorem covers_iff_isSome_capture?_fill (hne : filler ≠ "") (hslash : '/' ∉ filler.toList)
    (hfiller : Segment.literal filler ∉ s.segments) :
    s.Covers (ofPath path) ↔ (s.capture? ((ofPath path).fill filler)).isSome = true := by
  constructor
  · intro h
    exact h.isSome_capture? (isSome_capture?_fill hne hslash)
  · intro h
    rw [isSome_capture?_iff, pathSegments_fill hne hslash, List.length_map] at h
    obtain ⟨hlen, hfit⟩ := h
    refine ⟨hlen, ?_⟩
    intro j text hj
    have hpart := hfit j text hj
    rw [List.getElem?_map, Option.map_eq_some_iff] at hpart
    obtain ⟨segment, hsegment, htext⟩ := hpart
    cases segment with
    | literal other =>
        obtain rfl : other = text := String.toList_inj.1 htext
        exact hsegment
    | parameter name =>
        obtain rfl : filler = text := String.toList_inj.1 htext
        exact absurd (List.mem_of_getElem? hj) hfiller

end Template

end Switchboard
