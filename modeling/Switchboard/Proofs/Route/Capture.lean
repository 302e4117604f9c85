import Switchboard.Proofs.Entries
import Switchboard.Route.Template

/-!
# What a template captures

A path fits a template when it has as many segments and every literal stands at
its place (`captureFrom_isSome_iff`).  The walk sets one entry after another
(`captureFrom_eq_merge`), so a parameter that stands twice has the value of its last
place (`get?_captureFrom_of_last`), and no name comes in that is not a parameter
(`get?_captureFrom_of_notMem`).
-/

namespace Switchboard

namespace Segment

theorem ofText_eq_parameter_iff {text : List Char} {name : String} :
    ofText text = .parameter name ↔ text = ':' :: name.toList ∧ name ≠ "" := by
  unfold ofText
  split
  · rename_i c rest
    simp only [parameter.injEq]
    constructor
    · rintro rfl
      refine ⟨by rw [String.toList_ofList], ?_⟩
      intro hempty
      have hnil := congrArg String.toList hempty
      rw [String.toList_ofList] at hnil
      exact absurd hnil (by simp)
    · rintro ⟨htext, -⟩
      simp only [List.cons.injEq, true_and] at htext
      rw [htext, String.ofList_toList]
  · rename_i hother
    simp only [reduceCtorEq, false_iff, not_and, Classical.not_not]
    intro htext
    cases hname : name.toList with
    | nil => simpa using hname
    | cons c rest => exact absurd (htext.trans (by rw [hname])) (hother c rest)

theorem ofText_eq_literal {text : List Char} (h : ∀ name, ofText text ≠ .parameter name) :
    ofText text = .literal (String.ofList text) := by
  unfold ofText at h ⊢
  split
  · rename_i c rest
    exact absurd rfl (h _)
  · rfl

/-- A text is a parameter or a literal. -/
theorem ofText_cases (text : List Char) :
    (∃ name, ofText text = .parameter name) ∨ ofText text = .literal (String.ofList text) := by
  by_cases h : ∃ name, ofText text = .parameter name
  · exact .inl h
  · exact .inr (ofText_eq_literal (not_exists.1 h))

theorem toList_of_ofText_eq_literal {text : List Char} {s : String}
    (h : ofText text = .literal s) : s.toList = text := by
  unfold ofText at h
  split at h
  · simp at h
  · simp only [literal.injEq] at h
    rw [← h, String.toList_ofList]

end Segment

namespace Template

/-- Every literal stands at its place. -/
def LiteralsFit (segments : List Segment) (parts : List (List Char)) : Prop :=
  ∀ (j : Nat) (text : String), segments[j]? = some (.literal text) → parts[j]? = some text.toList

private theorem literalsFit_cons_iff {segment : Segment} {segments : List Segment}
    {part : List Char} {parts : List (List Char)} :
    LiteralsFit (segment :: segments) (part :: parts) ↔
      (∀ text, segment = .literal text → part = text.toList) ∧ LiteralsFit segments parts := by
  constructor
  · intro h
    refine ⟨fun text htext => ?_, fun j text hj => ?_⟩
    · have hhead := h 0 text (by rw [htext]; rfl)
      simpa using hhead
    · have hlater := h (j + 1) text (by simpa using hj)
      simpa using hlater
  · rintro ⟨hhead, hlater⟩ j text hj
    cases j with
    | zero =>
        have hpart := hhead text (by simpa using hj)
        simp [hpart]
    | succ j =>
        have hpart := hlater j text (by simpa using hj)
        simpa using hpart

theorem captureFrom_isSome_iff {captured : Entries Json} {segments : List Segment}
    {parts : List (List Char)} :
    (captureFrom captured segments parts).isSome = true ↔
      segments.length = parts.length ∧ LiteralsFit segments parts := by
  induction segments generalizing captured parts with
  | nil =>
      cases parts with
      | nil => simp [captureFrom, LiteralsFit]
      | cons part parts => simp [captureFrom]
  | cons segment segments ih =>
      cases parts with
      | nil => cases segment <;> simp [captureFrom]
      | cons part parts =>
          rw [literalsFit_cons_iff, List.length_cons, List.length_cons, Nat.add_right_cancel_iff]
          cases segment with
          | parameter name =>
              rw [captureFrom, ih]
              simp
          | literal s =>
              rw [captureFrom]
              by_cases hpart : s.toList = part
              · rw [if_pos hpart, ih]
                simp [hpart]
              · rw [if_neg hpart]
                simp [Ne.symm hpart]

/-- What one segment of the template does. -/
theorem captureFrom_cons_ok {captured : Entries Json} {segment : Segment}
    {segments : List Segment} {parts : List (List Char)} {m : Entries Json}
    (h : captureFrom captured (segment :: segments) parts = some m) :
    ∃ part rest, parts = part :: rest ∧
      ((∃ text, segment = .literal text ∧ text.toList = part ∧
          captureFrom captured segments rest = some m) ∨
        ∃ name, segment = .parameter name ∧
          captureFrom (Entries.set captured name (.string (String.ofList (Url.decode part))))
            segments rest = some m) := by
  cases parts with
  | nil => cases segment <;> simp [captureFrom] at h
  | cons part rest =>
      refine ⟨part, rest, rfl, ?_⟩
      cases segment with
      | literal text =>
          rw [captureFrom] at h
          split at h
          · rename_i hpart
            exact .inl ⟨text, rfl, hpart, h⟩
          · simp at h
      | parameter name => exact .inr ⟨name, rfl, h⟩

/-- The parameters with the values that the segments of a path at their places have. -/
def bindings (segments : List Segment) (parts : List (List Char)) : Entries Json :=
  (segments.zip parts).filterMap fun (segment, part) =>
    segment.name?.map fun name => (name, .string (String.ofList (Url.decode part)))

/-- Capturing sets the parameters one after another. -/
theorem captureFrom_eq_merge {captured : Entries Json} {segments : List Segment}
    {parts : List (List Char)} {m : Entries Json}
    (h : captureFrom captured segments parts = some m) :
    m = Entries.merge captured (bindings segments parts) := by
  induction segments generalizing captured parts with
  | nil =>
      cases parts with
      | nil => exact (Option.some.inj h).symm
      | cons part parts => simp [captureFrom] at h
  | cons segment segments ih =>
      obtain ⟨part, rest, rfl, ⟨text, rfl, -, h⟩ | ⟨name, rfl, h⟩⟩ := captureFrom_cons_ok h
      · exact ih h
      · exact ih h

theorem keys_bindings {segments : List Segment} {parts : List (List Char)}
    (h : segments.length = parts.length) :
    Entries.keys (bindings segments parts) = segments.filterMap Segment.name? := by
  induction segments generalizing parts with
  | nil => rfl
  | cons segment segments ih =>
      cases parts with
      | nil => simp at h
      | cons part parts =>
          have hrest := ih (Nat.succ.inj h)
          cases segment with
          | literal text => exact hrest
          | parameter name => exact congrArg (name :: ·) hrest

theorem get?_captureFrom_of_notMem {captured : Entries Json} {segments : List Segment}
    {parts : List (List Char)} {m : Entries Json} (h : captureFrom captured segments parts = some m)
    {name : String} (hname : Segment.parameter name ∉ segments) :
    Entries.get? m name = Entries.get? captured name := by
  have hlen := (captureFrom_isSome_iff.1 (Option.isSome_of_eq_some h)).1
  rw [captureFrom_eq_merge h, Entries.get?_merge_of_notMem]
  rw [keys_bindings hlen, List.mem_filterMap]
  rintro ⟨segment, hsegment, hsame⟩
  cases segment with
  | literal text => simp [Segment.name?] at hsame
  | parameter other =>
      obtain rfl : other = name := Option.some.inj hsame
      exact hname hsegment

/-- The last place of a parameter decides its value. -/
theorem get?_captureFrom_of_last {captured : Entries Json} {segments : List Segment}
    {parts : List (List Char)} {m : Entries Json} (h : captureFrom captured segments parts = some m)
    {name : String} {j : Nat} (hj : segments[j]? = some (Segment.parameter name))
    (hlast : ∀ k, j < k → segments[k]? ≠ some (Segment.parameter name)) {part : List Char}
    (hpart : parts[j]? = some part) :
    Entries.get? m name = some (.string (String.ofList (Url.decode part))) := by
  induction segments generalizing captured parts j with
  | nil => simp at hj
  | cons segment segments ih =>
      cases j with
      | zero =>
          obtain rfl : segment = .parameter name := by simpa using hj
          obtain ⟨p, rest, rfl, ⟨text, htext, -⟩ | ⟨other, hother, h⟩⟩ := captureFrom_cons_ok h
          · simp at htext
          · obtain rfl : name = other := by simpa using hother
            obtain rfl : p = part := by simpa using hpart
            have hlater : Segment.parameter name ∉ segments := by
              intro hmem
              obtain ⟨k, hk⟩ := List.getElem?_of_mem hmem
              exact hlast (k + 1) (by omega) (by simpa using hk)
            rw [get?_captureFrom_of_notMem h hlater, Entries.get?_set, if_pos rfl]
      | succ j =>
          have hlater : ∀ k, j < k → segments[k]? ≠ some (Segment.parameter name) := fun k hk heq =>
            hlast (k + 1) (by omega) (by simpa using heq)
          obtain ⟨p, rest, rfl, ⟨text, rfl, -, h⟩ | ⟨other, rfl, h⟩⟩ := captureFrom_cons_ok h
          · exact ih h (by simpa using hj) hlater (by simpa using hpart)
          · exact ih h (by simpa using hj) hlater (by simpa using hpart)

/-! ## Paths -/

variable {path relative : String} {captured : Entries Json}

/-- A path fits if it has as many segments and all literals at their places. -/
theorem exists_capture?_iff :
    (∃ captured, (ofPath path).capture? relative = some captured) ↔
      (pathSegments relative).length = (pathSegments path).length ∧
        ∀ (j : Nat) (text : List Char), (pathSegments path)[j]? = some text →
          Segment.ofText text = .literal (String.ofList text) →
          (pathSegments relative)[j]? = some text := by
  rw [← Option.isSome_iff_exists, capture?, captureFrom_isSome_iff, ofPath, List.length_map,
    eq_comm]
  refine and_congr_right fun _ => ⟨fun h j text htext hliteral => ?_, fun h j text hj => ?_⟩
  · rw [h j (String.ofList text) (by rw [List.getElem?_map, htext, ← hliteral]; rfl),
      String.toList_ofList]
  · rw [List.getElem?_map] at hj
    obtain ⟨part, hpart, hsegment⟩ := Option.map_eq_some_iff.1 hj
    obtain rfl : text.toList = part := Segment.toList_of_ofText_eq_literal hsegment
    exact h j text.toList hpart (by rw [hsegment, String.ofList_toList])

/-- No name is captured twice. -/
theorem distinct_capture? (h : (ofPath path).capture? relative = some captured) :
    Entries.Distinct captured := by
  rw [captureFrom_eq_merge h]
  exact Entries.distinct_ofPairs _

/-- A parameter has the value of the last segment that is spelled like it. -/
theorem get?_capture?_of_last (h : (ofPath path).capture? relative = some captured) {name : String}
    (hname : name ≠ "") {j : Nat} (hj : (pathSegments path)[j]? = some (':' :: name.toList))
    (hlast : ∀ k, j < k → (pathSegments path)[k]? ≠ some (':' :: name.toList)) {part : List Char}
    (hpart : (pathSegments relative)[j]? = some part) :
    Entries.get? captured name = some (.string (String.ofList (Url.decode part))) := by
  refine get?_captureFrom_of_last h ?_ ?_ hpart
  · rw [ofPath, List.getElem?_map, hj, Option.map_some,
      Segment.ofText_eq_parameter_iff.2 ⟨rfl, hname⟩]
  · intro k hk hsegment
    rw [ofPath, List.getElem?_map] at hsegment
    obtain ⟨text, htext, hparameter⟩ := Option.map_eq_some_iff.1 hsegment
    rw [(Segment.ofText_eq_parameter_iff.1 hparameter).1] at htext
    exact hlast k hk htext

theorem notMem_keys_capture? (h : (ofPath path).capture? relative = some captured) {name : String}
    (hname : name ∉ (ofPath path).parameterNames) : name ∉ Entries.keys captured := by
  have habsent : Segment.parameter name ∉ (ofPath path).segments := fun hmem =>
    hname (List.mem_filterMap.2 ⟨_, hmem, rfl⟩)
  have hget := get?_captureFrom_of_notMem h habsent
  rwa [Entries.get?_nil, Entries.get?_eq_none_iff] at hget

theorem mem_parameterNames_iff {name : String} :
    name ∈ (ofPath path).parameterNames ↔ ':' :: name.toList ∈ pathSegments path ∧ name ≠ "" := by
  simp only [parameterNames, ofPath, List.mem_filterMap, List.mem_map]
  constructor
  · rintro ⟨segment, ⟨text, htext, rfl⟩, hname⟩
    have hparameter : Segment.ofText text = .parameter name := by
      cases hsegment : Segment.ofText text with
      | literal s => simp [hsegment, Segment.name?] at hname
      | parameter other => simpa [hsegment, Segment.name?] using hname
    obtain ⟨rfl, hne⟩ := Segment.ofText_eq_parameter_iff.1 hparameter
    exact ⟨htext, hne⟩
  · rintro ⟨hmem, hne⟩
    exact ⟨.parameter name, ⟨_, hmem, Segment.ofText_eq_parameter_iff.2 ⟨rfl, hne⟩⟩, rfl⟩

end Template

end Switchboard
