import Switchboard.Json.Plain
import Switchboard.Proofs.Route.Capture
import Switchboard.Proofs.Text.Split
import Switchboard.Proofs.Url.Percent

/-!
# The paths of a template

What a template captures in a path is a map of its parameters: their names in the order of their
first places, each with what the segment at its last place stands for (`keys_capture?`,
`exists_of_mem_capture?`).  A segment is never empty, and neither is what it stands for, so no
captured value counts as not given, whatever escapes the path holds (`isTruthy_decode`).
-/

namespace Switchboard

namespace Segment

/-- The text of a segment that stands for itself: no colon with a name behind it. -/
def IsLiteral (text : List Char) : Prop := ∀ name, text = ':' :: name → name = []

theorem ofText_eq_literal_iff {text : List Char} :
    ofText text = .literal (String.ofList text) ↔ IsLiteral text := by
  constructor
  · rintro h name rfl
    cases name with
    | nil => rfl
    | cons c rest => simp [ofText] at h
  · intro h
    refine ofText_eq_literal fun name hname => ?_
    obtain ⟨htext, hne⟩ := ofText_eq_parameter_iff.1 hname
    exact hne (String.toList_eq_nil_iff.1 (h name.toList htext))

end Segment

namespace Template

variable {path relative name : String} {captured : Entries Json} {value : Json}

theorem keys_capture? (h : (ofPath path).capture? relative = some captured) :
    Entries.keys captured = (ofPath path).parameterNames.eraseDups := by
  have hlen := (captureFrom_isSome_iff.1 (Option.isSome_of_eq_some h)).1
  rw [captureFrom_eq_merge h, parameterNames, ← keys_bindings hlen]
  exact Entries.keys_ofPairs _

/-- A captured value is read from the segment at the last place of its parameter. -/
theorem exists_of_mem_capture? (h : (ofPath path).capture? relative = some captured)
    (hmem : (name, value) ∈ captured) :
    ∃ before after part, pathSegments path = before ++ (':' :: name.toList) :: after ∧
      ':' :: name.toList ∉ after ∧ (pathSegments relative)[before.length]? = some part ∧
      value = .string (String.ofList (Url.decode part)) := by
  have hname : name ∈ (ofPath path).parameterNames := by
    rw [← List.mem_eraseDups, ← keys_capture? h]
    exact Entries.mem_keys_of_mem hmem
  obtain ⟨htoken, hne⟩ := mem_parameterNames_iff.1 hname
  obtain ⟨before, after, hpath, hafter⟩ := exists_last_of_mem htoken
  have hplace : (pathSegments path)[before.length]? = some (':' :: name.toList) := by
    rw [hpath, List.getElem?_append_right (Nat.le_refl _), Nat.sub_self]
    rfl
  have hlast : ∀ k, before.length < k → (pathSegments path)[k]? ≠ some (':' :: name.toList) := by
    intro k hk heq
    obtain ⟨d, rfl⟩ := Nat.exists_eq_add_of_lt hk
    rw [hpath, List.getElem?_append_right (by omega),
      show before.length + d + 1 - before.length = d + 1 by omega] at heq
    exact hafter (List.mem_of_getElem? heq)
  obtain ⟨part, hpart⟩ : ∃ part, (pathSegments relative)[before.length]? = some part := by
    have hlen := (exists_capture?_iff.1 ⟨captured, h⟩).1
    have hlt := (List.getElem?_eq_some_iff.1 hplace).1
    exact ⟨_, List.getElem?_eq_getElem (hlen ▸ hlt)⟩
  have hget := get?_capture?_of_last h hne hplace hlast hpart
  rw [(distinct_capture? h).get?_of_mem hmem] at hget
  exact ⟨before, after, part, hpath, hafter, hpart, Option.some.inj hget⟩

/-- What a segment of a path stands for counts as given. -/
theorem isTruthy_decode {part : List Char} (h : part ∈ pathSegments relative) :
    (Json.string (String.ofList (Url.decode part))).isTruthy = true := by
  have hne := Url.decode_ne_nil (Text.mem_parts h).1
  simpa [Json.isTruthy, String.ofList_eq_empty_iff] using hne

/--
**The paths of a template**: a path fits if it has as many segments and every literal stands at its
place.  What is captured then are the parameters in the order of their first places, each with what
the segment at its last place stands for, which always counts as given.
-/
theorem capture?_exact (path relative : String) :
    ((∃ captured, (ofPath path).capture? relative = some captured) ↔
      (pathSegments relative).length = (pathSegments path).length ∧
        ∀ (j : Nat) (text : List Char), (pathSegments path)[j]? = some text →
          Segment.IsLiteral text → (pathSegments relative)[j]? = some text) ∧
    ∀ captured, (ofPath path).capture? relative = some captured →
      Entries.keys captured = (ofPath path).parameterNames.eraseDups ∧
        ∀ name value, (name, value) ∈ captured →
          ∃ before after part, pathSegments path = before ++ (':' :: name.toList) :: after ∧
            ':' :: name.toList ∉ after ∧ (pathSegments relative)[before.length]? = some part ∧
            value = .string (String.ofList (Url.decode part)) ∧ value.isTruthy = true := by
  constructor
  · simp only [← Segment.ofText_eq_literal_iff]
    exact exists_capture?_iff
  · intro captured h
    refine ⟨keys_capture? h, fun name value hmem => ?_⟩
    obtain ⟨before, after, part, hpath, hafter, hpart, rfl⟩ := exists_of_mem_capture? h hmem
    exact ⟨before, after, part, hpath, hafter, hpart, rfl,
      isTruthy_decode (List.mem_of_getElem? hpart)⟩

/-- A parameter that stands twice, a colon alone, and octets that are no text. -/
theorem capture?_exact_repeated :
    ∃ captured, (ofPath "/users/:id/:/:id").capture? "users//7/:/%ff%4/" = some captured ∧
      Entries.keys captured = ["id"] ∧
      ∀ name value, (name, value) ∈ captured → value.isTruthy = true := by
  obtain ⟨captured, h⟩ : ∃ captured,
      (ofPath "/users/:id/:/:id").capture? "users//7/:/%ff%4/" = some captured := ⟨_, rfl⟩
  obtain ⟨hkeys, hvalues⟩ := (capture?_exact _ _).2 captured h
  refine ⟨captured, h, hkeys.trans (by decide), fun name value hmem => ?_⟩
  obtain ⟨-, -, -, -, -, -, -, htruthy⟩ := hvalues name value hmem
  exact htruthy

end Template

end Switchboard
