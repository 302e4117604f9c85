import Switchboard.Proofs.Number.Digits
import Switchboard.Proofs.Text.Split
import Switchboard.Server.Mount

/-!
# Paths below a base path

The base path of an API is cut off as a text, but the cut falls between segments:
the segments of a path are those of the base path followed by those of what is left
(`pathSegments_of_relative?_eq_some`).  A base path has the segments that it was
made of (`pathSegments_basePath`), however the prefixes were written.
-/

namespace Switchboard.Mount

theorem relative?_eq_some_iff {base path relative : String} :
    relative? base path = some relative ↔
      path.toList = base.toList ++ relative.toList ∧
        (relative.toList = [] ∨ relative.toList.head? = some '/') := by
  unfold relative?
  cases hdrop : Text.dropStart? base.toList path.toList with
  | none =>
      simp only [reduceCtorEq, false_iff, not_and]
      intro heq
      rw [Text.dropStart?_eq_some_iff.2 heq] at hdrop
      exact absurd hdrop (by simp)
  | some rest =>
      rw [Text.dropStart?_eq_some_iff] at hdrop
      rw [hdrop, List.append_cancel_left_eq]
      dsimp only
      constructor
      · intro h
        split at h
        · rename_i hstart
          obtain rfl : String.ofList rest = relative := by simpa using h
          rw [String.toList_ofList]
          exact ⟨rfl, hstart⟩
        · simp at h
      · rintro ⟨rfl, hstart⟩
        rw [if_pos hstart, String.ofList_toList]

/-- The cut falls between segments. -/
theorem pathSegments_of_relative?_eq_some {base path relative : String}
    (h : relative? base path = some relative) :
    pathSegments path = pathSegments base ++ pathSegments relative := by
  obtain ⟨htext, hstart⟩ := relative?_eq_some_iff.1 h
  rw [pathSegments, htext, Text.parts_append _ hstart]
  rfl

theorem slash_notMem_versionSegment (version : Nat) : '/' ∉ versionSegment version := by
  intro hmem
  rcases List.mem_cons.1 hmem with hv | hdigit
  · exact absurd hv (by decide)
  · exact absurd (isDigit_of_mem_natText hdigit) (by decide)

theorem mem_segments {m : Mount} {version : Nat} {segment : List Char}
    (h : segment ∈ m.segments version) : segment ≠ [] ∧ '/' ∉ segment := by
  simp only [segments, List.mem_append, List.mem_singleton] at h
  rcases h with (hhttp | hprefix) | rfl
  · exact Text.mem_parts hhttp
  · exact Text.mem_parts hprefix
  · exact ⟨by simp [versionSegment], slash_notMem_versionSegment version⟩

/-- A base path has the segments that it was made of. -/
theorem pathSegments_basePath (m : Mount) (version : Nat) :
    pathSegments (m.basePath version) = m.segments version := by
  rw [pathSegments, basePath, String.toList_ofList, Text.parts_cons_sep,
    Text.parts_join fun segment hsegment => mem_segments hsegment]

end Switchboard.Mount
