import Mathlib.Data.List.Nodup
import Switchboard.Http.Headers
import Switchboard.Proofs.Sequence
import Switchboard.Proofs.Text.LowerCase

/-!
# Values of headers

A header that is replaced has one value afterwards, in whatever letter case its name
is asked for, and all other headers keep theirs (`getAll_replace`).

Headers that have only ever been replaced have each name once, in lower case, with the
value that it was set to last, in the order in which the names were last set
(`Mirrors`).  Replacing one more header keeps it so (`Mirrors.replace`).
-/

namespace Switchboard.Headers

@[simp] theorem getAll_empty (name : String) : ({} : Headers).getAll name = [] := rfl

theorem getAll_insert (h : Headers) (name value other : String) :
    (h.insert name value).getAll other =
      h.getAll other ++ if Text.lowerCase name = Text.lowerCase other then [value] else [] := by
  by_cases hsame : Text.lowerCase name = Text.lowerCase other
  · simp [insert, getAll, hsame]
  · simp [insert, getAll, hsame]

theorem getAll_erase (h : Headers) (name other : String) :
    (h.erase name).getAll other =
      if Text.lowerCase name = Text.lowerCase other then [] else h.getAll other := by
  unfold erase getAll
  rw [List.filter_filter]
  by_cases hsame : Text.lowerCase name = Text.lowerCase other
  · rw [if_pos hsame, List.map_eq_nil_iff, List.filter_eq_nil_iff]
    intro entry _
    simp [hsame]
  · rw [if_neg hsame]
    congr 1
    refine List.filter_congr fun entry _ => ?_
    by_cases hentry : entry.1 = Text.lowerCase other
    · simp [hentry, Ne.symm hsame]
    · simp [hentry]

theorem getAll_replace (h : Headers) (name value other : String) :
    (h.replace name value).getAll other =
      if Text.lowerCase name = Text.lowerCase other then [value] else h.getAll other := by
  rw [replace, getAll_insert, getAll_erase]
  by_cases hsame : Text.lowerCase name = Text.lowerCase other
  · simp [hsame]
  · simp [hsame]

/-! ## The last values set -/

/-- The headers are what is left of headers that were set one after another, under names in lower
case. -/
structure Mirrors (h : Headers) (sets : List (String × String)) : Prop where
  lowered : ∀ entry ∈ h.entries, Text.lowerCase entry.1 = entry.1
  distinct : (h.entries.map Prod.fst).Nodup
  /-- A name has the value that it was set to last. -/
  last : ∀ name value, (name, value) ∈ h.entries ↔
    ∃ before after, sets = before ++ (name, value) :: after ∧ name ∉ after.map Prod.fst
  /-- From some time on the earlier name was not set any more, and the later one still was. -/
  ordered : h.entries.Pairwise fun earlier later => ∃ before after, sets = before ++ after ∧
    earlier.1 ∉ after.map Prod.fst ∧ later.1 ∈ after.map Prod.fst

theorem mirrors_empty : ({} : Headers).Mirrors [] where
  lowered := fun _ h => absurd h List.not_mem_nil
  distinct := List.nodup_nil
  last := by simp
  ordered := .nil

theorem mem_entries_replace {h : Headers} {name value : String} {entry : String × String} :
    entry ∈ (h.replace name value).entries ↔
      (entry ∈ h.entries ∧ entry.1 ≠ Text.lowerCase name) ∨ entry = (Text.lowerCase name, value) := by
  simp [replace, insert, erase]

/-- One more header that is set takes the earlier one of its name out and goes to the end. -/
theorem Mirrors.replace {h : Headers} {sets : List (String × String)} (hmirrors : h.Mirrors sets)
    (name value : String) :
    (h.replace name value).Mirrors (sets ++ [(Text.lowerCase name, value)]) where
  lowered := by
    intro entry hentry
    rcases mem_entries_replace.1 hentry with ⟨hold, -⟩ | rfl
    · exact hmirrors.lowered entry hold
    · exact Text.lowerCase_lowerCase name
  distinct := by
    rw [Headers.replace, insert, erase, List.map_append, List.nodup_append]
    refine ⟨hmirrors.distinct.sublist (List.filter_sublist.map _), by simp, ?_⟩
    rintro other hother _ hlast rfl
    obtain ⟨entry, hentry, rfl⟩ := List.mem_map.1 hother
    simp only [List.map_cons, List.map_nil, List.mem_singleton] at hlast
    simp [hlast] at hentry
  last := by
    intro other found
    rw [mem_entries_replace, hmirrors.last, ← find?_reverse_key_eq_some_iff,
      ← find?_reverse_key_eq_some_iff, List.reverse_append, List.reverse_singleton,
      List.singleton_append, List.find?_cons]
    by_cases hname : other = Text.lowerCase name
    · subst hname
      simp [eq_comm]
    · have hnot : (Text.lowerCase name == other) = false := beq_eq_false_iff_ne.2 (Ne.symm hname)
      simp [hname, hnot]
  ordered := by
    rw [Headers.replace, insert, erase, List.pairwise_append]
    refine ⟨?_, List.pairwise_singleton _ _, ?_⟩
    · refine (hmirrors.ordered.filter _).imp_of_mem ?_
      rintro earlier later hearlier - ⟨before, after, rfl, hnot, hset⟩
      refine ⟨before, after ++ [(Text.lowerCase name, value)], List.append_assoc _ _ _, ?_, ?_⟩
      · have hother : earlier.1 ≠ Text.lowerCase name := by simpa using (List.mem_filter.1 hearlier).2
        simpa [hother] using hnot
      · simp only [List.map_append, List.mem_append]
        exact .inl hset
    · intro earlier hearlier later hlater
      obtain rfl := List.mem_singleton.1 hlater
      have hother : earlier.1 ≠ Text.lowerCase name := by simpa using (List.mem_filter.1 hearlier).2
      exact ⟨sets, _, rfl, by simpa using hother, by simp⟩

end Switchboard.Headers
