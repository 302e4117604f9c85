/-!
# First and last places in a list

What is set under a key takes the place of what was set there first and has the value that was set
last.  So a list of settings comes to the keys in the order of their first places (`foldl_addNew`)
and for each of them to its last place, after which the key does not come again
(`find?_reverse_key_eq_some_iff`).
-/

namespace Switchboard

universe u v

variable {α : Type u}

/-- The last item with a property has none with it behind it. -/
theorem find?_reverse_eq_some_iff {p : α → Bool} {l : List α} {x : α} :
    l.reverse.find? p = some x ↔
      ∃ before after, l = before ++ x :: after ∧ p x = true ∧ ∀ y ∈ after, p y = false := by
  rw [List.find?_eq_some_iff_append]
  constructor
  · rintro ⟨hx, after, before, hreverse, hafter⟩
    refine ⟨before.reverse, after.reverse, ?_, hx, fun y hy => ?_⟩
    · rw [← List.reverse_reverse l, hreverse]
      simp
    · simpa using hafter y (List.mem_reverse.1 hy)
  · rintro ⟨before, after, rfl, hx, hafter⟩
    refine ⟨hx, after.reverse, before.reverse, by simp, fun y hy => ?_⟩
    simpa using hafter y (List.mem_reverse.1 hy)

/-- What is found from the back comes from the last item that gives something. -/
theorem findSome?_reverse_eq_some_iff {β : Type v} {f : α → Option β} {l : List α} {y : β} :
    l.reverse.findSome? f = some y ↔
      ∃ before x after, l = before ++ x :: after ∧ f x = some y ∧ ∀ z ∈ after, f z = none := by
  rw [List.findSome?_eq_some_iff]
  constructor
  · rintro ⟨after, x, before, hreverse, hx, hafter⟩
    refine ⟨before.reverse, x, after.reverse, ?_, hx, fun z hz => ?_⟩
    · rw [← List.reverse_reverse l, hreverse]
      simp
    · exact hafter z (List.mem_reverse.1 hz)
  · rintro ⟨before, x, after, rfl, hx, hafter⟩
    refine ⟨after.reverse, x, before.reverse, by simp, hx, fun z hz => ?_⟩
    exact hafter z (List.mem_reverse.1 hz)

theorem find?_reverse_key_eq_some_iff {κ : Type v} [DecidableEq κ] {l : List (κ × α)} {key : κ}
    {value : α} :
    l.reverse.find? (fun entry => entry.1 == key) = some (key, value) ↔
      ∃ before after, l = before ++ (key, value) :: after ∧ key ∉ after.map Prod.fst := by
  have hafter : ∀ after : List (κ × α),
      (∀ entry ∈ after, (entry.1 == key) = false) ↔ key ∉ after.map Prod.fst := by
    intro after
    simp only [List.mem_map, beq_eq_false_iff_ne, ne_eq, not_exists, not_and]
  rw [find?_reverse_eq_some_iff]
  simp only [hafter, beq_self_eq_true, true_and]

/-- An item of a list has a last place in it. -/
theorem exists_last_of_mem {l : List α} {x : α} (h : x ∈ l) :
    ∃ before after, l = before ++ x :: after ∧ x ∉ after := by
  obtain ⟨after, before, hreverse, hafter⟩ := List.eq_append_cons_of_mem (List.mem_reverse.2 h)
  refine ⟨before.reverse, after.reverse, ?_, by simpa using hafter⟩
  rw [← List.reverse_reverse l, hreverse]
  simp

/-- Keys that are added where they are not there yet come in the order of their first places. -/
theorem foldl_addNew [DecidableEq α] (acc ks : List α) :
    ks.foldl (fun acc k => if k ∈ acc then acc else acc ++ [k]) acc =
      acc ++ (ks.filter (· ∉ acc)).eraseDups := by
  induction ks generalizing acc with
  | nil => exact (List.append_nil _).symm
  | cons k ks ih =>
      rw [List.foldl_cons, ih]
      by_cases hk : k ∈ acc
      · rw [if_pos hk, List.filter_cons_of_neg (by simpa using hk)]
      · -- a new key comes next, and its repetitions are passed over
        have hrest : ks.filter (· ∉ acc ++ [k]) =
            (ks.filter (· ∉ acc)).filter fun other => !other == k := by
          rw [List.filter_filter]
          apply List.filter_congr
          intro other _
          by_cases hother : other = k
          · simp [hother]
          · simp [hother]
        rw [if_neg hk, List.filter_cons_of_pos (by simpa using hk), List.eraseDups_cons, hrest,
          List.append_assoc]
        rfl

end Switchboard
