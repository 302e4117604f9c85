import Mathlib.Data.List.TakeWhile
import Switchboard.Text.Blank

/-!
# Blanks around a text

Blanks at the start of a text are dropped whatever follows (`trimStart_append`), and a
text without blanks is what is left of it between blanks (`trim_surrounded`).
-/

namespace Switchboard.Text

/-- None of the characters is blank. -/
def Unblank (cs : List Char) : Prop := ∀ c ∈ cs, isBlank c = false

/-- All of the characters are blank. -/
def Blanks (cs : List Char) : Prop := ∀ c ∈ cs, isBlank c = true

variable {cs before after : List Char}

theorem Blanks.nil : Blanks [] := fun _ hc => absurd hc List.not_mem_nil

theorem Unblank.nil : Unblank [] := fun _ hc => absurd hc List.not_mem_nil

theorem Unblank.cons {c : Char} (hc : isBlank c = false) (h : Unblank cs) : Unblank (c :: cs) :=
  List.forall_mem_cons.2 ⟨hc, h⟩

theorem Unblank.append {ds : List Char} (h : Unblank cs) (h' : Unblank ds) : Unblank (cs ++ ds) :=
  List.forall_mem_append.2 ⟨h, h'⟩

theorem trimStart_append (h : Blanks before) : trimStart (before ++ cs) = trimStart cs :=
  List.dropWhile_append_of_pos h

theorem trimEnd_append_blanks (h : Blanks after) : trimEnd (cs ++ after) = trimEnd cs := by
  rw [trimEnd, List.reverse_append, List.dropWhile_append_of_pos, trimEnd]
  exact fun c hc => h c (List.mem_reverse.1 hc)

/-- A text without blanks is what is left of it between blanks. -/
theorem trim_surrounded (hbefore : Blanks before) (hcs : Unblank cs) (hafter : Blanks after) :
    trim (before ++ cs ++ after) = cs := by
  have hnone : ∀ {ds : List Char}, Unblank ds → ds.dropWhile isBlank = ds := by
    intro ds hds
    cases ds with
    | nil => rfl
    | cons d rest => exact List.dropWhile_cons_of_neg (by simp [hds d List.mem_cons_self])
  have hreverse : Unblank cs.reverse := fun c hc => hcs c (List.mem_reverse.1 hc)
  rw [trim, List.append_assoc, trimStart_append hbefore]
  cases cs with
  | nil =>
      have hall : trimStart after = [] := List.dropWhile_eq_nil_iff.2 hafter
      rw [List.nil_append, hall]
      rfl
  | cons c rest =>
      have hkept : trimStart (c :: rest ++ after) = c :: rest ++ after :=
        List.dropWhile_cons_of_neg (by simp [hcs c List.mem_cons_self])
      rw [hkept, trimEnd_append_blanks hafter, trimEnd, hnone hreverse, List.reverse_reverse]

end Switchboard.Text
