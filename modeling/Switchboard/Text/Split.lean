/-!
# Cutting a text at a separator

`cut sep cs` is the list of the pieces between the separators, empty ones included, so that there
is always one more piece than there are separators; `join` puts a separator between pieces.
`parts` keeps the pieces that are not empty: the segments of a path.
-/

namespace Switchboard.Text

/-- The pieces between the separators; a text without a separator is one piece. -/
def cut (sep : Char) : List Char → List (List Char)
  | [] => [[]]
  | c :: rest =>
    if c = sep then [] :: cut sep rest
    else match cut sep rest with
      | [] => [[c]]
      | piece :: pieces => (c :: piece) :: pieces

/-- The pieces with a separator between neighbours. -/
def join (sep : Char) : List (List Char) → List Char
  | [] => []
  | [piece] => piece
  | piece :: pieces => piece ++ sep :: join sep pieces

/-- The pieces that are not empty. -/
def parts (sep : Char) (cs : List Char) : List (List Char) := (cut sep cs).filter (!·.isEmpty)

/-- What stands before the first separator and what stands after it. -/
def splitOnce (sep : Char) : List Char → Option (List Char × List Char)
  | [] => none
  | c :: rest =>
    if c = sep then some ([], rest)
    else (splitOnce sep rest).map fun (before, after) => (c :: before, after)

/-- What follows the given start, if the text starts so. -/
def dropStart? : List Char → List Char → Option (List Char)
  | [], cs => some cs
  | _ :: _, [] => none
  | p :: ps, c :: cs => if p = c then dropStart? ps cs else none

theorem cut_ne_nil (sep : Char) (cs : List Char) : cut sep cs ≠ [] := by
  cases cs with
  | nil => simp [cut]
  | cons c rest =>
    by_cases h : c = sep
    · simp [cut, h]
    · simp only [cut, h, if_false]
      split <;> simp

/-- Nothing is lost: the pieces with separators between them are the text again. -/
theorem join_cut (sep : Char) (cs : List Char) : join sep (cut sep cs) = cs := by
  induction cs with
  | nil => rfl
  | cons c rest ih =>
    by_cases h : c = sep
    · subst h
      rcases hc : cut c rest with _ | ⟨piece, pieces⟩
      · exact absurd hc (cut_ne_nil c rest)
      · rw [hc] at ih
        simp [cut, hc, join, ih]
    · rcases hc : cut sep rest with _ | ⟨piece, pieces⟩
      · exact absurd hc (cut_ne_nil sep rest)
      · rw [hc] at ih
        cases pieces with
        | nil => simp [cut, h, hc, join] at ih ⊢; exact ih
        | cons q qs => simp [cut, h, hc, join] at ih ⊢; exact ih

/-- No piece holds the separator. -/
theorem sep_notMem_of_mem_cut {sep : Char} {cs piece : List Char} (h : piece ∈ cut sep cs) :
    sep ∉ piece := by
  induction cs generalizing piece with
  | nil => simp [cut] at h; simp [h]
  | cons c rest ih =>
    by_cases hc : c = sep
    · simp only [cut, hc, if_true, List.mem_cons] at h
      rcases h with rfl | h
      · simp
      · exact ih h
    · simp only [cut, hc, if_false] at h
      rcases hp : cut sep rest with _ | ⟨first, others⟩
      · exact absurd hp (cut_ne_nil sep rest)
      · rw [hp] at h ih
        simp only [List.mem_cons] at h
        rcases h with rfl | h
        · have := ih (List.mem_cons_self ..)
          simp only [List.mem_cons, not_or]
          exact ⟨fun e => hc e.symm, this⟩
        · exact ih (List.mem_cons_of_mem _ h)

theorem dropStart?_eq_some_iff {start cs rest : List Char} :
    dropStart? start cs = some rest ↔ cs = start ++ rest := by
  induction start generalizing cs with
  | nil => simp [dropStart?]
  | cons p ps ih =>
    cases cs with
    | nil => simp [dropStart?]
    | cons c cs =>
      by_cases h : p = c
      · simp [dropStart?, h, ih]
      · simp [dropStart?, h, Ne.symm h]

end Switchboard.Text
