import Switchboard.Text.Split

/-!
# Cutting at a separator and joining again

A separator inside a text splits its pieces into those before and those after
(`cut_append_cons`), so the pieces of a joined text are the pieces that were
joined, as long as none of them holds the separator.  `parts` forgets the empty
pieces; what it makes of a path depends only on the segments that are written
into the path (`parts_flatMap`).  Separators at the ends make only empty pieces, so
without them a text is its piece if it has only one (`trimEnds_eq_iff`).

The first separator alone splits a text in two, if it is there at all
(`splitOnce_eq_none_iff`, `splitOnce_ok`).
-/

namespace Switchboard.Text

variable {sep : Char}

theorem cut_of_notMem {cs : List Char} (h : sep ∉ cs) : cut sep cs = [cs] := by
  induction cs with
  | nil => rfl
  | cons c cs ih =>
      simp only [List.mem_cons, not_or] at h
      rw [cut, if_neg (Ne.symm h.1), ih h.2]

theorem cut_append_cons (sep : Char) (xs ys : List Char) :
    cut sep (xs ++ sep :: ys) = cut sep xs ++ cut sep ys := by
  induction xs with
  | nil => simp [cut]
  | cons x xs ih =>
      by_cases hx : x = sep
      · simp [cut, hx, ih]
      · simp only [List.cons_append, cut, hx, if_false, ih]
        cases hxs : cut sep xs with
        | nil => exact absurd hxs (cut_ne_nil sep xs)
        | cons piece pieces => rfl

/-- Pieces with the separator between them are the pieces of their text, empty ones included. -/
theorem cut_join {pieces : List (List Char)} (hne : pieces ≠ [])
    (h : ∀ piece ∈ pieces, sep ∉ piece) : cut sep (join sep pieces) = pieces := by
  induction pieces with
  | nil => exact absurd rfl hne
  | cons piece pieces ih =>
      have hpiece := cut_of_notMem (h piece List.mem_cons_self)
      cases pieces with
      | nil => exact hpiece
      | cons next rest =>
          have hrest := ih (List.cons_ne_nil next rest) fun p hp =>
            h p (List.mem_cons_of_mem piece hp)
          rw [join, cut_append_cons, hpiece, hrest]
          · rfl
          · exact List.cons_ne_nil next rest

/-! ## Pieces that are not empty -/

@[simp] theorem parts_nil (sep : Char) : parts sep [] = [] := rfl

theorem mem_parts {cs piece : List Char} (h : piece ∈ parts sep cs) :
    piece ≠ [] ∧ sep ∉ piece := by
  simp only [parts, List.mem_filter, Bool.not_eq_true', List.isEmpty_eq_false_iff] at h
  exact ⟨h.2, sep_notMem_of_mem_cut h.1⟩

theorem parts_append_cons (sep : Char) (xs ys : List Char) :
    parts sep (xs ++ sep :: ys) = parts sep xs ++ parts sep ys := by
  simp [parts, cut_append_cons]

@[simp] theorem parts_cons_sep (sep : Char) (cs : List Char) :
    parts sep (sep :: cs) = parts sep cs :=
  parts_append_cons sep [] cs

theorem parts_of_notMem {cs : List Char} (h : sep ∉ cs) (hne : cs ≠ []) :
    parts sep cs = [cs] := by
  simp [parts, cut_of_notMem h, hne]

/-- A text that is empty or starts with the separator can be split off. -/
theorem parts_append {ys : List Char} (xs : List Char) (h : ys = [] ∨ ys.head? = some sep) :
    parts sep (xs ++ ys) = parts sep xs ++ parts sep ys := by
  rcases h with rfl | h
  · simp
  · cases ys with
    | nil => simp at h
    | cons y ys =>
        obtain rfl : y = sep := by simpa using h
        rw [parts_append_cons, parts_cons_sep]

/-- A text of pieces with the separator before each of them is empty or starts with the
separator. -/
theorem flatMap_starts (sep : Char) (pieces : List (List Char)) :
    pieces.flatMap (sep :: ·) = [] ∨ (pieces.flatMap (sep :: ·)).head? = some sep := by
  cases pieces with
  | nil => exact .inl rfl
  | cons piece pieces => exact .inr rfl

theorem parts_flatMap (sep : Char) (pieces : List (List Char)) :
    parts sep (pieces.flatMap (sep :: ·)) = pieces.flatMap (parts sep) := by
  induction pieces with
  | nil => rfl
  | cons piece pieces ih =>
      rw [List.flatMap_cons, parts_append _ (flatMap_starts sep pieces), parts_cons_sep, ih,
        List.flatMap_cons]

/-- Pieces that are written into a path come out of it unharmed. -/
theorem parts_flatMap_eq_self {pieces : List (List Char)}
    (h : ∀ piece ∈ pieces, piece ≠ [] ∧ sep ∉ piece) :
    parts sep (pieces.flatMap (sep :: ·)) = pieces := by
  rw [parts_flatMap]
  induction pieces with
  | nil => rfl
  | cons piece pieces ih =>
      obtain ⟨hne, hsep⟩ := h piece (by simp)
      rw [List.flatMap_cons, parts_of_notMem hsep hne, ih fun p hp => h p (by simp [hp])]
      rfl

/-- A separator before a joined text is one before each of its pieces. -/
theorem cons_join (sep : Char) {pieces : List (List Char)} (h : pieces ≠ []) :
    sep :: join sep pieces = pieces.flatMap (sep :: ·) := by
  induction pieces with
  | nil => exact absurd rfl h
  | cons piece pieces ih =>
      cases pieces with
      | nil => simp [join]
      | cons next rest =>
          rw [join, ih (List.cons_ne_nil next rest), List.flatMap_cons]
          · rfl
          · exact List.cons_ne_nil next rest

/-- Pieces with the separator between them come out of their text unharmed. -/
theorem parts_join {pieces : List (List Char)}
    (h : ∀ piece ∈ pieces, piece ≠ [] ∧ sep ∉ piece) : parts sep (join sep pieces) = pieces := by
  induction pieces with
  | nil => rfl
  | cons piece pieces ih =>
      obtain ⟨hne, hsep⟩ := h piece (by simp)
      cases pieces with
      | nil => exact parts_of_notMem hsep hne
      | cons next rest =>
          rw [join, parts_append_cons, parts_of_notMem hsep hne,
            ih fun p hp => h p (by simp [hp])]
          · rfl
          · simp

/-! ## Separators at the ends -/

/-- The text without the separators at its ends. -/
def trimEnds (sep : Char) (cs : List Char) : List Char :=
  ((cs.dropWhile (· == sep)).reverse.dropWhile (· == sep)).reverse

/-- The first piece goes up to the first separator. -/
theorem parts_cons_of_ne {c : Char} (h : c ≠ sep) (cs : List Char) :
    parts sep (c :: cs) =
      (c :: cs.takeWhile (· != sep)) :: parts sep (cs.dropWhile (· != sep)) := by
  have hstart : cs.dropWhile (· != sep) = [] ∨ (cs.dropWhile (· != sep)).head? = some sep := by
    have hhead := List.head?_dropWhile_not (· != sep) cs
    cases hrest : cs.dropWhile (· != sep) with
    | nil => exact .inl rfl
    | cons d rest =>
        rw [hrest] at hhead
        exact .inr (by simpa using hhead)
  have hfirst : sep ∉ c :: cs.takeWhile (· != sep) := by
    intro hmem
    rcases List.mem_cons.1 hmem with heq | htake
    · exact h heq.symm
    · have hne := List.all_eq_true.1 List.all_takeWhile _ htake
      simp at hne
  have hsplit : c :: cs = (c :: cs.takeWhile (· != sep)) ++ cs.dropWhile (· != sep) := by
    rw [List.cons_append, List.takeWhile_append_dropWhile]
  rw [hsplit, parts_append _ hstart, parts_of_notMem hfirst (by simp)]
  rfl

theorem parts_eq_nil_iff {cs : List Char} : parts sep cs = [] ↔ ∀ c ∈ cs, c = sep := by
  induction cs with
  | nil => simp
  | cons c cs ih =>
      by_cases hc : c = sep
      · simp [hc, ih]
      · simp [parts_cons_of_ne hc, hc]

theorem parts_append_of_seps_left {xs : List Char} (h : ∀ c ∈ xs, c = sep) (ys : List Char) :
    parts sep (xs ++ ys) = parts sep ys := by
  induction xs with
  | nil => rfl
  | cons x xs ih =>
      rw [h x (by simp), List.cons_append, parts_cons_sep, ih fun c hc => h c (by simp [hc])]

theorem parts_append_of_seps_right {ys : List Char} (h : ∀ c ∈ ys, c = sep) (xs : List Char) :
    parts sep (xs ++ ys) = parts sep xs := by
  have hstart : ys = [] ∨ ys.head? = some sep := by
    cases ys with
    | nil => exact .inl rfl
    | cons y ys => exact .inr (by rw [List.head?_cons, h y (by simp)])
  rw [parts_append xs hstart, parts_eq_nil_iff.2 h, List.append_nil]

private theorem eq_of_mem_takeWhile {cs : List Char} :
    ∀ c ∈ cs.takeWhile (· == sep), c = sep := by
  intro c hc
  simpa using List.all_eq_true.1 List.all_takeWhile c hc

theorem parts_dropWhile (sep : Char) (cs : List Char) :
    parts sep (cs.dropWhile (· == sep)) = parts sep cs := by
  conv => rhs; rw [← List.takeWhile_append_dropWhile (p := (· == sep)) (l := cs)]
  rw [parts_append_of_seps_left eq_of_mem_takeWhile]

/-- The text without the separators at its end. -/
def dropTrailing (sep : Char) (cs : List Char) : List Char :=
  (cs.reverse.dropWhile (· == sep)).reverse

theorem exists_eq_dropTrailing_append (sep : Char) (cs : List Char) :
    ∃ seps, cs = dropTrailing sep cs ++ seps ∧ ∀ c ∈ seps, c = sep := by
  have hsplit := congrArg List.reverse
    (List.takeWhile_append_dropWhile (p := (· == sep)) (l := cs.reverse))
  rw [List.reverse_append, List.reverse_reverse] at hsplit
  refine ⟨(cs.reverse.takeWhile (· == sep)).reverse, hsplit.symm, ?_⟩
  intro c hc
  exact eq_of_mem_takeWhile c (List.mem_reverse.1 hc)

theorem parts_dropTrailing (sep : Char) (cs : List Char) :
    parts sep (dropTrailing sep cs) = parts sep cs := by
  obtain ⟨seps, hcs, hseps⟩ := exists_eq_dropTrailing_append sep cs
  conv => rhs; rw [hcs]
  rw [parts_append_of_seps_right hseps]

theorem getLast?_dropTrailing_ne (sep : Char) (cs : List Char) :
    (dropTrailing sep cs).getLast? ≠ some sep := by
  intro hlast
  have hhead := List.head?_dropWhile_not (· == sep) cs.reverse
  rw [dropTrailing, List.getLast?_reverse] at hlast
  rw [hlast] at hhead
  simp at hhead

/-- The separators at the ends do not count. -/
theorem parts_trimEnds (sep : Char) (cs : List Char) :
    parts sep (trimEnds sep cs) = parts sep cs := by
  have htrim : trimEnds sep cs = dropTrailing sep (cs.dropWhile (· == sep)) := rfl
  rw [htrim, parts_dropTrailing, parts_dropWhile]

/-- Without the separators at its ends a text is its only piece. -/
theorem trimEnds_eq_iff {cs p : List Char} (hp : sep ∉ p) (hne : p ≠ []) :
    trimEnds sep cs = p ↔ parts sep cs = [p] := by
  constructor
  · intro htrim
    rw [← parts_trimEnds, htrim, parts_of_notMem hp hne]
  · intro hparts
    rw [← parts_dropWhile] at hparts
    have hhead := List.head?_dropWhile_not (· == sep) cs
    rw [trimEnds]
    cases hrest : cs.dropWhile (· == sep) with
    | nil =>
        rw [hrest] at hparts
        simp at hparts
    | cons c rest =>
        rw [hrest] at hparts hhead
        have hc : c ≠ sep := by simpa using hhead
        rw [parts_cons_of_ne hc, List.cons.injEq, parts_eq_nil_iff] at hparts
        obtain ⟨hpiece, hafter⟩ := hparts
        have hsplit : c :: rest = p ++ rest.dropWhile (· != sep) := by
          rw [← hpiece, List.cons_append, List.takeWhile_append_dropWhile]
        have hkept : p.reverse.dropWhile (· == sep) = p.reverse := by
          cases hlast : p.reverse with
          | nil => rfl
          | cons d ds =>
              have hd : d ∈ p := List.mem_reverse.1 (by rw [hlast]; simp)
              have hne : d ≠ sep := fun heq => hp (heq ▸ hd)
              rw [List.dropWhile_cons_of_neg (by simpa using hne)]
        rw [hsplit, List.reverse_append, List.dropWhile_append_of_pos, hkept, List.reverse_reverse]
        intro d hd
        simpa using hafter d (List.mem_reverse.1 hd)

/-! ## The first separator -/

theorem splitOnce_append {xs : List Char} (h : sep ∉ xs) (ys : List Char) :
    splitOnce sep (xs ++ sep :: ys) = some (xs, ys) := by
  induction xs with
  | nil => simp [splitOnce]
  | cons x xs ih =>
      simp only [List.mem_cons, not_or] at h
      simp [splitOnce, Ne.symm h.1, ih h.2]

theorem splitOnce_eq_none_iff {cs : List Char} : splitOnce sep cs = none ↔ sep ∉ cs := by
  constructor
  · intro h hmem
    obtain ⟨before, after, rfl, hbefore⟩ := List.eq_append_cons_of_mem hmem
    rw [splitOnce_append hbefore] at h
    exact absurd h (by simp)
  · intro h
    induction cs with
    | nil => rfl
    | cons c cs ih =>
        simp only [List.mem_cons, not_or] at h
        rw [splitOnce, if_neg (Ne.symm h.1), ih h.2]
        rfl

/-- What stands before the first separator holds none. -/
theorem splitOnce_ok {cs before after : List Char} (h : splitOnce sep cs = some (before, after)) :
    cs = before ++ sep :: after ∧ sep ∉ before := by
  induction cs generalizing before with
  | nil => simp [splitOnce] at h
  | cons c cs ih =>
      rw [splitOnce] at h
      by_cases hc : c = sep
      · rw [if_pos hc] at h
        obtain ⟨rfl, rfl⟩ := Prod.mk.inj (Option.some.inj h)
        exact ⟨by rw [hc]; rfl, List.not_mem_nil⟩
      · rw [if_neg hc] at h
        obtain ⟨⟨first, rest⟩, hfirst, hpair⟩ := Option.map_eq_some_iff.1 h
        obtain ⟨rfl, rfl⟩ := Prod.mk.inj hpair
        obtain ⟨hcs, hnot⟩ := ih hfirst
        refine ⟨by rw [hcs]; rfl, ?_⟩
        simp only [List.mem_cons, not_or]
        exact ⟨Ne.symm hc, hnot⟩

end Switchboard.Text
