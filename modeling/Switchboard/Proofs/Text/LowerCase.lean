import Mathlib.Data.List.Basic
import Switchboard.Text.LowerCase

/-!
# Lower case and the letters `A` to `Z`

A text in lower case holds none of the letters `A` to `Z`, also where it comes from letters of
other scripts (`isUpper_of_mem_lowerCase`): no run of the table ends among them.  So texts in lower
case that differ in the case of these letters only are equal (`eqIgnoringAsciiCase_lowerCase_iff`).

The other way, one run ends among the letters `a` to `z`, that of the Kelvin sign.  A word of these
letters without a `k` is therefore the lower case of its own spellings only (`lowerCase_eq_iff`).

No run of the table ends in letters that the table changes, so a text in lower case is its own lower
case (`lowerCase_lowerCase`).
-/

namespace Switchboard.Text

theorem isUpper_iff {c : Char} : c.isUpper = true ↔ 65 ≤ c.toNat ∧ c.toNat ≤ 90 := by
  unfold Char.isUpper
  rw [decide_eq_true_iff]
  exact and_congr UInt32.le_iff_toNat_le UInt32.le_iff_toNat_le

theorem isUpper_eq_false_iff {c : Char} : c.isUpper = false ↔ c.toNat < 65 ∨ 90 < c.toNat := by
  rw [← Bool.not_eq_true, isUpper_iff]
  omega

theorem toLower_eq_self {c : Char} (h : c.isUpper = false) : c.toLower = c := by
  unfold Char.isUpper at h
  unfold Char.toLower
  rw [dif_neg (of_decide_eq_false h)]

theorem toNat_toLower {c : Char} (h : c.isUpper = true) : c.toLower.toNat = c.toNat + 32 := by
  have hrange := isUpper_iff.1 h
  unfold Char.isUpper at h
  unfold Char.toLower
  rw [dif_pos (of_decide_eq_true h), ← Char.toNat_val, UInt32.toNat_add, Char.toNat_val]
  exact Nat.mod_eq_of_lt (by simp; omega)

theorem isUpper_toLower (c : Char) : c.toLower.isUpper = false := by
  cases hupper : c.isUpper with
  | false => rw [toLower_eq_self hupper, hupper]
  | true =>
      have hrange := isUpper_iff.1 hupper
      rw [isUpper_eq_false_iff, toNat_toLower hupper]
      omega

theorem toLower_lt {c : Char} (h : c.toNat < 0x80) : c.toLower.toNat < 0x80 := by
  cases hupper : c.isUpper with
  | false => rwa [toLower_eq_self hupper]
  | true =>
      have hrange := isUpper_iff.1 hupper
      rw [toNat_toLower hupper]
      omega

private theorem isUpper_ofNat {n : Nat} (h : 90 < n) : (Char.ofNat n).isUpper = false := by
  rw [isUpper_eq_false_iff]
  unfold Char.ofNat
  by_cases hvalid : n.isValidChar
  · rw [dif_pos hvalid]
    exact .inr h
  · rw [dif_neg hvalid]
    exact .inl (by decide)

theorem lowerRuns_above : lowerRuns.all (fun run => decide (91 ≤ (run.first : Int) + run.shift)) =
    true := by decide

theorem isUpper_apply_of_mem {run : CaseRun} (hrun : run ∈ lowerRuns) {c : Char}
    (h : run.covers c = true) : (run.apply c).isUpper = false := by
  have habove := of_decide_eq_true (List.all_eq_true.1 lowerRuns_above run hrun)
  have hfirst : run.first ≤ c.toNat := by
    simp only [CaseRun.covers, Bool.and_eq_true, decide_eq_true_eq] at h
    exact h.1.1
  exact isUpper_ofNat (by omega)

theorem isUpper_of_mem_lowerChar {c d : Char} (h : d ∈ lowerChar c) : d.isUpper = false := by
  unfold lowerChar at h
  split at h
  · obtain rfl := List.mem_singleton.1 h
    exact isUpper_toLower c
  · rename_i hascii
    split at h
    · rcases List.mem_cons.1 h with rfl | h
      · decide
      · obtain rfl := List.mem_singleton.1 h
        decide
    · split at h
      · rename_i run hrun
        obtain rfl := List.mem_singleton.1 h
        exact isUpper_apply_of_mem (List.mem_of_find?_eq_some hrun)
          (by simpa using List.find?_some hrun)
      · obtain rfl := List.mem_singleton.1 h
        exact isUpper_eq_false_iff.2 (by omega)

/-- What holds of both small sigmas and of all that single characters become holds of every
character of a text in lower case. -/
theorem forall_mem_lowerCaseFrom {P : Char → Prop} (hend : P 'ς') (hmiddle : P 'σ')
    (hchar : ∀ c, ∀ d ∈ lowerChar c, P d) (before cs : List Char) :
    ∀ d ∈ lowerCaseFrom before cs, P d := by
  induction cs generalizing before with
  | nil => exact fun d hd => absurd hd List.not_mem_nil
  | cons c rest ih =>
      intro d hd
      rw [lowerCaseFrom] at hd
      rcases List.mem_append.1 hd with hd | hd
      · split at hd
        · split at hd
          · exact List.mem_singleton.1 hd ▸ hend
          · exact List.mem_singleton.1 hd ▸ hmiddle
        · exact hchar c d hd
      · exact ih _ d hd

theorem isUpper_of_mem_lowerCaseFrom {before cs : List Char} {d : Char}
    (h : d ∈ lowerCaseFrom before cs) : d.isUpper = false :=
  forall_mem_lowerCaseFrom (by decide) (by decide) (fun _ _ => isUpper_of_mem_lowerChar) before cs
    d h

theorem isUpper_of_mem_lowerCase {s : String} {d : Char} (h : d ∈ (lowerCase s).toList) :
    d.isUpper = false := by
  rw [lowerCase, String.toList_ofList] at h
  exact isUpper_of_mem_lowerCaseFrom h

theorem map_toLower_lowerCase (s : String) :
    (lowerCase s).toList.map Char.toLower = (lowerCase s).toList := by
  have hfixed : (lowerCase s).toList.map Char.toLower = (lowerCase s).toList.map id :=
    List.map_congr_left fun c hc => toLower_eq_self (isUpper_of_mem_lowerCase hc)
  rw [hfixed, List.map_id]

theorem eqIgnoringAsciiCase_congr {s t : String} (h : eqIgnoringAsciiCase s t = true) :
    eqIgnoringAsciiCase s = eqIgnoringAsciiCase t := by
  funext other
  rw [eqIgnoringAsciiCase, beq_iff_eq] at h
  rw [eqIgnoringAsciiCase, eqIgnoringAsciiCase, h]

/-- In lower case the letters `A` to `Z` make no difference. -/
theorem eqIgnoringAsciiCase_lowerCase_iff {s t : String} :
    eqIgnoringAsciiCase (lowerCase s) (lowerCase t) = true ↔ lowerCase s = lowerCase t := by
  rw [eqIgnoringAsciiCase, beq_iff_eq, map_toLower_lowerCase, map_toLower_lowerCase,
    String.toList_inj]

/-! ## Texts of ASCII -/

theorem lowerCaseFrom_of_isAscii {before cs : List Char} (h : ∀ c ∈ cs, isAscii c = true) :
    lowerCaseFrom before cs = cs.map Char.toLower := by
  induction cs generalizing before with
  | nil => rfl
  | cons c rest ih =>
      have hascii : c.toNat < 0x80 := by simpa [isAscii] using h c List.mem_cons_self
      have hsigma : c ≠ 'Σ' := by
        rintro rfl
        exact absurd hascii (by decide)
      rw [lowerCaseFrom, ih fun d hd => h d (List.mem_cons_of_mem _ hd)]
      simp [hsigma, lowerChar, hascii]

/-! ## Words of small letters -/

/-- A small letter of ASCII other than `k`, which the Kelvin sign has for its lower case too. -/
def isPlainSmall (c : Char) : Bool := decide (97 ≤ c.toNat ∧ c.toNat ≤ 122) && c != 'k'

theorem isPlainSmall_iff {c : Char} :
    isPlainSmall c = true ↔ (97 ≤ c.toNat ∧ c.toNat ≤ 122) ∧ c ≠ 'k' := by
  simp [isPlainSmall]

private theorem isPlainSmall_ofNat {n : Nat} (h : 0x80 ≤ n) :
    isPlainSmall (Char.ofNat n) = false := by
  rw [← Bool.not_eq_true, isPlainSmall_iff]
  unfold Char.ofNat
  by_cases hvalid : n.isValidChar
  · rw [dif_pos hvalid]
    rintro ⟨⟨-, hle⟩, -⟩
    have hn : n ≤ 122 := hle
    omega
  · rw [dif_neg hvalid]
    exact fun hplain => absurd hplain.1 (by decide)

theorem lowerRuns_plain : lowerRuns.all (fun run =>
    decide (0x80 ≤ (run.first : Int) + run.shift) || run == ⟨0x212A, 0x212A, 1, -8383⟩) =
    true := by decide

/-- Letters of other scripts have no such letter for their lower case. -/
theorem isPlainSmall_apply_of_mem {run : CaseRun} (hrun : run ∈ lowerRuns) {c : Char}
    (h : run.covers c = true) : isPlainSmall (run.apply c) = false := by
  simp only [CaseRun.covers, Bool.and_eq_true, decide_eq_true_eq] at h
  have hplain := List.all_eq_true.1 lowerRuns_plain run hrun
  simp only [Bool.or_eq_true, decide_eq_true_eq, beq_iff_eq] at hplain
  rcases hplain with habove | rfl
  · exact isPlainSmall_ofNat (by omega)
  · obtain ⟨⟨hfirst, hlast⟩, -⟩ := h
    have hkelvin : c.toNat = 0x212A := Nat.le_antisymm hlast hfirst
    rw [CaseRun.apply, hkelvin]
    decide

theorem isAscii_of_lowerChar {c : Char} (h : ∀ d ∈ lowerChar c, isPlainSmall d = true) :
    isAscii c = true := by
  by_cases hascii : c.toNat < 0x80
  · simpa [isAscii] using hascii
  · exfalso
    unfold lowerChar at h
    rw [if_neg hascii] at h
    split at h
    · exact absurd (h _ (List.mem_cons_of_mem _ List.mem_cons_self)) (by decide)
    · split at h
      · rename_i run hrun
        have hplain := h _ List.mem_cons_self
        rw [isPlainSmall_apply_of_mem (List.mem_of_find?_eq_some hrun)
          (by simpa using List.find?_some hrun)] at hplain
        exact Bool.false_ne_true hplain
      · have hplain := isPlainSmall_iff.1 (h c List.mem_cons_self)
        omega

theorem isAscii_of_lowerCaseFrom {before cs : List Char}
    (h : ∀ d ∈ lowerCaseFrom before cs, isPlainSmall d = true) :
    ∀ c ∈ cs, isAscii c = true := by
  induction cs generalizing before with
  | nil => exact fun c hc => absurd hc List.not_mem_nil
  | cons c rest ih =>
      rw [lowerCaseFrom] at h
      intro d hd
      rcases List.mem_cons.1 hd with rfl | hrest
      · by_cases hsigma : d = 'Σ'
        · -- neither form of the small sigma is of ASCII
          rw [if_pos hsigma] at h
          split at h
          · exact absurd (h 'ς' (by simp)) (by decide)
          · exact absurd (h 'σ' (by simp)) (by decide)
        · rw [if_neg hsigma] at h
          exact isAscii_of_lowerChar fun e he => h e (List.mem_append_left _ he)
      · exact ih (fun e he => h e (List.mem_append_right _ he)) d hrest

theorem isAscii_of_isPlainSmall_toLower {c : Char} (h : isPlainSmall c.toLower = true) :
    isAscii c = true := by
  rw [isAscii, decide_eq_true_eq]
  cases hupper : c.isUpper with
  | true =>
      have hrange := isUpper_iff.1 hupper
      omega
  | false =>
      rw [toLower_eq_self hupper] at h
      have hrange := (isPlainSmall_iff.1 h).1
      omega

/-- Only the letters `A` to `Z` can make a word of such letters out of another text. -/
theorem lowerCase_eq_iff {s word : String} (hword : ∀ d ∈ word.toList, isPlainSmall d = true) :
    lowerCase s = word ↔ eqIgnoringAsciiCase s word = true := by
  have hsmall : word.toList.map Char.toLower = word.toList := by
    conv => rhs; rw [← List.map_id word.toList]
    refine List.map_congr_left fun d hd => toLower_eq_self (isUpper_eq_false_iff.2 ?_)
    have hrange := (isPlainSmall_iff.1 (hword d hd)).1
    omega
  rw [eqIgnoringAsciiCase, beq_iff_eq, hsmall]
  constructor
  · rintro rfl
    rw [lowerCase, String.toList_ofList] at hword ⊢
    exact (lowerCaseFrom_of_isAscii (isAscii_of_lowerCaseFrom hword)).symm
  · intro hsame
    have hascii : ∀ c ∈ s.toList, isAscii c = true := fun c hc =>
      isAscii_of_isPlainSmall_toLower (hword _ (hsame ▸ List.mem_map_of_mem hc))
    rw [lowerCase, lowerCaseFrom_of_isAscii hascii, hsame, String.ofList_toList]

/-! ## Lower case of lower case -/

/-- The character is its own lower case, wherever it stands. -/
def IsLowered (c : Char) : Prop := c ≠ 'Σ' ∧ lowerChar c = [c]

theorem lowerCaseFrom_of_isLowered {before cs : List Char} (h : ∀ c ∈ cs, IsLowered c) :
    lowerCaseFrom before cs = cs := by
  induction cs generalizing before with
  | nil => rfl
  | cons c rest ih =>
      obtain ⟨hsigma, hlowered⟩ := h c List.mem_cons_self
      rw [lowerCaseFrom, if_neg hsigma, hlowered, ih fun d hd => h d (List.mem_cons_of_mem _ hd)]
      rfl

/-- Numbers as the bits of one number; two lists of them are compared at a stroke. -/
def bitsOf (places : List Nat) : Nat := places.foldr (fun n bits => 1 <<< n ||| bits) 0

theorem testBit_bitsOf {places : List Nat} {n : Nat} (h : n ∈ places) :
    (bitsOf places).testBit n = true := by
  induction places with
  | nil => exact absurd h List.not_mem_nil
  | cons m rest ih =>
      rw [bitsOf, List.foldr_cons, Nat.testBit_or, Bool.or_eq_true]
      rcases List.mem_cons.1 h with rfl | hrest
      · exact .inl (by simp)
      · exact .inr (ih hrest)

theorem notMem_of_bitsOf {places others : List Nat} (h : bitsOf places &&& bitsOf others = 0)
    {n : Nat} (hn : n ∈ places) : n ∉ others := by
  intro hother
  have hbit : (bitsOf places &&& bitsOf others).testBit n = true := by
    rw [Nat.testBit_and, testBit_bitsOf hn, testBit_bitsOf hother]
    rfl
  rw [h, Nat.zero_testBit] at hbit
  exact Bool.false_ne_true hbit

/-- The code points from which a run starts, each moved by a distance. -/
def CaseRun.moved (run : CaseRun) (shift : Int) : List Nat :=
  (List.range ((run.last - run.first) / run.step + 1)).map fun k =>
    (((run.first + run.step * k : Nat) : Int) + shift).toNat

theorem CaseRun.mem_moved {run : CaseRun} {c : Char} (h : run.covers c = true) (shift : Int) :
    ((c.toNat : Int) + shift).toNat ∈ run.moved shift := by
  simp only [covers, Bool.and_eq_true, decide_eq_true_eq, beq_iff_eq] at h
  obtain ⟨⟨hfirst, hlast⟩, hstep⟩ := h
  have hplace : run.first + run.step * ((c.toNat - run.first) / run.step) = c.toNat := by
    have hsplit := Nat.div_add_mod (c.toNat - run.first) run.step
    omega
  refine List.mem_map.2 ⟨(c.toNat - run.first) / run.step, List.mem_range.2 ?_, by rw [hplace]⟩
  exact Nat.lt_succ_of_le (Nat.div_le_div_right (by omega))

/-- No run leads to where a run starts from, and none leads to the dotted capital I. -/
theorem lowerRuns_apart :
    bitsOf (lowerRuns.flatMap fun run => run.moved run.shift) &&&
      bitsOf (0x130 :: lowerRuns.flatMap fun run => run.moved 0) = 0 := by decide +kernel

theorem isLowered_of_isAscii {d : Char} (hascii : d.toNat < 0x80) (h : d.isUpper = false) :
    IsLowered d := by
  refine ⟨?_, by rw [lowerChar, if_pos hascii, toLower_eq_self h]⟩
  rintro rfl
  exact absurd hascii (by decide)

/-- What the runs leave alone is its own lower case. -/
theorem isLowered_of_find?_eq_none {d : Char} (hascii : ¬ d.toNat < 0x80) (hdotted : d ≠ 'İ')
    (h : lowerRuns.find? (·.covers d) = none) : IsLowered d := by
  refine ⟨?_, by rw [lowerChar, if_neg hascii, if_neg hdotted, h]⟩
  rintro rfl
  exact absurd h (by decide)

private theorem toNat_ofNat_of_not_ascii {n : Nat} (h : ¬ (Char.ofNat n).toNat < 0x80) :
    (Char.ofNat n).toNat = n := by
  unfold Char.ofNat at h ⊢
  by_cases hvalid : n.isValidChar
  · rw [dif_pos hvalid]
    rfl
  · rw [dif_neg hvalid] at h
    exact absurd (by decide) h

theorem isLowered_apply {run : CaseRun} (hrun : run ∈ lowerRuns) {c : Char}
    (h : run.covers c = true) : IsLowered (run.apply c) := by
  have hupper := isUpper_apply_of_mem hrun h
  by_cases hascii : (run.apply c).toNat < 0x80
  · exact isLowered_of_isAscii hascii hupper
  · have hplace : (run.apply c).toNat = ((c.toNat : Int) + run.shift).toNat :=
      toNat_ofNat_of_not_ascii hascii
    have hapart := notMem_of_bitsOf lowerRuns_apart
      (List.mem_flatMap.2 ⟨run, hrun, CaseRun.mem_moved h run.shift⟩)
    rw [← hplace, List.mem_cons, not_or, List.mem_flatMap] at hapart
    refine isLowered_of_find?_eq_none hascii ?_ (List.find?_eq_none.2 fun other hother hcovers => ?_)
    · exact fun hdotted => hapart.1 (by rw [hdotted]; rfl)
    · exact hapart.2 ⟨other, hother, by simpa using CaseRun.mem_moved hcovers 0⟩

theorem isLowered_of_mem_lowerChar {c d : Char} (h : d ∈ lowerChar c) : IsLowered d := by
  have hupper := isUpper_of_mem_lowerChar h
  by_cases hd : d.toNat < 0x80
  · exact isLowered_of_isAscii hd hupper
  · unfold lowerChar at h
    split at h
    · rename_i hascii
      obtain rfl := List.mem_singleton.1 h
      exact absurd (toLower_lt hascii) hd
    · split at h
      · rcases List.mem_cons.1 h with rfl | h
        · exact absurd (by decide) hd
        · obtain rfl := List.mem_singleton.1 h
          exact ⟨by decide, by decide⟩
      · rename_i hdotted
        split at h
        · rename_i run hrun
          obtain rfl := List.mem_singleton.1 h
          exact isLowered_apply (List.mem_of_find?_eq_some hrun)
            (by simpa using List.find?_some hrun)
        · rename_i hnone
          obtain rfl := List.mem_singleton.1 h
          exact isLowered_of_find?_eq_none hd hdotted hnone

/-- A text in lower case is its own lower case. -/
theorem lowerCase_lowerCase (s : String) : lowerCase (lowerCase s) = lowerCase s := by
  have hlowered : ∀ d ∈ (lowerCase s).toList, IsLowered d := by
    rw [lowerCase, String.toList_ofList]
    exact forall_mem_lowerCaseFrom ⟨by decide, by decide⟩ ⟨by decide, by decide⟩
      (fun _ _ => isLowered_of_mem_lowerChar) [] s.toList
  rw [lowerCase, lowerCaseFrom_of_isLowered hlowered, String.ofList_toList]

end Switchboard.Text
