import Switchboard.Proofs.Number.Digits

/-!
# Place values

A digit counts as much as its place among the sixteen digits says, and a run of digits
denotes the sum of what its digits count, each of them as often as the powers of the
base behind it demand (`Base.placeValue`).  A reader that goes through the run from the
left and never looks ahead comes to the same number (`Base.value_eq_placeValue`).

A reader that has 64 bits for the number has to look after every digit whether it still
fits.  It gives up exactly where the number of the whole run does not fit
(`Base.word?_eq`), since no digit makes the number smaller.
-/

namespace Switchboard.Base

/-! ## Digits -/

/-- The digits in the order of their values, with small letters. -/
def smallDigits : List Char :=
  ['0', '1', '2', '3', '4', '5', '6', '7', '8', '9', 'a', 'b', 'c', 'd', 'e', 'f']

/-- The digits in the order of their values, with capital letters. -/
def capitalDigits : List Char :=
  ['0', '1', '2', '3', '4', '5', '6', '7', '8', '9', 'A', 'B', 'C', 'D', 'E', 'F']

/-- The place of a character among the sixteen digits; sixteen if it is none of them. -/
def place (c : Char) : Nat := min (smallDigits.idxOf c) (capitalDigits.idxOf c)

/-- The character is a digit of the base. -/
def HasDigit (b : Base) (c : Char) : Prop := place c < b.size

instance (b : Base) (c : Char) : Decidable (b.HasDigit c) := inferInstanceAs (Decidable (_ < _))

variable {b : Base} {c : Char} {ds : List Char}

theorem toNat_lt_of_isDigit (h : b.isDigit c = true) : c.toNat < 0x80 := by
  have hrange : c.isDigit = true ∨ c ≤ 'f' ∨ c ≤ 'F' := by
    cases b with
    | ten => exact .inl h
    | sixteen =>
        simp only [isDigit, Bool.or_eq_true, Bool.and_eq_true, decide_eq_true_eq] at h
        rcases h with (h | ⟨-, h⟩) | ⟨-, h⟩
        · exact .inl h
        · exact .inr (.inl h)
        · exact .inr (.inr h)
  rcases hrange with h | h | h
  · have := toNat_range_of_isDigit h
    omega
  · exact Nat.lt_of_le_of_lt (Char.le_def.1 h) (by decide)
  · exact Nat.lt_of_le_of_lt (Char.le_def.1 h) (by decide)

theorem toNat_lt_of_hasDigit (h : b.HasDigit c) : c.toNat < 0x80 := by
  have hsmall : ∀ d ∈ smallDigits ++ capitalDigits, d.toNat < 0x80 := by
    simp [smallDigits, capitalDigits]
  refine hsmall c (Classical.byContradiction fun hnot => ?_)
  rw [List.mem_append, not_or] at hnot
  have hplace : place c = 16 := by
    rw [place, List.idxOf_eq_length hnot.1, List.idxOf_eq_length hnot.2]
    rfl
  rw [HasDigit, hplace] at h
  cases b with
  | ten => exact absurd h (by decide)
  | sixteen => exact absurd h (by decide)

/-- Both tests for a digit agree on ASCII, and so do both values of a digit. -/
theorem isDigit_ofNat : ∀ n < 0x80, ∀ b ∈ [ten, sixteen],
    (b.isDigit (Char.ofNat n) = true ↔ b.HasDigit (Char.ofNat n)) ∧
      (b.HasDigit (Char.ofNat n) → digitValue (Char.ofNat n) = place (Char.ofNat n)) := by
  decide +kernel

theorem isDigit_of_ascii (b : Base) (h : c.toNat < 0x80) :
    (b.isDigit c = true ↔ b.HasDigit c) ∧ (b.HasDigit c → digitValue c = place c) := by
  have hagree := isDigit_ofNat c.toNat h b (by cases b <;> simp)
  rwa [Char.ofNat_toNat] at hagree

theorem isDigit_iff : b.isDigit c = true ↔ b.HasDigit c :=
  ⟨fun h => (isDigit_of_ascii b (toNat_lt_of_isDigit h)).1.1 h,
    fun h => (isDigit_of_ascii b (toNat_lt_of_hasDigit h)).1.2 h⟩

theorem digitValue_eq_place (h : b.HasDigit c) : digitValue c = place c :=
  (isDigit_of_ascii b (toNat_lt_of_hasDigit h)).2 h

/-! ## Runs of digits -/

/-- The number that a run of digits denotes: each digit counts the power of the base that has as
many factors as digits follow. -/
def placeValue (b : Base) : List Char → Nat
  | [] => 0
  | c :: rest => place c * Nat.pow b.size rest.length + b.placeValue rest

/-- One more digit at the end of a run. -/
def push (b : Base) (n : Nat) (c : Char) : Nat := n * b.size + digitValue c

theorem le_push (b : Base) (n : Nat) (c : Char) : n ≤ b.push n c := by
  have hsize : 1 ≤ b.size := by cases b <;> decide
  calc n = n * 1 := (Nat.mul_one n).symm
    _ ≤ n * b.size := Nat.mul_le_mul_left n hsize
    _ ≤ b.push n c := Nat.le_add_right _ _

theorem le_foldl_push (b : Base) (ds : List Char) (n : Nat) : n ≤ ds.foldl b.push n := by
  induction ds generalizing n with
  | nil => exact Nat.le_refl n
  | cons c ds ih => exact Nat.le_trans (b.le_push n c) (ih (b.push n c))

theorem foldl_push (h : ∀ c ∈ ds, b.HasDigit c) (n : Nat) :
    ds.foldl b.push n = n * Nat.pow b.size ds.length + b.placeValue ds := by
  induction ds generalizing n with
  | nil => exact (Nat.mul_one n).symm
  | cons c ds ih =>
      have hpower : Nat.pow b.size (c :: ds).length = b.size * Nat.pow b.size ds.length :=
        Nat.pow_succ'
      rw [List.foldl_cons, ih fun d hd => h d (List.mem_cons_of_mem c hd), push,
        digitValue_eq_place (h c List.mem_cons_self), placeValue, hpower, Nat.add_mul,
        Nat.mul_assoc, Nat.add_assoc]

/-- Reading a run from the left gives the sum of what its digits count. -/
theorem value_eq_placeValue (h : ∀ c ∈ ds, b.HasDigit c) : b.value ds = b.placeValue ds := by
  have hsum := foldl_push h 0
  rwa [Nat.zero_mul, Nat.zero_add] at hsum

/-! ## Runs of digits in 64 bits -/

/-- The number of a run, read from the left, if it fits 64 bits after every digit. -/
def word? (b : Base) (ds : List Char) : Option Nat :=
  ds.foldlM (fun n c => if b.push n c < Nat.pow 2 64 then some (b.push n c) else none) 0

/-- A number that does not fit any more will not fit again. -/
theorem word?_eq (b : Base) (ds : List Char) :
    b.word? ds = if b.value ds < Nat.pow 2 64 then some (b.value ds) else none := by
  have hfold : ∀ n < Nat.pow 2 64,
      ds.foldlM (fun n c => if b.push n c < Nat.pow 2 64 then some (b.push n c) else none) n =
        if ds.foldl b.push n < Nat.pow 2 64 then some (ds.foldl b.push n) else none := by
    induction ds with
    | nil =>
        intro n hn
        exact (if_pos hn).symm
    | cons c ds ih =>
        intro n _
        rw [List.foldlM_cons, List.foldl_cons]
        by_cases hfits : b.push n c < Nat.pow 2 64
        · rw [if_pos hfits]
          exact ih _ hfits
        · have hlarge := b.le_foldl_push ds (b.push n c)
          rw [if_neg hfits, if_neg (by omega)]
          rfl
  exact hfold 0 (by decide)

end Switchboard.Base
