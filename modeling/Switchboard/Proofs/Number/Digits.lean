import Mathlib.Algebra.Order.Field.Power
import Mathlib.Data.List.TakeWhile
import Switchboard.Json.Plain

/-!
# Runs of digits

A number that is written in base ten is a run of digits, and reading the run
gives the number (`digitsValue_natText`).  Zeros in front of a run count for
nothing, and zeros behind it are powers of ten (`digitsValue_append`).
-/

namespace Switchboard

/-- The digits of base ten stand together. -/
theorem toNat_range_of_isDigit {c : Char} (h : c.isDigit = true) :
    48 ≤ c.toNat ∧ c.toNat ≤ 57 := by
  simp only [Char.isDigit, Bool.and_eq_true, decide_eq_true_eq, ge_iff_le,
    UInt32.le_iff_toNat_le] at h
  exact h

theorem digitsValue_eq_ofDigitChars (ds : List Char) :
    digitsValue ds = Nat.ofDigitChars 10 ds 0 := by
  simp only [digitsValue, Nat.ofDigitChars_eq_foldl, Nat.mul_comm]

theorem digitsValue_append (ds es : List Char) :
    digitsValue (ds ++ es) = digitsValue ds * 10 ^ es.length + digitsValue es := by
  simp only [digitsValue_eq_ofDigitChars]
  rw [Nat.ofDigitChars_append, Nat.ofDigitChars_eq_ofDigitChars_zero, Nat.mul_comm]

theorem digitsValue_replicate_zero (n : ℕ) : digitsValue (List.replicate n '0') = 0 := by
  rw [digitsValue_eq_ofDigitChars, Nat.ofDigitChars_replicate_zero, Nat.mul_zero]

theorem digitsValue_singleton_lt {c : Char} (h : c.isDigit = true) : digitsValue [c] < 10 := by
  have hrange := toNat_range_of_isDigit h
  show 0 * 10 + (c.toNat - 48) < 10
  omega

theorem digitsValue_lt {ds : List Char} (h : ∀ c ∈ ds, c.isDigit = true) :
    digitsValue ds < 10 ^ ds.length := by
  induction ds with
  | nil => decide
  | cons c rest ih =>
      have hrest := ih fun d hd => h d (List.mem_cons_of_mem c hd)
      have hfirst := digitsValue_singleton_lt (h c List.mem_cons_self)
      have hsplit : digitsValue (c :: rest) =
          digitsValue [c] * 10 ^ rest.length + digitsValue rest := digitsValue_append [c] rest
      have hhigh : digitsValue [c] * 10 ^ rest.length ≤ 9 * 10 ^ rest.length :=
        Nat.mul_le_mul_right _ (by omega)
      rw [hsplit, List.length_cons, Nat.pow_succ]
      omega

/-- A number is the value of its digits. -/
theorem digitsValue_natText (n : ℕ) : digitsValue (natText n) = n := by
  rw [digitsValue_eq_ofDigitChars]
  exact Nat.ofDigitChars_ten_toDigits

theorem natText_ne_nil (n : ℕ) : natText n ≠ [] := Nat.toDigits_ne_nil

theorem isDigit_of_mem_natText {n : ℕ} {c : Char} (h : c ∈ natText n) : c.isDigit = true :=
  Nat.isDigit_of_mem_toDigits (by decide) (by decide) h

/-- The number of digits places a number between two powers of ten. -/
theorem decimalLength_bounds {n : ℕ} (h : n ≠ 0) :
    10 ^ (Double.decimalLength n - 1) ≤ n ∧ n < 10 ^ Double.decimalLength n := by
  have hpos : 0 < Double.decimalLength n := Nat.length_toDigits_pos
  have hle : ∀ k, 0 < k → (Double.decimalLength n ≤ k ↔ n < 10 ^ k) := fun k hk =>
    Nat.length_toDigits_le_iff (by decide) hk
  refine ⟨?_, (hle _ hpos).1 (Nat.le_refl _)⟩
  by_cases hone : Double.decimalLength n = 1
  · rw [hone]
    exact Nat.one_le_iff_ne_zero.2 h
  · by_contra hlt
    have := (hle (Double.decimalLength n - 1) (by omega)).2 (by omega)
    omega

/-! ## Runs at the start of a text -/

/-- The text starts with a digit. -/
def StartsWithDigit (cs : List Char) : Prop := ∃ c ∈ cs.head?, c.isDigit = true

/-- The text does not go on with a digit. -/
def EndsDigits (cs : List Char) : Prop := ∀ c ∈ cs.head?, c.isDigit = false

theorem endsDigits_cons {c : Char} (h : c.isDigit = false) (rest : List Char) :
    EndsDigits (c :: rest) := by
  simpa [EndsDigits] using h

theorem startsWithDigit_append {ds : List Char} (hne : ds ≠ [])
    (hds : ∀ c ∈ ds, c.isDigit = true) (rest : List Char) : StartsWithDigit (ds ++ rest) := by
  cases ds with
  | nil => contradiction
  | cons d ds => exact ⟨d, rfl, hds d (by simp)⟩

/-- A digit is no sign, no blank and no letter. -/
theorem isDigit_cases {c : Char} (h : c.isDigit = true) :
    c ≠ '+' ∧ c ≠ '-' ∧ c ≠ 'I' ∧ Text.isBlank c = false := by
  have hrange := toNat_range_of_isDigit h
  refine ⟨?_, ?_, ?_, ?_⟩
  · rintro rfl
    exact absurd h (by decide)
  · rintro rfl
    exact absurd h (by decide)
  · rintro rfl
    exact absurd h (by decide)
  · simp only [Text.isBlank, Bool.or_eq_false_iff, Bool.and_eq_false_iff, decide_eq_false_iff_not,
      beq_eq_false_iff_ne]
    omega

variable {ds rest : List Char}

theorem digitRun_append_of_digits (hds : ∀ c ∈ ds, c.isDigit = true) (rest : List Char) :
    digitRun (ds ++ rest) = ds ++ digitRun rest :=
  List.takeWhile_append_of_pos hds

theorem afterDigits_append_of_digits (hds : ∀ c ∈ ds, c.isDigit = true) (rest : List Char) :
    afterDigits (ds ++ rest) = afterDigits rest :=
  List.dropWhile_append_of_pos hds

theorem afterDigits_eq_self (h : EndsDigits rest) : afterDigits rest = rest := by
  cases rest with
  | nil => rfl
  | cons c rest => simp [afterDigits, h c (by simp)]

theorem digitRun_eq_nil (h : EndsDigits rest) : digitRun rest = [] := by
  cases rest with
  | nil => rfl
  | cons c rest => simp [digitRun, h c (by simp)]

theorem digitRun_append (hds : ∀ c ∈ ds, c.isDigit = true)
    (hrest : EndsDigits rest) : digitRun (ds ++ rest) = ds := by
  rw [digitRun_append_of_digits hds, digitRun_eq_nil hrest, List.append_nil]

theorem afterDigits_append (hds : ∀ c ∈ ds, c.isDigit = true)
    (hrest : EndsDigits rest) : afterDigits (ds ++ rest) = rest := by
  rw [afterDigits_append_of_digits hds, afterDigits_eq_self hrest]

/-! ## Zeros at the end -/

namespace Double

theorem exists_eq_dropEndZeros_append (ds : List Char) :
    ∃ k, ds = dropEndZeros ds ++ List.replicate k '0' := by
  refine ⟨(ds.reverse.takeWhile (· == '0')).length, ?_⟩
  have hzeros : ∀ c ∈ (ds.reverse.takeWhile (· == '0')).reverse, c = '0' := by
    intro c hc
    simpa using List.mem_takeWhile_imp (List.mem_reverse.1 hc)
  have hreplicate := List.eq_replicate_of_mem hzeros
  rw [List.length_reverse] at hreplicate
  rw [← hreplicate, dropEndZeros, ← List.reverse_append, List.takeWhile_append_dropWhile,
    List.reverse_reverse]

end Double

end Switchboard
