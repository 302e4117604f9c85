import Switchboard.Proofs.Number.Rounding

/-!
# Rounding takes the nearest double

No double is nearer to a fraction than the one it is rounded to
(`abs_sub_le_of_roundRatio`).

The doubles whose exponent is at least that of the fraction are whole numbers of its
unit, and `roundDiv` takes the nearest of these.  The others lie below the power of
two that the fraction has reached, which is a whole number of units itself, so none of
them comes nearer.
-/

namespace Switchboard.Double

/-- The number with its sign. -/
def toRat (x : Double) : ℚ := if x.negative then -x.abs else x.abs

/-- No double is nearer to the number. -/
def IsNearest (x : Double) (q : ℚ) : Prop := ∀ y : Double, |x.toRat - q| ≤ |y.toRat - q|

/-! ## Units -/

/-- A rounded quotient is off by half of the divisor at most, and by less if it is odd: a tie goes to
an even number. -/
theorem roundDiv_bounds {a b : ℕ} (hb : 0 < b) :
    (2 * (roundDiv a b * b) ≤ 2 * a + b ∧ 2 * a ≤ 2 * (roundDiv a b * b) + b) ∧
      (roundDiv a b % 2 = 1 →
        2 * (roundDiv a b * b) < 2 * a + b ∧ 2 * a < 2 * (roundDiv a b * b) + b) := by
  have hdiv : b * (a / b) + a % b = a := Nat.div_add_mod a b
  have hmod : a % b < b := Nat.mod_lt a hb
  have hnext : (a / b + 1) * b = b * (a / b) + b := by rw [Nat.add_mul, Nat.mul_comm, Nat.one_mul]
  have hthis : a / b * b = b * (a / b) := Nat.mul_comm _ _
  unfold roundDiv
  dsimp only
  split
  · omega
  · split
    · omega
    · rcases Nat.mod_two_eq_zero_or_one (a / b) with heven | hodd
      · rw [heven, Nat.add_zero]
        omega
      · rw [hodd]
        omega

theorem abs_roundDiv_sub_le_half {a b : ℕ} (hb : 0 < b) :
    |(roundDiv a b : ℚ) - a / b| ≤ 1 / 2 := by
  have hbq : (0 : ℚ) < b := by exact_mod_cast hb
  obtain ⟨⟨hlow, hhigh⟩, -⟩ := roundDiv_bounds (a := a) hb
  have hlow' : 2 * ((roundDiv a b : ℚ) * b) ≤ 2 * a + b := by exact_mod_cast hlow
  have hhigh' : 2 * (a : ℚ) ≤ 2 * (roundDiv a b * b) + b := by exact_mod_cast hhigh
  rw [abs_sub_le_iff]
  constructor
  · rw [sub_le_iff_le_add, ← sub_le_iff_le_add', le_div_iff₀ hbq]
    linarith
  · rw [sub_le_iff_le_add, div_le_iff₀ hbq]
    linarith

/-- An odd quotient is nearer than half. -/
theorem abs_roundDiv_sub_lt_half {a b : ℕ} (hb : 0 < b) (hodd : roundDiv a b % 2 = 1) :
    |(roundDiv a b : ℚ) - a / b| < 1 / 2 := by
  have hbq : (0 : ℚ) < b := by exact_mod_cast hb
  obtain ⟨hlow, hhigh⟩ := (roundDiv_bounds hb).2 hodd
  have hlow' : 2 * ((roundDiv a b : ℚ) * b) < 2 * a + b := by exact_mod_cast hlow
  have hhigh' : 2 * (a : ℚ) < 2 * (roundDiv a b * b) + b := by exact_mod_cast hhigh
  rw [abs_sub_lt_iff]
  constructor
  · rw [sub_lt_iff_lt_add, ← sub_lt_iff_lt_add', lt_div_iff₀ hbq]
    linarith
  · rw [sub_lt_iff_lt_add, div_lt_iff₀ hbq]
    linarith

/-- What is at most half a unit away is the nearest whole number of units. -/
theorem abs_sub_le_of_half {m : ℕ} {q : ℚ} (h : |(m : ℚ) - q| ≤ 1 / 2) (k : ℕ) :
    |(m : ℚ) - q| ≤ |(k : ℚ) - q| := by
  by_cases hk : k = m
  · rw [hk]
  · have hone : (1 : ℚ) ≤ |(k : ℚ) - m| := by
      have hdist : (1 : ℤ) ≤ |(k : ℤ) - m| := Int.one_le_abs (by omega)
      exact_mod_cast hdist
    have htriangle : |(k : ℚ) - m| ≤ |(k : ℚ) - q| + |(m : ℚ) - q| := by
      rw [abs_sub_comm (m : ℚ) q]
      exact abs_sub_le _ _ _
    linarith

/-- A double of at least the exponent is a whole number of units. -/
theorem exists_abs_eq_mul {y : Double} {e : ℤ} (h : e ≤ y.exponent) :
    ∃ k : ℕ, y.abs = k * 2 ^ e := by
  obtain ⟨j, hj⟩ := Int.eq_ofNat_of_zero_le (show 0 ≤ y.exponent - e by omega)
  refine ⟨y.mantissa * 2 ^ j, ?_⟩
  have hexp : y.exponent = j + e := by omega
  rw [abs, hexp, zpow_add₀ (by norm_num), zpow_natCast]
  push_cast
  ring

/-- A double of a smaller exponent lies below the least one that needs the exponent. -/
theorem abs_lt_of_exponent_lt {y : Double} {e : ℤ} (h : y.exponent < e) :
    y.abs < 2 ^ (e + 52) := by
  have hmantissa : (y.mantissa : ℚ) < 2 ^ (53 : ℤ) := by exact_mod_cast y.canonical.1
  calc y.abs < 2 ^ (53 : ℤ) * 2 ^ y.exponent := by
        unfold abs
        gcongr
    _ ≤ 2 ^ (53 : ℤ) * 2 ^ (e - 1) := by
        gcongr
        · norm_num
        · omega
    _ = 2 ^ (e + 52) := by
        rw [← zpow_add₀ (by norm_num)]
        congr 1
        ring

/-! ## The rounded fraction -/

variable {n d : ℕ}

/-- The unit of a fraction. -/
theorem exponentOf_bounds (hn : n ≠ 0) (hd : 0 < d) :
    -1074 ≤ exponentOf n d ∧ (n : ℚ) / d < 2 ^ (exponentOf n d + 53) ∧
      (exponentOf n d = -1074 ∨ (2 : ℚ) ^ (exponentOf n d + 52) ≤ n / d) := by
  have hpos : (0 : ℚ) < (n : ℚ) / d := by
    have hnq : (0 : ℚ) < n := by exact_mod_cast Nat.pos_of_ne_zero hn
    have hdq : (0 : ℚ) < d := by exact_mod_cast hd
    positivity
  have hlog := Int.zpow_log_le_self (b := 2) (by norm_num) hpos
  have hnext := Int.lt_zpow_succ_log_self (b := 2) (by norm_num) ((n : ℚ) / d)
  have heq := exponentOf_eq hd hlog hnext
  refine ⟨by omega, ?_, ?_⟩
  · refine hnext.trans_le (zpow_le_zpow_right₀ (by norm_num) ?_)
    omega
  · by_cases hleast : exponentOf n d = -1074
    · exact .inl hleast
    · refine .inr ((zpow_le_zpow_right₀ (by norm_num) ?_).trans hlog)
      omega

/-- The mantissa of a fraction, before a carry. -/
def unitsOf (n d : ℕ) : ℕ :=
  roundDiv (inUnits n d (exponentOf n d)).1 (inUnits n d (exponentOf n d)).2

theorem abs_unitsOf_sub_le_half (hd : 0 < d) :
    |(unitsOf n d : ℚ) - n / d / 2 ^ exponentOf n d| ≤ 1 / 2 := by
  rw [← inUnits_eq]
  exact abs_roundDiv_sub_le_half (inUnits_pos hd _)

/-- The fraction is at most half a unit away from its number of units, and less if that is odd. -/
theorem unitsOf_bounds (hd : 0 < d) :
    (((unitsOf n d : ℚ) - 1 / 2) * 2 ^ exponentOf n d ≤ n / d ∧
        (n : ℚ) / d ≤ (unitsOf n d + 1 / 2) * 2 ^ exponentOf n d) ∧
      (unitsOf n d % 2 = 1 → ((unitsOf n d : ℚ) - 1 / 2) * 2 ^ exponentOf n d < n / d ∧
        (n : ℚ) / d < (unitsOf n d + 1 / 2) * 2 ^ exponentOf n d) := by
  have hunit : (0 : ℚ) < 2 ^ exponentOf n d := by positivity
  have hpos := inUnits_pos (n := n) hd (exponentOf n d)
  refine ⟨?_, fun hodd => ?_⟩
  · obtain ⟨hunder, hover⟩ := abs_sub_le_iff.1 (abs_roundDiv_sub_le_half hpos)
    rw [inUnits_eq] at hunder hover
    rw [← le_div_iff₀ hunit, ← div_le_iff₀ hunit, unitsOf]
    constructor <;> linarith
  · obtain ⟨hunder, hover⟩ := abs_sub_lt_iff.1 (abs_roundDiv_sub_lt_half hpos hodd)
    rw [inUnits_eq] at hunder hover
    rw [← lt_div_iff₀ hunit, ← div_lt_iff₀ hunit, unitsOf]
    constructor <;> linarith

/-- A fraction below the next power of two carries no further than to it. -/
theorem unitsOf_le (hn : n ≠ 0) (hd : 0 < d) : unitsOf n d ≤ 2 ^ 53 := by
  obtain ⟨-, hhigh, -⟩ := exponentOf_bounds hn hd
  obtain ⟨⟨hlow, -⟩, -⟩ := unitsOf_bounds (n := n) hd
  have hunit : (0 : ℚ) < 2 ^ exponentOf n d := by positivity
  have hlt : ((unitsOf n d : ℚ) - 1 / 2) * 2 ^ exponentOf n d <
      2 ^ (53 : ℤ) * 2 ^ exponentOf n d := by
    rw [← zpow_add₀ (by norm_num), add_comm]
    exact hlow.trans_lt hhigh
  have hunits := lt_of_mul_lt_mul_right hlt hunit.le
  have hcast : (unitsOf n d : ℚ) < 2 ^ (53 : ℤ) + 1 := by linarith
  have : unitsOf n d < 2 ^ 53 + 1 := by exact_mod_cast hcast
  omega

/-- A fraction that has reached the power of two of its exponent has 53 digits. -/
theorem le_unitsOf (hd : 0 < d) (h : (2 : ℚ) ^ (exponentOf n d + 52) ≤ n / d) :
    2 ^ 52 ≤ unitsOf n d := by
  obtain ⟨⟨-, hhigh⟩, -⟩ := unitsOf_bounds (n := n) hd
  have hunit : (0 : ℚ) < 2 ^ exponentOf n d := by positivity
  have hle : (2 : ℚ) ^ (52 : ℤ) * 2 ^ exponentOf n d ≤
      (unitsOf n d + 1 / 2) * 2 ^ exponentOf n d := by
    rw [← zpow_add₀ (by norm_num), add_comm]
    exact h.trans hhigh
  have hunits := le_of_mul_le_mul_right hle hunit
  have hcast : (2 : ℚ) ^ (52 : ℤ) < unitsOf n d + 1 := by linarith
  have : 2 ^ 52 < unitsOf n d + 1 := by exact_mod_cast hcast
  omega

theorem roundRatio_eq_unitsOf (hn : n ≠ 0) (negative : Bool) :
    roundRatio negative n d =
      if unitsOf n d = Nat.pow 2 53 then ofParts negative (Nat.pow 2 52) (exponentOf n d + 1)
      else ofParts negative (unitsOf n d) (exponentOf n d) :=
  roundRatio_eq hn rfl rfl negative

private theorem eq_of_ofParts {negative : Bool} {m : ℕ} {e : ℤ} {x : Double}
    (h : ofParts negative m e = .finite x) : x.negative = negative ∧ x.abs = m * 2 ^ e := by
  unfold ofParts at h
  split at h
  · obtain rfl := Rounded.finite.inj h
    exact ⟨rfl, rfl⟩
  · simp at h

variable {negative : Bool} {x : Double}

/-- A carry does not change the number. -/
theorem abs_of_roundRatio (hn : n ≠ 0) (h : roundRatio negative n d = .finite x) :
    x.abs = unitsOf n d * 2 ^ exponentOf n d := by
  rw [roundRatio_eq_unitsOf hn] at h
  split at h
  · rename_i hcarry
    rw [(eq_of_ofParts h).2, hcarry, zpow_add_one₀ (by norm_num)]
    norm_num
    ring
  · exact (eq_of_ofParts h).2

theorem negative_of_roundRatio (h : roundRatio negative n d = .finite x) :
    x.negative = negative := by
  by_cases hn : n = 0
  · rw [roundRatio, if_pos hn] at h
    obtain rfl := Rounded.finite.inj h
    rfl
  · rw [roundRatio_eq_unitsOf hn] at h
    split at h
    · exact (eq_of_ofParts h).1
    · exact (eq_of_ofParts h).1

/-- No magnitude of a double is nearer to a fraction than the one it is rounded to. -/
theorem abs_sub_le_of_roundRatio (hd : 0 < d) (h : roundRatio negative n d = .finite x)
    (y : Double) : |x.abs - n / d| ≤ |y.abs - n / d| := by
  by_cases hn : n = 0
  · rw [roundRatio, if_pos hn] at h
    obtain rfl := Rounded.finite.inj h
    have hzero : (zero negative).abs = 0 := by simp [zero, abs]
    rw [hzero, hn, Nat.cast_zero, zero_div, sub_zero, abs_zero]
    positivity
  · have hunit : (0 : ℚ) < 2 ^ exponentOf n d := by positivity
    -- a whole number of units is as far away as its quotient by the unit
    have hscale : ∀ k : ℕ, |(k : ℚ) * 2 ^ exponentOf n d - n / d| =
        |(k : ℚ) - n / d / 2 ^ exponentOf n d| * 2 ^ exponentOf n d := by
      intro k
      rw [← abs_of_pos hunit, ← abs_mul, abs_of_pos hunit, sub_mul, div_mul_cancel₀ _ hunit.ne']
    have hgrid : ∀ k : ℕ, |x.abs - n / d| ≤ |(k : ℚ) * 2 ^ exponentOf n d - n / d| := by
      intro k
      rw [abs_of_roundRatio hn h, hscale, hscale]
      exact mul_le_mul_of_nonneg_right (abs_sub_le_of_half (abs_unitsOf_sub_le_half hd) k) hunit.le
    by_cases hexp : exponentOf n d ≤ y.exponent
    · obtain ⟨k, hk⟩ := exists_abs_eq_mul hexp
      rw [hk]
      exact hgrid k
    · have hbelow := abs_lt_of_exponent_lt (y := y) (not_le.1 hexp)
      obtain ⟨-, -, hleast | hreached⟩ := exponentOf_bounds hn hd
      · have := y.canonical.2.1
        omega
      · have hpow : ((2 ^ 52 : ℕ) : ℚ) * 2 ^ exponentOf n d = 2 ^ (exponentOf n d + 52) := by
          rw [zpow_add₀ (by norm_num), mul_comm]
          norm_num
        have hpower := hgrid (2 ^ 52)
        rw [hpow, abs_sub_comm ((2 : ℚ) ^ _), abs_of_nonneg (sub_nonneg.2 hreached)] at hpower
        calc |x.abs - n / d| ≤ n / d - 2 ^ (exponentOf n d + 52) := hpower
          _ ≤ n / d - y.abs := by linarith
          _ ≤ |y.abs - n / d| := by
            rw [abs_sub_comm]
            exact le_abs_self _

/-! ## Integers -/

theorem abs_toRat_sub_of_sign_eq {k : ℤ} (h : x.negative = decide (k < 0)) :
    |x.toRat - k| = |x.abs - (k.natAbs : ℚ)| := by
  rw [toRat, h, Nat.cast_natAbs]
  by_cases hk : k < 0
  · have hneg : -x.abs - (k : ℚ) = -(x.abs - -k) := by ring
    rw [if_pos (by simpa using hk), abs_of_neg hk, Int.cast_neg, hneg, abs_neg]
  · rw [if_neg (by simpa using hk), abs_of_nonneg (not_lt.1 hk)]

/-- On the other side of zero nothing is nearer to an integer than zero is. -/
theorem natAbs_le_abs_toRat_sub_of_sign_ne {k : ℤ} (h : x.negative ≠ decide (k < 0)) :
    (k.natAbs : ℚ) ≤ |x.toRat - k| := by
  have habs : 0 ≤ x.abs := by
    unfold abs
    positivity
  rw [toRat, Nat.cast_natAbs]
  by_cases hk : k < 0
  · have hsign : x.negative = false := by simpa [hk] using h
    have hneg : (k : ℚ) < 0 := by exact_mod_cast hk
    rw [hsign, if_neg Bool.false_ne_true, abs_of_neg hk, abs_of_pos (by linarith)]
    push_cast
    linarith
  · have hsign : x.negative = true := by simpa [hk] using h
    have hnonneg : (0 : ℚ) ≤ k := by exact_mod_cast not_lt.1 hk
    rw [hsign, if_pos rfl, abs_of_nonneg (not_lt.1 hk), abs_of_nonpos (by linarith)]
    linarith

/--
**Nearest double**: no double of either sign is nearer to an integer than the one it is rounded to.
-/
theorem isNearest_of_ofInt {k : ℤ} (h : ofInt k = .finite x) : x.IsNearest k := by
  have hround : ∀ y : Double, |x.abs - (k.natAbs : ℚ)| ≤ |y.abs - k.natAbs| := by
    intro y
    simpa using abs_sub_le_of_roundRatio Nat.one_pos h y
  intro y
  rw [abs_toRat_sub_of_sign_eq (negative_of_roundRatio h)]
  by_cases hsign : y.negative = decide (k < 0)
  · rw [abs_toRat_sub_of_sign_eq hsign]
    exact hround y
  · calc |x.abs - (k.natAbs : ℚ)| ≤ |(zero false).abs - k.natAbs| := hround (zero false)
      _ = k.natAbs := by simp [zero, abs]
      _ ≤ |y.toRat - k| := natAbs_le_abs_toRat_sub_of_sign_ne hsign

end Switchboard.Double
