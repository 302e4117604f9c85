import Switchboard.Proofs.Number.Nearest
import Switchboard.Proofs.Number.Shortest

/-!
# Every number has one rounding

The intervals of the doubles meet at the halfway points, and a halfway point belongs to
the one of the two that has the even mantissa.  So they cover the numbers up to half a
unit past the largest double, where infinity begins, and no number lies in two of them
(`Rounded.RoundsFrom.unique`).  What a fraction is rounded to is therefore told by the
interval that it lies in (`roundRatio_roundsFrom`), and so is what a decimal is rounded
to, also where it is decided by its size alone (`ofDecimal_eq_iff`).

Of all doubles the one of the interval is the nearest (`RoundsFrom.abs_sub_le`).
-/

namespace Switchboard

namespace Double

/-- The halfway point past the largest double. -/
def overflow : ℚ := (2 ^ (53 : ℤ) - 1 / 2) * 2 ^ (971 : ℤ)

end Double

/--
A magnitude rounds to the number, in front of which it has the given sign: it lies in the interval
of the double, or it has reached the halfway point past the largest one.
-/
def Rounded.RoundsFrom (r : Rounded) (negative : Bool) (q : ℚ) : Prop :=
  match r with
  | .finite x => x.negative = negative ∧ x.RoundsFrom q
  | .infinite sign => sign = negative ∧ Double.overflow ≤ q

namespace Double

variable {x y : Double} {q : ℚ}

/-! ## Intervals -/

theorem eq_zero_of_mantissa (h : x.mantissa = 0) : x = zero x.negative := by
  obtain ⟨negative, mantissa, exponent, hcanonical⟩ := x
  obtain rfl : mantissa = 0 := h
  obtain ⟨-, -, -, hleading | hleast⟩ := hcanonical
  · exact absurd hleading (by decide)
  · obtain rfl : exponent = -1074 := hleast
    rfl

/-- What rounds to zero is at most half of the least double. -/
theorem roundsFrom_zero_iff {negative : Bool} :
    (zero negative).RoundsFrom q ↔ 0 ≤ q ∧ q ≤ 1 / 2 * 2 ^ (-1074 : ℤ) := by
  have hunit : (2 : ℚ) ^ (-1074 : ℤ) = 4 * 2 ^ (-1074 - 2 : ℤ) := two_zpow_quarter (-1074)
  have hinterval : (zero negative).interval = ⟨0, 0, 2, true⟩ := rfl
  have hexponent : (zero negative).exponent = -1074 := rfl
  unfold RoundsFrom Interval.Contains
  rw [hinterval, hexponent, if_pos rfl, hunit]
  generalize (2 : ℚ) ^ (-1074 - 2 : ℤ) = unit
  refine and_congr ?_ ?_
  · simp
  · rw [show 1 / 2 * (4 * unit) = ((2 : ℕ) : ℚ) * unit by push_cast; ring]

/-- No number rounds to zero and to another double. -/
theorem RoundsFrom.half_lt (hx : x.mantissa ≠ 0) (h : x.RoundsFrom q) :
    1 / 2 * 2 ^ (-1074 : ℤ) < q := by
  obtain ⟨hlow, hodd, -⟩ := h.low hx
  have hleast : (2 : ℚ) ^ (-1074 : ℤ) ≤ 2 ^ x.exponent :=
    zpow_le_zpow_right₀ (by norm_num) x.canonical.2.1
  have hpos : (0 : ℚ) < 2 ^ (-1074 : ℤ) := by positivity
  by_cases hone : x.mantissa = 1
  · have hstrict := hodd (by rw [hone])
    rw [hone] at hstrict
    push_cast at hstrict
    linarith
  · have htwo : (2 : ℚ) ≤ x.mantissa := by exact_mod_cast (show 2 ≤ x.mantissa by omega)
    nlinarith

/-- No number rounds to a double and to infinity. -/
theorem RoundsFrom.lt_overflow (h : x.RoundsFrom q) : q < overflow := by
  obtain ⟨hhigh, hodd⟩ := h.high
  have hmantissa := x.canonical.1
  rw [Nat.pow_eq] at hmantissa
  have hpos : (0 : ℚ) < 2 ^ x.exponent := by positivity
  have htop : (2 : ℚ) ^ x.exponent ≤ 2 ^ (971 : ℤ) :=
    zpow_le_zpow_right₀ (by norm_num) x.canonical.2.2.1
  have hlast : q < (2 ^ (53 : ℤ) - 1 / 2) * 2 ^ x.exponent := by
    by_cases heq : x.mantissa = 2 ^ 53 - 1
    · have hcast : (x.mantissa : ℚ) + 1 / 2 = 2 ^ (53 : ℤ) - 1 / 2 := by
        rw [heq]
        norm_num
      rw [← hcast]
      exact hodd (by omega)
    · have hlt : (x.mantissa : ℚ) + 2 ≤ 2 ^ (53 : ℤ) := by
        exact_mod_cast (show x.mantissa + 2 ≤ 2 ^ 53 by omega)
      exact hhigh.trans_lt (mul_lt_mul_of_pos_right (by linarith) hpos)
  exact hlast.trans_le (mul_le_mul_of_nonneg_left htop (by norm_num))

theorem RoundsFrom.nonneg (h : x.RoundsFrom q) : 0 ≤ q := by
  by_cases hx : x.mantissa = 0
  · rw [eq_zero_of_mantissa hx, roundsFrom_zero_iff] at h
    exact h.1
  · exact (h.pos hx).le

theorem exists_fraction (hq : 0 ≤ q) : ∃ n d : ℕ, 0 < d ∧ (n : ℚ) / d = q := by
  refine ⟨q.num.toNat, q.den, q.den_pos, ?_⟩
  have hnum : ((q.num.toNat : ℕ) : ℤ) = q.num := Int.toNat_of_nonneg (Rat.num_nonneg.2 hq)
  have hcast : ((q.num.toNat : ℕ) : ℚ) = q.num := by exact_mod_cast hnum
  rw [hcast, Rat.num_div_den]

/-- Intervals of different doubles hold no number in common. -/
theorem RoundsFrom.unique (hx : x.RoundsFrom q) (hy : y.RoundsFrom q)
    (hsign : x.negative = y.negative) : x = y := by
  by_cases hx0 : x.mantissa = 0
  · rw [eq_zero_of_mantissa hx0, roundsFrom_zero_iff] at hx
    by_cases hy0 : y.mantissa = 0
    · rw [eq_zero_of_mantissa hx0, eq_zero_of_mantissa hy0, hsign]
    · exact absurd (hy.half_lt hy0) (not_lt.2 hx.2)
  by_cases hy0 : y.mantissa = 0
  · rw [eq_zero_of_mantissa hy0, roundsFrom_zero_iff] at hy
    exact absurd (hx.half_lt hx0) (not_lt.2 hy.2)
  · -- both are what the number, as a fraction, is rounded to
    obtain ⟨n, d, hd, rfl⟩ := exists_fraction hx.nonneg
    have hxround : roundRatio y.negative n d = .finite x := by
      rw [← hsign]
      exact roundRatio_of_roundsFrom hx0 hd hx x.negative
    have hyround : roundRatio y.negative n d = .finite y :=
      roundRatio_of_roundsFrom hy0 hd hy y.negative
    exact Rounded.finite.inj (hxround.symm.trans hyround)

end Double

/-- A number has only one rounding. -/
theorem Rounded.RoundsFrom.unique {r s : Rounded} {negative : Bool} {q : ℚ}
    (hr : r.RoundsFrom negative q) (hs : s.RoundsFrom negative q) : r = s := by
  cases r with
  | finite x =>
      cases s with
      | finite y => rw [Double.RoundsFrom.unique hr.2 hs.2 (hr.1.trans hs.1.symm)]
      | infinite => exact absurd hr.2.lt_overflow (not_lt.2 hs.2)
  | infinite =>
      cases s with
      | finite y => exact absurd hs.2.lt_overflow (not_lt.2 hr.2)
      | infinite => rw [hr.1, hs.1]

/-! ## What a fraction is rounded to -/

namespace Double

variable {n d : ℕ}

/-- Parts in the range of the format make the double of the interval, and larger ones infinity. -/
theorem ofParts_roundsFrom {m : ℕ} {e : ℤ} (hm : m < 2 ^ 53)
    (hleading : -1074 ≤ e ∧ (2 ^ 52 ≤ m ∨ e = -1074)) (hq : 0 ≤ q)
    (hlow : ((m : ℚ) - (if m = 2 ^ 52 ∧ e ≠ -1074 then 1 / 4 else 1 / 2)) * 2 ^ e ≤ q)
    (hhigh : q ≤ (m + 1 / 2) * 2 ^ e)
    (hodd : m % 2 = 1 → ((m : ℚ) - 1 / 2) * 2 ^ e < q ∧ q < (m + 1 / 2) * 2 ^ e)
    (negative : Bool) : (ofParts negative m e).RoundsFrom negative q := by
  obtain ⟨hleast, hlead⟩ := hleading
  by_cases hmost : e ≤ 971
  · have hcanonical : IsCanonical m e := ⟨hm, hleast, hmost, hlead⟩
    rw [ofParts, dif_pos hcanonical]
    refine ⟨rfl, ?_⟩
    by_cases hzero : m = 0
    · obtain rfl : e = -1074 := hlead.resolve_left (by omega)
      subst hzero
      refine roundsFrom_zero_iff.2 ⟨hq, ?_⟩
      simpa using hhigh
    · exact roundsFrom_of_le hzero hlow hhigh hodd
  · have hcanonical : ¬ IsCanonical m e := fun h => hmost h.2.2.1
    rw [ofParts, dif_neg hcanonical]
    refine ⟨rfl, ?_⟩
    have hpow : (2 : ℚ) ^ (971 : ℤ) * 2 ≤ 2 ^ e := by
      rw [← zpow_add_one₀ (by norm_num)]
      exact zpow_le_zpow_right₀ (by norm_num) (by omega)
    have hpos : (0 : ℚ) < 2 ^ e := by positivity
    have hmq : (2 : ℚ) ^ (52 : ℤ) - 1 / 4 ≤
        m - (if m = 2 ^ 52 ∧ e ≠ -1074 then 1 / 4 else 1 / 2) := by
      by_cases hnarrow : m = 2 ^ 52
      · rw [if_pos ⟨hnarrow, by omega⟩, hnarrow]
        norm_num
      · have hmq : (2 : ℚ) ^ (52 : ℤ) + 1 ≤ m := by
          exact_mod_cast (show 2 ^ 52 + 1 ≤ m by omega)
        rw [if_neg (fun h => hnarrow h.1)]
        linarith
    calc overflow = (2 ^ (52 : ℤ) - 1 / 4) * (2 ^ (971 : ℤ) * 2) := by
          unfold overflow
          rw [show (53 : ℤ) = 52 + 1 by norm_num, zpow_add_one₀ (by norm_num)]
          ring
      _ ≤ (2 ^ (52 : ℤ) - 1 / 4) * 2 ^ e := mul_le_mul_of_nonneg_left hpow (by norm_num)
      _ ≤ (m - (if m = 2 ^ 52 ∧ e ≠ -1074 then 1 / 4 else 1 / 2)) * 2 ^ e :=
          mul_le_mul_of_nonneg_right hmq hpos.le
      _ ≤ q := hlow

theorem roundRatio_roundsFrom (hd : 0 < d) (negative : Bool) :
    (roundRatio negative n d).RoundsFrom negative (n / d) := by
  by_cases hn : n = 0
  · rw [roundRatio, if_pos hn, hn, Nat.cast_zero, zero_div]
    exact ⟨rfl, roundsFrom_zero_iff.2 ⟨le_rfl, by positivity⟩⟩
  have hq : (0 : ℚ) ≤ n / d := by positivity
  have hunit : (0 : ℚ) < 2 ^ exponentOf n d := by positivity
  obtain ⟨hleast, hhigh, hreached⟩ := exponentOf_bounds hn hd
  obtain ⟨⟨hlow, hup⟩, hodd⟩ := unitsOf_bounds (n := n) hd
  have htop := unitsOf_le hn hd
  rw [roundRatio_eq_unitsOf hn]
  by_cases hcarry : unitsOf n d = 2 ^ 53
  · -- the power of two itself, in units of the next exponent
    have hnext : (2 : ℚ) ^ (exponentOf n d + 1) = 2 ^ exponentOf n d * 2 :=
      zpow_add_one₀ (by norm_num) _
    rw [if_pos (by rw [hcarry, Nat.pow_eq])]
    refine ofParts_roundsFrom (by decide) ⟨by omega, .inl le_rfl⟩ hq ?_ ?_ ?_ negative
    · rw [if_pos ⟨rfl, by omega⟩, hnext]
      rw [hcarry] at hlow
      push_cast at hlow ⊢
      linarith
    · rw [zpow_add₀ (by norm_num)] at hhigh
      rw [hnext]
      push_cast
      norm_num at hhigh ⊢
      linarith
    · intro hpar
      exact absurd hpar (by decide)
  · rw [if_neg (by rwa [Nat.pow_eq])]
    refine ofParts_roundsFrom (by omega) ⟨hleast, ?_⟩ hq ?_ hup hodd negative
    · exact hreached.symm.imp_left (le_unitsOf hd)
    · split
      · rename_i hnarrow
        have hpower := hreached.resolve_left hnarrow.2
        rw [add_comm, zpow_add₀ (by norm_num)] at hpower
        rw [hnarrow.1]
        push_cast
        linarith
      · exact hlow

/-- No double is nearer to a number than the one whose interval it lies in. -/
theorem RoundsFrom.abs_sub_le {x : Double} {q : ℚ} (h : x.RoundsFrom q) (y : Double) :
    |x.abs - q| ≤ |y.abs - q| := by
  obtain ⟨n, d, hd, rfl⟩ := exists_fraction h.nonneg
  have hround : roundRatio x.negative n d = .finite x :=
    (roundRatio_roundsFrom hd x.negative).unique (s := .finite x) ⟨rfl, h⟩
  exact abs_sub_le_of_roundRatio hd hround y

/-- Every fraction below `2 ^ 1023` is rounded to a double. -/
theorem exists_roundRatio (hd : 0 < d) (h : (n : ℚ) / d < 2 ^ (1023 : ℤ)) (negative : Bool) :
    ∃ x, roundRatio negative n d = .finite x := by
  have hround := roundRatio_roundsFrom (n := n) hd negative
  cases hr : roundRatio negative n d with
  | finite x => exact ⟨x, rfl⟩
  | infinite sign =>
      rw [hr] at hround
      have hbelow : (2 : ℚ) ^ (1023 : ℤ) ≤ overflow := by
        rw [overflow, show (1023 : ℤ) = 52 + 971 by norm_num, zpow_add₀ (by norm_num)]
        exact mul_le_mul_of_nonneg_right (by norm_num) (by positivity)
      exact absurd (hround.2.trans_lt h) (not_lt.2 hbelow)

/-! ## What a decimal is rounded to -/

variable {digits : ℕ} {negative : Bool} {r : Rounded}

/-- The number of its digits and the power of ten place a decimal between two powers of ten. -/
theorem decimal_bounds (h : digits ≠ 0) (scale : ℤ) :
    (10 : ℚ) ^ ((decimalLength digits : ℤ) + scale - 1) ≤ digits * 10 ^ scale ∧
      (digits : ℚ) * 10 ^ scale < 10 ^ ((decimalLength digits : ℤ) + scale) := by
  obtain ⟨hleast, hmost⟩ := decimalLength_bounds h
  have hlength : 0 < decimalLength digits := Nat.length_toDigits_pos
  have hscale : (0 : ℚ) < 10 ^ scale := by positivity
  constructor
  · calc (10 : ℚ) ^ ((decimalLength digits : ℤ) + scale - 1)
        = ((10 ^ (decimalLength digits - 1) : ℕ) : ℚ) * 10 ^ scale := by
          rw [Nat.cast_pow, ← zpow_natCast, Nat.cast_ofNat, ← zpow_add₀ (by norm_num)]
          congr 1
          omega
      _ ≤ digits * 10 ^ scale := by gcongr
  · calc (digits : ℚ) * 10 ^ scale
        < ((10 ^ decimalLength digits : ℕ) : ℚ) * 10 ^ scale := by gcongr
      _ = 10 ^ ((decimalLength digits : ℤ) + scale) := by
          rw [Nat.cast_pow, ← zpow_natCast, Nat.cast_ofNat, ← zpow_add₀ (by norm_num)]

theorem ofDecimal_roundsFrom (negative : Bool) (digits : ℕ) (scale : ℤ) :
    (ofDecimal negative digits scale).RoundsFrom negative (digits * 10 ^ scale) := by
  have hten : (1 : ℚ) ≤ 10 := by norm_num
  unfold ofDecimal
  dsimp only
  by_cases hdigits : digits = 0
  · rw [if_pos hdigits, hdigits, Nat.cast_zero, zero_mul]
    exact ⟨rfl, roundsFrom_zero_iff.2 ⟨le_rfl, by positivity⟩⟩
  rw [if_neg hdigits]
  obtain ⟨hlow, hhigh⟩ := decimal_bounds hdigits scale
  by_cases hlarge : 311 < (decimalLength digits : ℤ) + scale
  · rw [if_pos hlarge]
    refine ⟨rfl, ?_⟩
    calc overflow ≤ 2 ^ (53 : ℤ) * 2 ^ (971 : ℤ) := by
          unfold overflow
          gcongr
          norm_num
      _ ≤ 10 ^ (309 : ℤ) := two_zpow_range.2
      _ ≤ 10 ^ ((decimalLength digits : ℤ) + scale - 1) :=
          zpow_le_zpow_right₀ hten (by omega)
      _ ≤ digits * 10 ^ scale := hlow
  rw [if_neg hlarge]
  by_cases hsmall : (decimalLength digits : ℤ) + scale < -330
  · rw [if_pos hsmall]
    refine ⟨rfl, roundsFrom_zero_iff.2 ⟨by positivity, ?_⟩⟩
    calc (digits : ℚ) * 10 ^ scale ≤ 10 ^ ((decimalLength digits : ℤ) + scale) := hhigh.le
      _ ≤ 10 ^ (-325 : ℤ) := zpow_le_zpow_right₀ hten (by omega)
      _ ≤ 1 / 2 * 2 ^ (-1074 : ℤ) := two_zpow_range.1
  rw [if_neg hsmall]
  split
  · rename_i hnonneg
    obtain ⟨s, rfl⟩ := Int.eq_ofNat_of_zero_le hnonneg
    simpa [Nat.pow_eq] using roundRatio_roundsFrom (n := digits * Nat.pow 10 s) Nat.one_pos negative
  · rename_i hneg
    obtain ⟨s, hs⟩ := Int.eq_ofNat_of_zero_le (show 0 ≤ -scale by omega)
    obtain rfl : scale = -(s : ℤ) := by omega
    simpa [Nat.pow_eq, div_eq_mul_inv] using
      roundRatio_roundsFrom (n := digits) (d := Nat.pow 10 s) (Nat.pow_pos (by decide)) negative

/--
**Reading a decimal is one rounding**: a decimal becomes the double whose interval its value lies
in, whatever its length and its power of ten.
-/
theorem ofDecimal_eq_iff {scale : ℤ} :
    ofDecimal negative digits scale = r ↔ r.RoundsFrom negative (digits * 10 ^ scale) := by
  constructor
  · rintro rfl
    exact ofDecimal_roundsFrom negative digits scale
  · intro h
    exact (ofDecimal_roundsFrom negative digits scale).unique h

end Double

/-! ## What a natural number is rounded to -/

theorem Double.roundRatio_natural_eq_iff {negative : Bool} {n : ℕ} {r : Rounded} :
    roundRatio negative n 1 = r ↔ r.RoundsFrom negative n := by
  have hround : (roundRatio negative n 1).RoundsFrom negative n := by
    simpa using roundRatio_roundsFrom (n := n) Nat.one_pos negative
  constructor
  · rintro rfl
    exact hround
  · exact fun h => hround.unique h

/-- The sign goes along with the rounding. -/
theorem Rounded.RoundsFrom.neg {r : Rounded} {negative : Bool} {q : ℚ}
    (h : r.RoundsFrom negative q) : r.neg.RoundsFrom (!negative) q := by
  cases r with
  | finite x =>
      obtain ⟨rfl, hrounds⟩ := h
      exact ⟨rfl, hrounds⟩
  | infinite sign =>
      obtain ⟨rfl, hlarge⟩ := h
      exact ⟨rfl, hlarge⟩

theorem Double.roundRatio_signed (negative : Bool) (n : ℕ) :
    (if negative then (roundRatio false n 1).neg else roundRatio false n 1) =
      roundRatio negative n 1 := by
  cases negative with
  | false => rfl
  | true =>
      have hround := roundRatio_natural_eq_iff.1 (rfl : roundRatio false n 1 = _)
      exact (roundRatio_natural_eq_iff.2 hround.neg).symm

/-- A numeral without a point and an exponent is rounded as the integer that it is. -/
theorem Double.ofDecimal_natural (negative : Bool) (n : ℕ) :
    ofDecimal negative n 0 = roundRatio negative n 1 := by
  refine ofDecimal_eq_iff.2 ?_
  simpa using roundRatio_natural_eq_iff.1 (rfl : roundRatio negative n 1 = _)

/-! ## What a numeral denotes -/

namespace Literal

/-- The power of ten in a numeral. -/
def power (l : Literal) : ℤ := match l.exponent with | some e => e.value | none => 0

/-- The number that a numeral stands for, without its sign. -/
def magnitude (l : Literal) : ℚ :=
  digitsValue (l.whole ++ l.fraction.getD []) * 10 ^ (l.power - (l.fraction.getD []).length)

/-- The value of a numeral is the one rounding of the number that it stands for. -/
theorem value_eq_iff {l : Literal} {r : Rounded} :
    l.value = r ↔ r.RoundsFrom l.sign.isMinus l.magnitude :=
  Double.ofDecimal_eq_iff

end Literal

end Switchboard
