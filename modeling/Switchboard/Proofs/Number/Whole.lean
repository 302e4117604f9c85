import Mathlib.Algebra.Order.Floor.Semifield
import Switchboard.Json.Plain
import Switchboard.Proofs.Number.Rounding

/-!
# Whole numbers

The double nearest to a natural number is whole.  Below `2 ^ 53` it is the number
itself, so that the number comes back as the integer it was; from there on it is
at least `2 ^ 53` and comes back as a double (`ofRounded_roundRatio_of_lt`,
`ofRounded_roundRatio_of_le`).
-/

namespace Switchboard

namespace Double

variable {x : Double}

theorem wholePart_eq_floor (x : Double) : x.wholePart = ⌊x.abs⌋₊ := by
  rw [← ratio_eq, Nat.floor_div_eq_div]
  rfl

theorem isWhole_iff : x.isWhole = true ↔ x.abs = x.wholePart := by
  have hpos : (x.ratio.2 : ℚ) ≠ 0 := by exact_mod_cast x.ratio_pos.ne'
  have hwhole : x.isWhole = true ↔ x.ratio.1 % x.ratio.2 = 0 := by
    simp [isWhole]
  have hpart : x.wholePart = x.ratio.1 / x.ratio.2 := rfl
  rw [hwhole, ← ratio_eq, hpart, div_eq_iff hpos, ← Nat.cast_mul, Nat.cast_inj,
    ← Nat.dvd_iff_mod_eq_zero]
  exact ⟨fun h => (Nat.div_mul_cancel h).symm, fun h => ⟨_, by rw [Nat.mul_comm]; exact h⟩⟩

/-- The double of a natural number has no fraction. -/
theorem isWhole_of_abs_eq {n : ℕ} (h : x.abs = n) : x.isWhole = true ∧ x.wholePart = n := by
  have hpart : x.wholePart = n := by rw [wholePart_eq_floor, h, Nat.floor_natCast]
  exact ⟨isWhole_iff.2 (by rw [hpart, h]), hpart⟩

/-- Below `2 ^ 53` every natural number is a double. -/
theorem roundRatio_of_lt {n : ℕ} (h : n < Nat.pow 2 53) (negative : Bool) :
    ∃ x, roundRatio negative n 1 = .finite x ∧ x.negative = negative ∧ x.abs = n := by
  rw [Nat.pow_eq] at h
  by_cases hn : n = 0
  · refine ⟨zero negative, ?_, rfl, ?_⟩
    · rw [roundRatio, if_pos hn]
    · rw [hn, abs, zero, Nat.cast_zero, zero_mul]
  · have hlog : n.log2 < 53 := (Nat.log2_lt hn).2 h
    have hshift : 2 ^ n.log2 * 2 ^ (52 - n.log2) = 2 ^ 52 := by
      rw [← Nat.pow_add]
      congr 1
      omega
    -- the leading binary digit is moved to its place
    have hcanonical : IsCanonical (n * 2 ^ (52 - n.log2)) ((n.log2 : ℤ) - 52) := by
      refine ⟨?_, by omega, by omega, .inl ?_⟩
      · calc n * 2 ^ (52 - n.log2) < 2 ^ (n.log2 + 1) * 2 ^ (52 - n.log2) := by
              gcongr
              exact Nat.lt_log2_self
          _ = 2 ^ 52 * 2 := by rw [Nat.pow_succ, Nat.mul_right_comm, hshift]
          _ = 2 ^ 53 := by norm_num
      · calc 2 ^ 52 = 2 ^ n.log2 * 2 ^ (52 - n.log2) := hshift.symm
          _ ≤ n * 2 ^ (52 - n.log2) := by
              gcongr
              exact Nat.log2_self_le hn
    let x : Double := ⟨negative, n * 2 ^ (52 - n.log2), (n.log2 : ℤ) - 52, hcanonical⟩
    have hx : x.mantissa ≠ 0 := Nat.mul_ne_zero hn (by positivity)
    have habs : x.abs = n := by
      have hexp : (n.log2 : ℤ) - 52 = -((52 - n.log2 : ℕ) : ℤ) := by omega
      show ((n * 2 ^ (52 - n.log2) : ℕ) : ℚ) * 2 ^ ((n.log2 : ℤ) - 52) = n
      rw [hexp, zpow_neg, zpow_natCast]
      push_cast
      field_simp
    refine ⟨x, ?_, rfl, habs⟩
    have hround := roundRatio_of_roundsFrom hx (n := n) Nat.one_pos
      (by rw [Nat.cast_one, div_one, ← habs]; exact roundsFrom_abs hx) negative
    exact hround

/-- From `2 ^ 53` on the double of a natural number is whole and no smaller than that. -/
theorem isWhole_of_roundRatio_of_le {n : ℕ} (h : Nat.pow 2 53 ≤ n) {negative : Bool}
    (hx : roundRatio negative n 1 = .finite x) :
    x.isWhole = true ∧ Nat.pow 2 53 ≤ x.wholePart := by
  rw [Nat.pow_eq] at h ⊢
  have hn : n ≠ 0 := by
    rintro rfl
    norm_num at h
  have hlog : 53 ≤ n.log2 := (Nat.le_log2 hn).2 h
  have hexp : exponentOf n 1 = (n.log2 : ℤ) - 52 := by
    have hlow : (2 : ℚ) ^ (n.log2 : ℤ) ≤ (n : ℚ) / (1 : ℕ) := by
      rw [Nat.cast_one, div_one]
      exact_mod_cast Nat.log2_self_le hn
    have hhigh : (n : ℚ) / (1 : ℕ) < 2 ^ ((n.log2 : ℤ) + 1) := by
      rw [Nat.cast_one, div_one]
      exact_mod_cast Nat.lt_log2_self (n := n)
    rw [exponentOf_eq Nat.one_pos hlow hhigh]
    omega
  have hlarge : 1 ≤ x.exponent := by
    rw [roundRatio, if_neg hn] at hx
    dsimp only at hx
    rw [hexp] at hx
    split at hx <;>
    · unfold ofParts at hx
      split at hx
      · obtain rfl := Rounded.finite.inj hx
        dsimp only
        omega
      · simp at hx
  have hmant : 2 ^ 52 ≤ x.mantissa := by
    rcases x.canonical.2.2.2 with hle | hleast
    · exact hle
    · omega
  obtain ⟨k, hk⟩ := Int.eq_ofNat_of_zero_le (show 0 ≤ x.exponent - 1 by omega)
  have habs : x.abs = ((x.mantissa * 2 ^ (k + 1) : ℕ) : ℚ) := by
    have : x.exponent = ((k + 1 : ℕ) : ℤ) := by omega
    rw [abs, this, zpow_natCast]
    push_cast
    rfl
  obtain ⟨hwhole, hpart⟩ := isWhole_of_abs_eq habs
  refine ⟨hwhole, ?_⟩
  rw [hpart]
  calc 2 ^ 53 = 2 ^ 52 * 2 ^ 1 := by norm_num
    _ ≤ x.mantissa * 2 ^ (k + 1) := Nat.mul_le_mul hmant (Nat.pow_le_pow_right (by norm_num) (by omega))

/-- The double nearest to a natural number is whole. -/
theorem isWhole_of_roundRatio {n : ℕ} {negative : Bool}
    (h : roundRatio negative n 1 = .finite x) : x.isWhole = true := by
  rcases Nat.lt_or_ge n (Nat.pow 2 53) with hlt | hle
  · obtain ⟨y, hround, -, habs⟩ := roundRatio_of_lt hlt negative
    obtain rfl : y = x := Rounded.finite.inj (hround.symm.trans h)
    exact (isWhole_of_abs_eq habs).1
  · exact (isWhole_of_roundRatio_of_le hle h).1

end Double

namespace Json

/-- Below `2 ^ 53` a whole numeral is read as the integer that it denotes. -/
theorem ofRounded_roundRatio_of_lt {n : ℕ} (h : n < Nat.pow 2 53) (negative : Bool) :
    ofRounded (Double.roundRatio negative n 1) =
      .number (.integer (if negative then -(n : ℤ) else n)) := by
  obtain ⟨x, hround, rfl, habs⟩ := Double.roundRatio_of_lt h negative
  obtain ⟨hwhole, hpart⟩ := Double.isWhole_of_abs_eq habs
  rw [hround, ofRounded, hwhole, hpart, Double.truncate, hpart]
  simp [h]

/-- From `2 ^ 53` on no whole numeral is read as an integer. -/
theorem ofRounded_roundRatio_of_le {n : ℕ} (h : Nat.pow 2 53 ≤ n) (negative : Bool) (k : ℤ) :
    ofRounded (Double.roundRatio negative n 1) ≠ .number (.integer k) := by
  cases hround : Double.roundRatio negative n 1 with
  | infinite => simp [ofRounded]
  | finite x =>
      obtain ⟨-, hpart⟩ := Double.isWhole_of_roundRatio_of_le h hround
      rw [ofRounded, if_neg (by simp; intro; exact hpart)]
      simp

end Json

end Switchboard
