import Mathlib.Algebra.Order.Field.Power
import Mathlib.Data.Int.Log
import Mathlib.Data.Rat.Floor
import Mathlib.Tactic.FieldSimp
import Mathlib.Tactic.Linarith
import Mathlib.Tactic.Positivity
import Mathlib.Tactic.Ring
import Switchboard.Number.Shortest

/-!
# What rounds to a double

A fraction rounds to a double exactly where it lies in the interval of that double,
between the midpoints to its neighbours.  This direction is what reading back
needs: `roundRatio_of_roundsFrom` takes any fraction of the interval to the double.

The idea is that the interval fixes the exponent that `exponentOf` finds, and
with it the grid of whole numbers on which `roundDiv` rounds.  There is one
exception.  Just below a power of two the fraction still has the smaller
exponent; there it rounds up to `2 ^ 53` units, which `roundRatio` turns into the
power of two itself.
-/

namespace Switchboard.Double

/-- The magnitude. -/
def abs (x : Double) : ℚ := x.mantissa * 2 ^ x.exponent

theorem ratio_pos (x : Double) : 0 < x.ratio.2 := by
  unfold ratio
  split
  · exact Nat.one_pos
  · exact Nat.pow_pos (by decide)

theorem ratio_eq (x : Double) : (x.ratio.1 : ℚ) / x.ratio.2 = x.abs := by
  unfold ratio abs
  split
  · rename_i h
    obtain ⟨k, hk⟩ := Int.eq_ofNat_of_zero_le h
    simp [hk]
  · rename_i h
    obtain ⟨k, hk⟩ := Int.eq_ofNat_of_zero_le (show 0 ≤ -x.exponent by omega)
    have hexp : x.exponent = -(k : ℤ) := by omega
    rw [hk, hexp]
    simp [div_eq_mul_inv]

theorem inUnits_pos {n d : ℕ} (hd : 0 < d) (e : ℤ) : 0 < (inUnits n d e).2 := by
  unfold inUnits
  split
  · exact Nat.mul_pos hd (Nat.pow_pos (by decide))
  · exact hd

theorem inUnits_eq (n d : ℕ) (e : ℤ) :
    ((inUnits n d e).1 : ℚ) / (inUnits n d e).2 = n / d / 2 ^ e := by
  unfold inUnits
  split
  · rename_i h
    obtain ⟨k, hk⟩ := Int.eq_ofNat_of_zero_le h
    rw [hk]
    simp [div_div]
  · rename_i h
    obtain ⟨k, hk⟩ := Int.eq_ofNat_of_zero_le (show 0 ≤ -e by omega)
    have hexp : e = -(k : ℤ) := by omega
    rw [hk, hexp]
    simp [div_mul_eq_mul_div]

/-! ## Whole numbers nearby -/

/-- The nearest natural number, where a tie goes to the even one. -/
theorem roundDiv_eq {a b k : ℕ} (hb : 0 < b) (hlow : (k : ℚ) - 1 / 2 ≤ (a : ℚ) / b)
    (hhigh : (a : ℚ) / b ≤ k + 1 / 2)
    (hodd : k % 2 = 1 → (k : ℚ) - 1 / 2 < (a : ℚ) / b ∧ (a : ℚ) / b < k + 1 / 2) :
    roundDiv a b = k := by
  have hbq : (0 : ℚ) < b := by exact_mod_cast hb
  have hlow' : 2 * (k * b) ≤ 2 * a + b := by
    rw [le_div_iff₀ hbq] at hlow
    have h : 2 * ((k : ℚ) * b) ≤ 2 * a + b := by linarith
    exact_mod_cast h
  have hhigh' : 2 * a ≤ 2 * (k * b) + b := by
    rw [div_le_iff₀ hbq] at hhigh
    have h : 2 * (a : ℚ) ≤ 2 * (k * b) + b := by linarith
    exact_mod_cast h
  have hodd' : k % 2 = 1 → 2 * (k * b) < 2 * a + b ∧ 2 * a < 2 * (k * b) + b := by
    intro hk
    obtain ⟨h₁, h₂⟩ := hodd hk
    rw [lt_div_iff₀ hbq] at h₁
    rw [div_lt_iff₀ hbq] at h₂
    have h₁' : 2 * ((k : ℚ) * b) < 2 * a + b := by linarith
    have h₂' : 2 * (a : ℚ) < 2 * (k * b) + b := by linarith
    exact ⟨by exact_mod_cast h₁', by exact_mod_cast h₂'⟩
  have hdiv : b * (a / b) + a % b = a := Nat.div_add_mod a b
  have hmod : a % b < b := Nat.mod_lt a hb
  -- the bounds leave the quotient and its successor
  have hge : a / b ≤ k := by
    by_contra h
    have : (k + 1) * b ≤ a / b * b := Nat.mul_le_mul_right b (by omega)
    have : a / b * b = b * (a / b) := Nat.mul_comm _ _
    rw [Nat.add_mul] at *
    omega
  have hle : k ≤ a / b + 1 := by
    by_contra h
    have : (a / b + 2) * b ≤ k * b := Nat.mul_le_mul_right b (by omega)
    have : a / b * b = b * (a / b) := Nat.mul_comm _ _
    rw [Nat.add_mul] at *
    omega
  have hcases : k = a / b ∨ k = a / b + 1 := by omega
  unfold roundDiv
  dsimp only
  rcases hcases with hk | hk
  · have hkb : k * b = b * (a / b) := by rw [hk, Nat.mul_comm]
    split
    · exact hk.symm
    · split <;> omega
  · have hkb : k * b = b * (a / b) + b := by rw [hk, Nat.add_mul, Nat.mul_comm, Nat.one_mul]
    split
    · omega
    · split <;> omega

/-- The natural number nearest to a fraction in units of a power of two. -/
theorem roundDiv_inUnits {n d k : ℕ} (hd : 0 < d) {e : ℤ}
    (hlow : ((k : ℚ) - 1 / 2) * 2 ^ e ≤ (n : ℚ) / d) (hhigh : (n : ℚ) / d ≤ (k + 1 / 2) * 2 ^ e)
    (hodd : k % 2 = 1 →
      ((k : ℚ) - 1 / 2) * 2 ^ e < (n : ℚ) / d ∧ (n : ℚ) / d < (k + 1 / 2) * 2 ^ e) :
    roundDiv (inUnits n d e).1 (inUnits n d e).2 = k := by
  have hpow : (0 : ℚ) < 2 ^ e := by positivity
  refine roundDiv_eq (inUnits_pos hd e) ?_ ?_ fun hk => ?_
  · rw [inUnits_eq, le_div_iff₀ hpow]
    exact hlow
  · rw [inUnits_eq, div_le_iff₀ hpow]
    exact hhigh
  · rw [inUnits_eq, lt_div_iff₀ hpow, div_lt_iff₀ hpow]
    exact hodd hk

/-! ## The exponent -/

theorem inUnits_lt_iff {n d : ℕ} (hd : 0 < d) (e : ℤ) :
    (inUnits n d e).1 < (inUnits n d e).2 ↔ (n : ℚ) / d < 2 ^ e := by
  have hpos : (0 : ℚ) < (inUnits n d e).2 := by exact_mod_cast inUnits_pos hd e
  have hpow : (0 : ℚ) < 2 ^ e := by positivity
  have hcast : (inUnits n d e).1 < (inUnits n d e).2 ↔
      ((inUnits n d e).1 : ℚ) < (inUnits n d e).2 := Nat.cast_lt.symm
  rw [hcast, ← div_lt_one hpos, inUnits_eq, div_lt_one hpow]

/-- The binary digits of both parts place a fraction between neighbours of one power of two. -/
theorem log2_sub_log2_bounds {n d : ℕ} (hn : n ≠ 0) (hd : d ≠ 0) :
    (2 : ℚ) ^ ((n.log2 : ℤ) - d.log2 - 1) < (n : ℚ) / d ∧
      (n : ℚ) / d < 2 ^ ((n.log2 : ℤ) - d.log2 + 1) := by
  have hdq : (0 : ℚ) < d := by exact_mod_cast Nat.pos_of_ne_zero hd
  have hnlow : (2 : ℚ) ^ (n.log2 : ℤ) ≤ n := by exact_mod_cast Nat.log2_self_le hn
  have hnhigh : (n : ℚ) < 2 ^ ((n.log2 : ℤ) + 1) := by exact_mod_cast Nat.lt_log2_self (n := n)
  have hdlow : (2 : ℚ) ^ (d.log2 : ℤ) ≤ d := by exact_mod_cast Nat.log2_self_le hd
  have hdhigh : (d : ℚ) < 2 ^ ((d.log2 : ℤ) + 1) := by exact_mod_cast Nat.lt_log2_self (n := d)
  constructor
  · rw [lt_div_iff₀ hdq]
    calc (2 : ℚ) ^ ((n.log2 : ℤ) - d.log2 - 1) * d
        < 2 ^ ((n.log2 : ℤ) - d.log2 - 1) * 2 ^ ((d.log2 : ℤ) + 1) := by gcongr
      _ = 2 ^ (n.log2 : ℤ) := by rw [← zpow_add₀ (by norm_num)]; congr 1; ring
      _ ≤ n := hnlow
  · rw [div_lt_iff₀ hdq]
    calc (n : ℚ) < 2 ^ ((n.log2 : ℤ) + 1) := hnhigh
      _ = 2 ^ ((n.log2 : ℤ) - d.log2 + 1) * 2 ^ (d.log2 : ℤ) := by
          rw [← zpow_add₀ (by norm_num)]; congr 1; ring
      _ ≤ 2 ^ ((n.log2 : ℤ) - d.log2 + 1) * d := by gcongr

/-- The exponent follows from the power of two below the fraction. -/
theorem exponentOf_eq {n d : ℕ} (hd : 0 < d) {t : ℤ} (hlow : (2 : ℚ) ^ t ≤ (n : ℚ) / d)
    (hhigh : (n : ℚ) / d < 2 ^ (t + 1)) : exponentOf n d = max (t - 52) (-1074) := by
  have hone : (1 : ℚ) < 2 := by norm_num
  have hn : n ≠ 0 := by
    rintro rfl
    have hpow : (0 : ℚ) < 2 ^ t := by positivity
    simp only [Nat.cast_zero, zero_div] at hlow
    linarith
  obtain ⟨hbelow, habove⟩ := log2_sub_log2_bounds hn hd.ne'
  unfold exponentOf
  dsimp only
  generalize (n.log2 : ℤ) - d.log2 = guess at hbelow habove ⊢
  -- the exponent looked for is the guess or one less
  have hge := (zpow_lt_zpow_iff_right₀ hone).1 (hbelow.trans hhigh)
  have hle := (zpow_lt_zpow_iff_right₀ hone).1 (hlow.trans_lt habove)
  have htop : (if (inUnits n d guess).1 < (inUnits n d guess).2 then guess - 1 else guess) = t := by
    split
    · rename_i hlt
      rw [inUnits_lt_iff hd] at hlt
      have := (zpow_lt_zpow_iff_right₀ hone).1 (hlow.trans_lt hlt)
      omega
    · rename_i hnot
      rw [inUnits_lt_iff hd, not_lt] at hnot
      have := (zpow_lt_zpow_iff_right₀ hone).1 (hnot.trans_lt hhigh)
      omega
  rw [htop]

/-! ## The interval of a double -/

/-- The number lies between the ends, in the given unit. -/
def Interval.Contains (i : Interval) (unit q : ℚ) : Prop :=
  if i.closed then i.low * unit ≤ q ∧ q ≤ i.high * unit else i.low * unit < q ∧ q < i.high * unit

/-- The magnitude rounds to the double. -/
def RoundsFrom (x : Double) (q : ℚ) : Prop := x.interval.Contains (2 ^ (x.exponent - 2)) q

/-- The double has its lower neighbour at half the distance of the upper one. -/
def IsNarrow (x : Double) : Prop := x.mantissa = Nat.pow 2 52 ∧ x.exponent ≠ -1074

instance (x : Double) : Decidable x.IsNarrow := inferInstanceAs (Decidable (_ ∧ _))

variable {x : Double} {q : ℚ}

theorem interval_low (hx : x.mantissa ≠ 0) :
    (x.interval.low : ℚ) = 4 * x.mantissa - (if x.IsNarrow then 1 else 2) := by
  have hnarrow : (x.mantissa == Nat.pow 2 52 && x.exponent != -1074) = true ↔ x.IsNarrow := by
    simp [IsNarrow]
  unfold interval
  dsimp only
  by_cases h : x.IsNarrow
  · rw [if_pos (hnarrow.2 h), if_pos h, Nat.cast_sub (by omega)]
    push_cast
    ring
  · rw [if_neg (mt hnarrow.1 h), if_neg h, Nat.cast_sub (by omega)]
    push_cast
    ring

theorem interval_high (x : Double) : (x.interval.high : ℚ) = 4 * x.mantissa + 2 := by
  unfold interval
  push_cast
  ring

theorem two_zpow_quarter (e : ℤ) : (2 : ℚ) ^ e = 4 * 2 ^ (e - 2) := by
  rw [zpow_sub₀ (by norm_num)]
  norm_num
  ring

/-- The upper end of an interval, which belongs to an even mantissa only. -/
theorem RoundsFrom.high (h : x.RoundsFrom q) :
    q ≤ (x.mantissa + 1 / 2) * 2 ^ x.exponent ∧
      (x.mantissa % 2 = 1 → q < (x.mantissa + 1 / 2) * 2 ^ x.exponent) := by
  have hclosed : x.interval.closed = (x.mantissa % 2 == 0) := rfl
  unfold RoundsFrom Interval.Contains at h
  rw [interval_high, hclosed] at h
  rw [two_zpow_quarter x.exponent]
  rcases Nat.mod_two_eq_zero_or_one x.mantissa with hpar | hpar
  · rw [if_pos (by simp [hpar])] at h
    exact ⟨by linarith [h.2], fun hodd => by omega⟩
  · rw [if_neg (by simp [hpar])] at h
    exact ⟨by linarith [h.2], fun _ => by linarith [h.2]⟩

/-- The lower end of an interval, which belongs to an even mantissa only and is nearer if the double
is narrow. -/
theorem RoundsFrom.low (hx : x.mantissa ≠ 0) (h : x.RoundsFrom q) :
    ((x.mantissa : ℚ) - 1 / 2) * 2 ^ x.exponent ≤ q ∧
      (x.mantissa % 2 = 1 → ((x.mantissa : ℚ) - 1 / 2) * 2 ^ x.exponent < q) ∧
      (x.IsNarrow → ((x.mantissa : ℚ) - 1 / 4) * 2 ^ x.exponent ≤ q) := by
  have hunit : (0 : ℚ) < 2 ^ (x.exponent - 2) := by positivity
  have hclosed : x.interval.closed = (x.mantissa % 2 == 0) := rfl
  unfold RoundsFrom Interval.Contains at h
  rw [interval_low hx, hclosed] at h
  rw [two_zpow_quarter x.exponent]
  generalize (2 : ℚ) ^ (x.exponent - 2) = unit at hunit h ⊢
  rcases Nat.mod_two_eq_zero_or_one x.mantissa with hpar | hpar
  · rw [if_pos (by simp [hpar])] at h
    refine ⟨?_, fun hodd => by omega, fun hnarrow => ?_⟩
    · split at h
      · linarith [h.1]
      · linarith [h.1]
    · rw [if_pos hnarrow] at h
      linarith [h.1]
  · have hnot : ¬ x.IsNarrow := by
      rintro ⟨hm, -⟩
      rw [hm] at hpar
      exact absurd hpar (by decide)
    rw [if_neg (by simp [hpar]), if_neg hnot] at h
    exact ⟨by linarith [h.1], fun _ => by linarith [h.1], fun hnarrow => absurd hnarrow hnot⟩

theorem RoundsFrom.pos (hx : x.mantissa ≠ 0) (h : x.RoundsFrom q) : 0 < q := by
  have hone : (1 : ℚ) ≤ x.mantissa := by exact_mod_cast Nat.one_le_iff_ne_zero.2 hx
  have hunit : (0 : ℚ) < 2 ^ x.exponent := by positivity
  have hlow := (h.low hx).1
  nlinarith

/-- What is no farther from a double than half the way to its neighbours rounds to it, and for an odd
mantissa what is nearer. -/
theorem roundsFrom_of_le (hx : x.mantissa ≠ 0)
    (hlow : ((x.mantissa : ℚ) - (if x.IsNarrow then 1 / 4 else 1 / 2)) * 2 ^ x.exponent ≤ q)
    (hhigh : q ≤ (x.mantissa + 1 / 2) * 2 ^ x.exponent)
    (hodd : x.mantissa % 2 = 1 → ((x.mantissa : ℚ) - 1 / 2) * 2 ^ x.exponent < q ∧
      q < (x.mantissa + 1 / 2) * 2 ^ x.exponent) : x.RoundsFrom q := by
  have hclosed : x.interval.closed = (x.mantissa % 2 == 0) := rfl
  unfold RoundsFrom Interval.Contains
  rw [interval_low hx, interval_high, hclosed]
  rw [two_zpow_quarter x.exponent] at hlow hhigh hodd
  generalize (2 : ℚ) ^ (x.exponent - 2) = unit at hlow hhigh hodd ⊢
  rcases Nat.mod_two_eq_zero_or_one x.mantissa with hpar | hpar
  · rw [if_pos (by simp [hpar])]
    split at hlow
    · rw [if_pos ‹_›]
      constructor <;> linarith
    · rw [if_neg ‹_›]
      constructor <;> linarith
  · obtain ⟨hlow', hhigh'⟩ := hodd hpar
    have hnot : ¬ x.IsNarrow := by
      rintro ⟨hm, -⟩
      rw [hm] at hpar
      exact absurd hpar (by decide)
    rw [if_neg (by simp [hpar]), if_neg hnot]
    constructor <;> linarith

/-- What is nearer to a double than half the way to its neighbours rounds to it. -/
theorem roundsFrom_of_lt (hx : x.mantissa ≠ 0)
    (hlow : ((x.mantissa : ℚ) - (if x.IsNarrow then 1 / 4 else 1 / 2)) * 2 ^ x.exponent < q)
    (hhigh : q < (x.mantissa + 1 / 2) * 2 ^ x.exponent) : x.RoundsFrom q := by
  have hunit : (0 : ℚ) < 2 ^ x.exponent := by positivity
  refine roundsFrom_of_le hx hlow.le hhigh.le fun _ => ⟨?_, hhigh⟩
  split at hlow <;> linarith

/-- A double rounds to itself. -/
theorem roundsFrom_abs (hx : x.mantissa ≠ 0) : x.RoundsFrom x.abs := by
  have hunit : (0 : ℚ) < 2 ^ x.exponent := by positivity
  refine roundsFrom_of_lt hx ?_ ?_
  · unfold abs
    split <;> linarith
  · unfold abs
    linarith

/-! ## Rounding -/

theorem roundRatio_eq {n d m : ℕ} {e : ℤ} (hn : n ≠ 0) (he : exponentOf n d = e)
    (hm : roundDiv (inUnits n d e).1 (inUnits n d e).2 = m) (negative : Bool) :
    roundRatio negative n d =
      if m = Nat.pow 2 53 then ofParts negative (Nat.pow 2 52) (e + 1)
      else ofParts negative m e := by
  rw [roundRatio, if_neg hn]
  dsimp only
  rw [he, hm]

theorem ofParts_self (x : Double) (negative : Bool) :
    ofParts negative x.mantissa x.exponent = .finite { x with negative := negative } :=
  dif_pos x.canonical

/-- The fraction has the exponent of the double unless it is below the least power of two that has
it. -/
theorem RoundsFrom.exponentOf_eq (hx : x.mantissa ≠ 0) {n d : ℕ} (hd : 0 < d)
    (h : x.RoundsFrom ((n : ℚ) / d))
    (hgrid : (2 : ℚ) ^ (x.exponent + 52) ≤ (n : ℚ) / d ∨ x.exponent = -1074) :
    exponentOf n d = x.exponent := by
  obtain ⟨hhigh, -⟩ := h.high
  have hunit : (0 : ℚ) < 2 ^ x.exponent := by positivity
  have hm53 : (x.mantissa : ℚ) + 1 ≤ 2 ^ (53 : ℤ) := by exact_mod_cast x.canonical.1
  have hbelow : (n : ℚ) / d < 2 ^ (x.exponent + 53) := by
    rw [zpow_add₀ (by norm_num), mul_comm]
    nlinarith
  have hlog := Int.zpow_log_le_self (b := 2) (by norm_num) (h.pos hx)
  have hone : (1 : ℚ) < 2 := by norm_num
  have hlt := (zpow_lt_zpow_iff_right₀ hone).1 (hlog.trans_lt hbelow)
  have hleast := x.canonical.2.1
  rw [Double.exponentOf_eq hd hlog (Int.lt_zpow_succ_log_self (by norm_num) _)]
  rcases hgrid with habove | hexp
  · have hle := (zpow_lt_zpow_iff_right₀ hone).1
      (habove.trans_lt (Int.lt_zpow_succ_log_self (b := 2) (by norm_num) _))
    omega
  · omega

/-- Only the least mantissa reaches below its own power of two. -/
theorem RoundsFrom.mantissa_eq (hx : x.mantissa ≠ 0) (h : x.RoundsFrom q)
    (hlt : q < 2 ^ (x.exponent + 52)) (hexp : x.exponent ≠ -1074) : x.mantissa = Nat.pow 2 52 := by
  have hlow := (h.low hx).1.trans_lt hlt
  have hunit : (0 : ℚ) < 2 ^ x.exponent := by positivity
  rw [zpow_add₀ (by norm_num), mul_comm, mul_lt_mul_iff_right₀ hunit] at hlow
  have hlt : (x.mantissa : ℚ) < 2 ^ (52 : ℤ) + 1 := by linarith
  have hle : x.mantissa < 2 ^ 52 + 1 := by exact_mod_cast hlt
  obtain ⟨-, -, -, hleading | hleast⟩ := x.canonical
  · rw [Nat.pow_eq] at hleading ⊢
    omega
  · exact absurd hleast hexp

/-- On its own grid a fraction of the interval rounds to the mantissa. -/
theorem roundRatio_of_exponentOf_eq (hx : x.mantissa ≠ 0) {n d : ℕ} (hn : n ≠ 0) (hd : 0 < d)
    (h : x.RoundsFrom ((n : ℚ) / d)) (he : exponentOf n d = x.exponent) (negative : Bool) :
    roundRatio negative n d = .finite { x with negative := negative } := by
  obtain ⟨hlow, hlowOdd, -⟩ := h.low hx
  obtain ⟨hhigh, hhighOdd⟩ := h.high
  have hmantissa := roundDiv_inUnits hd hlow hhigh fun hpar => ⟨hlowOdd hpar, hhighOdd hpar⟩
  have hsmall : x.mantissa ≠ Nat.pow 2 53 := Nat.ne_of_lt x.canonical.1
  rw [roundRatio_eq hn he hmantissa, if_neg hsmall, ofParts_self]

/-- Less than a quarter of a unit below a power of two a fraction rounds up to it. -/
theorem roundRatio_below_two_pow {n d : ℕ} (hn : n ≠ 0) (hd : 0 < d) {e : ℤ} (he : -1074 < e)
    (hlow : ((2 : ℚ) ^ 52 - 1 / 4) * 2 ^ e ≤ (n : ℚ) / d)
    (hhigh : (n : ℚ) / d < 2 ^ (e + 52)) (negative : Bool) :
    roundRatio negative n d = ofParts negative (Nat.pow 2 52) e := by
  have hfine : (0 : ℚ) < 2 ^ (e - 1) := by positivity
  have hdouble : (2 : ℚ) ^ e = 2 * 2 ^ (e - 1) := by
    rw [← zpow_one_add₀ (by norm_num)]
    congr 1
    ring
  rw [zpow_add₀ (by norm_num), hdouble] at hhigh
  rw [hdouble] at hlow
  have hexp : exponentOf n d = e - 1 := by
    have hfrom : (2 : ℚ) ^ (e - 1 + 52) ≤ (n : ℚ) / d := by
      rw [zpow_add₀ (by norm_num)]
      norm_num at hlow ⊢
      nlinarith
    have hto : (n : ℚ) / d < 2 ^ (e - 1 + 52 + 1) := by
      rw [add_assoc, zpow_add₀ (by norm_num)]
      norm_num at hhigh ⊢
      nlinarith
    rw [exponentOf_eq hd hfrom hto]
    omega
  have hmant : roundDiv (inUnits n d (e - 1)).1 (inUnits n d (e - 1)).2 = 2 ^ 53 := by
    refine roundDiv_inUnits hd ?_ ?_ fun hodd => absurd hodd (by norm_num)
    · push_cast
      nlinarith
    · push_cast
      norm_num at hhigh ⊢
      nlinarith
  rw [roundRatio_eq hn hexp hmant, if_pos Nat.pow_eq.symm, sub_add_cancel]

/--
**Rounding into an interval**: a fraction in the interval of a double rounds to it.
-/
theorem roundRatio_of_roundsFrom (hx : x.mantissa ≠ 0) {n d : ℕ} (hd : 0 < d)
    (h : x.RoundsFrom ((n : ℚ) / d)) (negative : Bool) :
    roundRatio negative n d = .finite { x with negative := negative } := by
  have hn : n ≠ 0 := by
    rintro rfl
    have hpos := h.pos hx
    simp at hpos
  by_cases hgrid : (2 : ℚ) ^ (x.exponent + 52) ≤ (n : ℚ) / d ∨ x.exponent = -1074
  · exact roundRatio_of_exponentOf_eq hx hn hd h (h.exponentOf_eq hx hd hgrid) negative
  · -- just below a power of two the grid is the finer one
    rw [not_or, not_le] at hgrid
    obtain ⟨htop, hexp⟩ := hgrid
    have hmant := h.mantissa_eq hx htop hexp
    have hquarter := (h.low hx).2.2 ⟨hmant, hexp⟩
    have hleast := x.canonical.2.1
    rw [hmant, Nat.pow_eq] at hquarter
    rw [roundRatio_below_two_pow hn hd (by omega) (by exact_mod_cast hquarter) htop, ← hmant,
      ofParts_self]

end Switchboard.Double
