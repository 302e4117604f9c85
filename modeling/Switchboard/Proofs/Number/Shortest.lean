import Mathlib.Algebra.Order.Floor.Semifield
import Switchboard.Proofs.Number.Digits
import Switchboard.Proofs.Number.Rounding

/-!
# The shortest decimal reads back

`Double.shortest` searches one decimal grid after the other for a point that rounds
to the double.  What it finds rounds to the double by its own test, so the point
to settle is that it finds something: the search could run out of grids.  On the
grid of seventeen digits the distance of two points is less than one unit of the
double, so one of the two points around it is less than half a unit away; below a
power of two, where that is not near enough, the distance is less than half a
unit to begin with (`nearestOnGrid_isSome`).
-/

namespace Switchboard

/-- The value of a decimal. -/
def Decimal.value (d : Decimal) : ℚ := digitsValue d.digits * 10 ^ (d.point - d.digits.length)

namespace Double

variable {x : Double} {q : ℚ}

/-! ## The size of a double -/

theorem abs_pos (hx : x.mantissa ≠ 0) : 0 < x.abs := by
  have : (0 : ℚ) < x.mantissa := by exact_mod_cast Nat.pos_of_ne_zero hx
  unfold abs
  positivity

/-- The least and the greatest doubles between powers of ten. -/
theorem two_zpow_range :
    (10 : ℚ) ^ (-325 : ℤ) ≤ 1 / 2 * 2 ^ (-1074 : ℤ) ∧
      (2 : ℚ) ^ (53 : ℤ) * 2 ^ (971 : ℤ) ≤ 10 ^ (309 : ℤ) := by
  have hsmall : (2 : ℚ) ^ 1075 ≤ 10 ^ 325 := by
    calc (2 : ℚ) ^ 1075 = (2 ^ 43) ^ 25 := by rw [← pow_mul]
      _ ≤ (10 ^ 13) ^ 25 := by
          gcongr
          norm_num
      _ = 10 ^ 325 := by rw [← pow_mul]
  have hlarge : (2 : ℚ) ^ 1023 ≤ 10 ^ 308 := by
    calc (2 : ℚ) ^ 1023 = (2 ^ 93) ^ 11 := by rw [← pow_mul]
      _ ≤ (10 ^ 28) ^ 11 := by
          gcongr
          norm_num
      _ = 10 ^ 308 := by rw [← pow_mul]
  constructor
  · have hhalf : (1 : ℚ) / 2 * 2 ^ (-1074 : ℤ) = (2 ^ 1075)⁻¹ := by
      rw [one_div, ← zpow_neg_one, ← zpow_add₀ (by norm_num), ← zpow_natCast, ← zpow_neg]
      rfl
    rw [hhalf, zpow_neg]
    exact inv_anti₀ (by positivity) hsmall
  · calc (2 : ℚ) ^ (53 : ℤ) * 2 ^ (971 : ℤ) = 2 * 2 ^ 1023 := by
          rw [← zpow_add₀ (by norm_num), ← pow_succ']
          rfl
      _ ≤ 10 * 10 ^ 308 := by
          gcongr
          norm_num
      _ = 10 ^ (309 : ℤ) := by
          rw [← pow_succ']
          rfl

theorem ten_zpow_le_abs (hx : x.mantissa ≠ 0) : (10 : ℚ) ^ (-325 : ℤ) ≤ x.abs := by
  have hone : (1 : ℚ) ≤ x.mantissa := by exact_mod_cast Nat.one_le_iff_ne_zero.2 hx
  have hunit : (0 : ℚ) < 2 ^ x.exponent := by positivity
  calc (10 : ℚ) ^ (-325 : ℤ) ≤ 1 / 2 * 2 ^ (-1074 : ℤ) := two_zpow_range.1
    _ ≤ 1 / 2 * 2 ^ x.exponent := by
        gcongr
        · norm_num
        · exact x.canonical.2.1
    _ ≤ x.abs := by
        unfold abs
        nlinarith

/-- The magnitude of a double places it between two powers of ten. -/
theorem magnitude_bounds (hx : x.mantissa ≠ 0) :
    (10 : ℚ) ^ (x.magnitude - 1) ≤ x.abs ∧ x.abs < 10 ^ x.magnitude := by
  have hscale : (0 : ℚ) < 10 ^ (400 : ℤ) := by positivity
  obtain ⟨N, hN⟩ : ∃ N, N = x.ratio.1 * Nat.pow 10 400 / x.ratio.2 := ⟨_, rfl⟩
  have hfloor : N = ⌊x.abs * 10 ^ (400 : ℤ)⌋₊ := by
    rw [hN, ← ratio_eq, div_mul_eq_mul_div, ← Nat.floor_div_eq_div (K := ℚ)]
    simp only [Nat.cast_mul, Nat.pow_eq, Nat.cast_pow, Nat.cast_ofNat]
    rfl
  have hone : (1 : ℚ) ≤ x.abs * 10 ^ (400 : ℤ) := by
    have hlow := ten_zpow_le_abs hx
    calc (1 : ℚ) ≤ 10 ^ (75 : ℤ) := by norm_num
      _ = 10 ^ (-325 : ℤ) * 10 ^ (400 : ℤ) := by rw [← zpow_add₀ (by norm_num)]; rfl
      _ ≤ x.abs * 10 ^ (400 : ℤ) := by gcongr
  have hne : N ≠ 0 := by
    rw [hfloor]
    exact (Nat.floor_pos.2 hone).ne'
  obtain ⟨hlow, hhigh⟩ := decimalLength_bounds hne
  have hpos : 0 < decimalLength N := Nat.length_toDigits_pos
  have hmagnitude : x.magnitude = (decimalLength N : ℤ) - 400 := by rw [hN]; rfl
  rw [hmagnitude]
  constructor
  · rw [← mul_le_mul_iff_left₀ hscale]
    calc (10 : ℚ) ^ ((decimalLength N : ℤ) - 400 - 1) * 10 ^ (400 : ℤ)
        = 10 ^ (((decimalLength N - 1 : ℕ)) : ℤ) := by
          rw [← zpow_add₀ (by norm_num)]
          congr 1
          omega
      _ ≤ N := by exact_mod_cast hlow
      _ ≤ x.abs * 10 ^ (400 : ℤ) := by
          rw [hfloor]
          exact Nat.floor_le (by linarith)
  · rw [← mul_lt_mul_iff_left₀ hscale]
    calc x.abs * 10 ^ (400 : ℤ) < N + 1 := by
          rw [hfloor]
          exact Nat.lt_floor_add_one _
      _ ≤ 10 ^ ((decimalLength N : ℕ) : ℤ) := by exact_mod_cast hhigh
      _ = 10 ^ ((decimalLength N : ℤ) - 400) * 10 ^ (400 : ℤ) := by
          rw [← zpow_add₀ (by norm_num)]
          congr 1
          omega

/-! ## One grid -/

/-- The steps of the grid of the multiples of `10 ^ k`, and a quarter of a unit of the double, on one
scale. -/
theorem grid_scale (e k : ℤ) :
    ((Nat.pow 10 k.toNat * Nat.pow 2 (-e).toNat : ℕ) : ℚ) * 2 ^ e =
      10 ^ k * (Nat.pow 10 (-k).toNat * Nat.pow 2 e.toNat : ℕ) := by
  have hpow : ∀ (b : ℚ), b ≠ 0 → ∀ i : ℤ, b ^ i.toNat = b ^ i * b ^ (-i).toNat := by
    intro b hb i
    rw [← zpow_natCast, ← zpow_natCast, ← zpow_add₀ hb]
    congr 1
    omega
  push_cast [Nat.pow_eq]
  rw [hpow 10 (by norm_num) k, hpow 2 (by norm_num) e]
  ring

/-- The test of the search, on the scale of the double. -/
theorem holds_iff_contains (i : Interval) {up down c : ℕ} {unit step : ℚ} (hdown : 0 < down)
    (hunit : 0 < unit) (hscale : (up : ℚ) * unit = step * down) :
    Interval.holds i.closed (i.low * down) (i.high * down) (c * up) = true ↔
      i.Contains unit (c * step) := by
  have hdownq : (0 : ℚ) < down := by exact_mod_cast hdown
  have hcross : ((c * up : ℕ) : ℚ) * unit = c * step * down := by
    push_cast
    rw [mul_assoc, hscale]
    ring
  have hle : ∀ a b : ℕ, a ≤ b ↔ (a : ℚ) * unit ≤ b * unit := fun a b => by
    rw [mul_le_mul_iff_left₀ hunit, Nat.cast_le]
  have hlt : ∀ a b : ℕ, a < b ↔ (a : ℚ) * unit < b * unit := fun a b => by
    rw [mul_lt_mul_iff_left₀ hunit, Nat.cast_lt]
  have hend : ∀ a : ℕ, ((a * down : ℕ) : ℚ) * unit = a * unit * down := fun a => by
    push_cast
    ring
  unfold Interval.holds Interval.Contains
  cases i.closed with
  | true =>
      simp only [if_true, Bool.and_eq_true, decide_eq_true_eq]
      rw [hle, hle, hcross, hend, hend, mul_le_mul_iff_left₀ hdownq, mul_le_mul_iff_left₀ hdownq]
  | false =>
      simp only [Bool.false_eq_true, if_false, Bool.and_eq_true, decide_eq_true_eq]
      rw [hlt, hlt, hcross, hend, hend, mul_lt_mul_iff_left₀ hdownq, mul_lt_mul_iff_left₀ hdownq]

/-- The number of whole steps of the grid below the double. -/
def below (x : Double) (k : ℤ) : ℕ := ⌊x.abs / 10 ^ k⌋₊

/-- The search takes one of the two points around the double, and only if it rounds to it; it takes
none only if neither does. -/
theorem nearestOnGrid_cases (x : Double) (k : ℤ) :
    (∃ c, x.nearestOnGrid k = some c ∧ (c = x.below k ∨ c = x.below k + 1) ∧
        x.RoundsFrom (c * 10 ^ k)) ∨
      x.nearestOnGrid k = none ∧ ¬ x.RoundsFrom (x.below k * 10 ^ k) ∧
        ¬ x.RoundsFrom ((x.below k + 1 : ℕ) * 10 ^ k) := by
  obtain ⟨up, hup⟩ : ∃ up, up = Nat.pow 10 k.toNat * Nat.pow 2 (-(x.exponent - 2)).toNat :=
    ⟨_, rfl⟩
  obtain ⟨down, hdown⟩ : ∃ down, down = Nat.pow 10 (-k).toNat * Nat.pow 2 (x.exponent - 2).toNat :=
    ⟨_, rfl⟩
  have hupPos : 0 < up := hup ▸ Nat.mul_pos (Nat.pow_pos (by decide)) (Nat.pow_pos (by decide))
  have hdownPos : 0 < down :=
    hdown ▸ Nat.mul_pos (Nat.pow_pos (by decide)) (Nat.pow_pos (by decide))
  have hunit : (0 : ℚ) < 2 ^ (x.exponent - 2) := by positivity
  have hscale : (up : ℚ) * 2 ^ (x.exponent - 2) = 10 ^ k * down := by
    rw [hup, hdown]
    exact grid_scale (x.exponent - 2) k
  have hbelow : x.interval.mid * down / up = x.below k := by
    have hmid : ((x.interval.mid * down : ℕ) : ℚ) / up = x.abs / 10 ^ k := by
      have hupq : (up : ℚ) ≠ 0 := by exact_mod_cast hupPos.ne'
      have habs : x.abs = x.interval.mid * 2 ^ (x.exponent - 2) := by
        rw [abs, two_zpow_quarter]
        unfold interval
        push_cast
        ring
      rw [div_eq_div_iff hupq (by positivity), habs, mul_assoc, mul_comm _ (up : ℚ), hscale]
      push_cast
      ring
    rw [below, ← hmid, Nat.floor_div_eq_div]
  have hholds : ∀ c : ℕ, Interval.holds x.interval.closed (x.interval.low * down)
      (x.interval.high * down) (c * up) = true ↔ x.RoundsFrom (c * 10 ^ k) := fun c =>
    holds_iff_contains x.interval hdownPos hunit hscale
  unfold nearestOnGrid
  dsimp only
  rw [← hup, ← hdown, hbelow]
  cases hfirst : Interval.holds x.interval.closed (x.interval.low * down)
      (x.interval.high * down) (x.below k * up) with
  | true =>
      have hthis := (hholds _).1 hfirst
      cases hnext : Interval.holds x.interval.closed (x.interval.low * down)
          (x.interval.high * down) ((x.below k + 1) * up) with
      | true =>
          have hthat := (hholds _).1 hnext
          left
          dsimp only
          split
          · exact ⟨_, rfl, .inl rfl, hthis⟩
          · split
            · exact ⟨_, rfl, .inr rfl, hthat⟩
            · split
              · exact ⟨_, rfl, .inl rfl, hthis⟩
              · exact ⟨_, rfl, .inr rfl, hthat⟩
      | false => exact .inl ⟨_, rfl, .inl rfl, hthis⟩
  | false =>
      cases hnext : Interval.holds x.interval.closed (x.interval.low * down)
          (x.interval.high * down) ((x.below k + 1) * up) with
      | true => exact .inl ⟨_, rfl, .inr rfl, (hholds _).1 hnext⟩
      | false =>
          refine .inr ⟨rfl, fun h => ?_, fun h => ?_⟩
          · rw [(hholds _).2 h] at hfirst
            exact absurd hfirst (by decide)
          · rw [(hholds _).2 h] at hnext
            exact absurd hnext (by decide)

/-- On a grid finer than the distance to the neighbours the search finds a point. -/
theorem nearestOnGrid_isSome (hx : x.mantissa ≠ 0) {k : ℤ}
    (hk : (10 : ℚ) ^ k < (if x.IsNarrow then 1 / 2 else 1) * 2 ^ x.exponent) :
    ∃ c, x.nearestOnGrid k = some c := by
  rcases x.nearestOnGrid_cases k with ⟨c, hc, -⟩ | ⟨-, hthis, hthat⟩
  · exact ⟨c, hc⟩
  · exfalso
    have hstep : (0 : ℚ) < 10 ^ k := by positivity
    have hle : (x.below k : ℚ) * 10 ^ k ≤ x.abs := by
      rw [← le_div_iff₀ hstep]
      exact Nat.floor_le (div_nonneg (abs_pos hx).le hstep.le)
    have hlt : x.abs < (x.below k + 1 : ℕ) * 10 ^ k := by
      rw [← div_lt_iff₀ hstep]
      push_cast
      exact Nat.lt_floor_add_one _
    rw [Nat.cast_add, Nat.cast_one] at hlt hthat
    have hunit : (0 : ℚ) < 2 ^ x.exponent := by positivity
    -- of the two points one is within half a step, and the upper one within a whole step
    by_cases hnear : x.abs - x.below k * 10 ^ k ≤ 10 ^ k / 2 ∧ ¬ x.IsNarrow
    · refine hthis (roundsFrom_of_lt hx ?_ ?_)
      · rw [if_neg hnear.2] at hk ⊢
        unfold abs at hnear
        linarith [hnear.1]
      · unfold abs at hle
        linarith
    · refine hthat (roundsFrom_of_lt hx ?_ ?_)
      · unfold abs at hlt
        split <;> linarith
      · rw [not_and_or, not_le, not_not] at hnear
        unfold abs at hle hnear
        split at hk <;> rcases hnear with hfar | hnarrow
        · linarith
        · linarith
        · linarith
        · contradiction

/-- Seventeen digits are enough. -/
theorem nearestOnGrid_seventeen (hx : x.mantissa ≠ 0) :
    ∃ c, x.nearestOnGrid (x.magnitude - 17) = some c := by
  refine nearestOnGrid_isSome hx ?_
  have hunit : (0 : ℚ) < 2 ^ x.exponent := by positivity
  have hlow := (magnitude_bounds hx).1
  have hstep : (10 : ℚ) ^ (x.magnitude - 1) = 10 ^ 16 * 10 ^ (x.magnitude - 17) := by
    rw [← zpow_natCast, ← zpow_add₀ (by norm_num)]
    congr 1
    push_cast
    ring
  rw [hstep, abs] at hlow
  have hm := x.canonical.1
  rw [Nat.pow_eq] at hm
  have hmq : (x.mantissa : ℚ) < 2 ^ 53 := by exact_mod_cast hm
  split
  · rename_i hnarrow
    rw [hnarrow.1, Nat.pow_eq] at hlow
    push_cast at hlow
    norm_num at hlow ⊢
    linarith
  · have hhigh := mul_lt_mul_of_pos_right hmq hunit
    norm_num at hlow hhigh ⊢
    linarith

/-! ## All grids -/

/-- What the search ends with: digits of a point that rounds to the double, on a grid with no more
than seventeen digits. -/
theorem searchGrids_eq (hx : x.mantissa ≠ 0) {rest : ℕ} (hrest : rest < 17) :
    ∃ k c, x.nearestOnGrid k = some c ∧ k < x.magnitude ∧
      searchGrids x x.magnitude (rest + 1) =
        ⟨dropEndZeros (natText c), ((natText c).length : ℤ) + k⟩ := by
  induction rest with
  | zero =>
      obtain ⟨c, hc⟩ := nearestOnGrid_seventeen hx
      refine ⟨x.magnitude - 17, c, hc, by omega, ?_⟩
      rw [searchGrids]
      dsimp only
      rw [show x.magnitude - ((17 - 0 : ℕ) : ℤ) = x.magnitude - 17 from rfl, hc]
      rfl
  | succ rest ih =>
      rw [searchGrids]
      dsimp only
      cases hc : x.nearestOnGrid (x.magnitude - ((17 - (rest + 1) : ℕ) : ℤ)) with
      | some c => exact ⟨_, c, hc, by omega, rfl⟩
      | none => exact ih (by omega)

/-- The value of a decimal does not change with the zeros at its end. -/
theorem value_dropEndZeros (c : ℕ) (k : ℤ) :
    Decimal.value ⟨dropEndZeros (natText c), ((natText c).length : ℤ) + k⟩ = c * 10 ^ k := by
  obtain ⟨zeros, hzeros⟩ := exists_eq_dropEndZeros_append (natText c)
  have hvalue := digitsValue_natText c
  have hlength := congrArg List.length hzeros
  rw [hzeros, digitsValue_append, digitsValue_replicate_zero, List.length_replicate,
    Nat.add_zero] at hvalue
  rw [List.length_append, List.length_replicate] at hlength
  have hexp : ((natText c).length : ℤ) + k - (dropEndZeros (natText c)).length = zeros + k := by
    omega
  have hvalueq : (digitsValue (dropEndZeros (natText c)) : ℚ) * 10 ^ zeros = c := by
    exact_mod_cast hvalue
  rw [Decimal.value, hexp, zpow_add₀ (by norm_num), zpow_natCast, ← mul_assoc, hvalueq]

/-- A point of a grid around the double has as many digits as the grid allows. -/
theorem length_natText_of_below (hx : x.mantissa ≠ 0) {k : ℤ} (hk : k < x.magnitude) {c : ℕ}
    (hc : c = x.below k ∨ c = x.below k + 1) : x.magnitude - k ≤ (natText c).length := by
  obtain ⟨j, hj⟩ := Int.eq_ofNat_of_zero_le (show 0 ≤ x.magnitude - 1 - k by omega)
  have hbelow : 10 ^ j ≤ x.below k := by
    refine Nat.le_floor ?_
    have hstep : (0 : ℚ) < 10 ^ k := by positivity
    rw [le_div_iff₀ hstep]
    calc (((10 ^ j : ℕ)) : ℚ) * 10 ^ k = 10 ^ (x.magnitude - 1) := by
          rw [Nat.cast_pow, ← zpow_natCast, Nat.cast_ofNat, ← zpow_add₀ (by norm_num)]
          congr 1
          omega
      _ ≤ x.abs := (magnitude_bounds hx).1
  have hle : 10 ^ j ≤ c := by omega
  have hpos : 0 < 10 ^ j := by positivity
  have hlt := hle.trans_lt (decimalLength_bounds (n := c) (by omega)).2
  have : j < (natText c).length := (Nat.pow_lt_pow_iff_right (by norm_num)).1 hlt
  omega

/--
**The shortest decimal reads back**: it has digits, its value rounds to the double, and its point
stands where the size of the double demands.
-/
theorem shortest_roundsFrom (hx : x.mantissa ≠ 0) :
    x.RoundsFrom x.shortest.value ∧ x.shortest.digits ≠ [] ∧
      (∀ c ∈ x.shortest.digits, c.isDigit = true) ∧ x.magnitude ≤ x.shortest.point := by
  obtain ⟨k, c, hc, hk, hfound⟩ := @searchGrids_eq x hx 16 (by omega)
  have hshortest : x.shortest = ⟨dropEndZeros (natText c), ((natText c).length : ℤ) + k⟩ := hfound
  obtain ⟨c', hc', hplace, hrounds⟩ := (x.nearestOnGrid_cases k).resolve_right fun h => by
    rw [hc] at h
    exact absurd h.1 (by simp)
  obtain rfl : c = c' := Option.some.inj (hc.symm.trans hc')
  obtain ⟨zeros, hzeros⟩ := exists_eq_dropEndZeros_append (natText c)
  rw [hshortest]
  refine ⟨?_, ?_, ?_, ?_⟩
  · rw [value_dropEndZeros]
    exact hrounds
  · intro hnil
    have hvalue := value_dropEndZeros c k
    rw [Decimal.value, hnil] at hvalue
    have hpos := hrounds.pos hx
    rw [← hvalue] at hpos
    simp [digitsValue] at hpos
  · intro d hd
    refine isDigit_of_mem_natText (n := c) ?_
    rw [hzeros]
    exact List.mem_append_left _ hd
  · have hlength := length_natText_of_below hx hk hplace
    dsimp only
    omega

end Double

end Switchboard
