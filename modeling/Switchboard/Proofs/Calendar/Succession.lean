import Switchboard.Proofs.Calendar.Date

/-!
# One date after another

The conversions between days and dates are those of the calendar.  No date that exists is left
out (`Date.ofDays_toDays`), and the date of the next day is the next date (`Date.ofDays_succ`): the
first of the next month stands behind the last day of a month (`Date.next`).  Nothing else gives
dates to the days in this way from 1970-01-01 on (`Date.eq_ofDays_iff`).
-/

namespace Switchboard

namespace Date

/-! ## Dates by their days -/

/-- Every date that exists is that of a day of a year that starts in March. -/
theorem exists_eq_ofMarch {d : Date} (h : d.Exists) :
    ∃ year day : Int, (0 ≤ day ∧ day ≤ 365) ∧ (day = 365 → isLeapYear (year + 1) = true) ∧
      ofMarch year day = d := by
  obtain ⟨y, m, n⟩ := d
  obtain ⟨hm, hm', hn, hn'⟩ := h
  simp only at hm hm' hn hn'
  obtain ⟨k, hk⟩ : ∃ k, k = (m + 9) % 12 := ⟨_, rfl⟩
  obtain ⟨year, hyear⟩ : ∃ year, year = if k < 10 then y else y - 1 := ⟨_, rfl⟩
  obtain ⟨day, hday⟩ : ∃ day : Int, day = (153 * (k : Int) + 2) / 5 + n - 1 := ⟨_, rfl⟩
  have hmonth : m = (k + 2) % 12 + 1 := by omega
  have hlength : (n : Int) ≤ (153 * ((k : Int) + 1) + 2) / 5 - (153 * (k : Int) + 2) / 5 ∧
      day ≤ 365 ∧ (day = 365 → isLeapYear (year + 1) = true) := by
    by_cases hfebruary : k = 11
    · have htwo : m = 2 := by omega
      have hnext : year + 1 = y := by omega
      rw [htwo, daysInMonth, if_pos rfl] at hn'
      rw [hnext]
      split at hn'
      · rename_i hleap
        exact ⟨by omega, by omega, fun _ => hleap⟩
      · exact ⟨by omega, by omega, by omega⟩
    · have hdays := daysInMonth_eq (k := k) (by omega) y
      rw [← hmonth] at hdays
      exact ⟨by omega, by omega, by omega⟩
  refine ⟨year, day, ⟨by omega, hlength.2.1⟩, hlength.2.2, ?_⟩
  rw [ofMarch_eq (k := k) (by omega) (by omega), ← hmonth]
  congr 1
  · split <;> omega
  · omega

/-- The day of the era that a day of a year is. -/
theorem ofDays_toDays_ofMarch {year day : Int} (h : 0 ≤ day ∧ day ≤ 365)
    (hleap : day = 365 → isLeapYear (year + 1) = true) :
    ofDays (ofMarch year day).toDays = ofMarch year day := by
  have hlast : day = 365 → year % 4 = 3 ∧ (year % 100 / 4 = 24 → year % 400 / 100 = 3) := by
    intro hday
    have hyear := (isLeapYear_iff (year + 1)).1 (hleap hday)
    omega
  obtain ⟨e, he⟩ : ∃ e : EraDay, e = ⟨year % 400 / 100, year % 100 / 4, year % 4, day,
    by omega, by omega, by omega, h, hlast⟩ := ⟨_, rfl⟩
  have hday : e.day = day := by rw [he]
  have hyear : e.yearOfEra + 400 * (year / 400) = year := by
    rw [he]
    simp only [EraDay.yearOfEra]
    omega
  have hnumber : (ofMarch year day).toDays = 146097 * (year / 400) + e.number - 719468 := by
    rw [toDays_ofMarch year h, he]
    simp only [EraDay.number, marchFirst]
    omega
  rw [hnumber, ofDays_eq, hyear, hday]

theorem ofDays_toDays {d : Date} (h : d.Exists) : ofDays d.toDays = d := by
  obtain ⟨year, day, hrange, hleap, rfl⟩ := exists_eq_ofMarch h
  exact ofDays_toDays_ofMarch hrange hleap

/-! ## The next date -/

/-- The date after a date: the next day of the month, or the first of the next month. -/
def next (d : Date) : Date :=
  if d.day < daysInMonth d.year d.month then { d with day := d.day + 1 }
  else if d.month < 12 then ⟨d.year, d.month + 1, 1⟩
  else ⟨d.year + 1, 1, 1⟩

theorem daysInMonth_pos (year : Int) (month : Nat) : 1 ≤ daysInMonth year month := by
  unfold daysInMonth
  split
  · split <;> decide
  · split <;> decide

theorem exists_next {d : Date} (h : d.Exists) : d.next.Exists := by
  obtain ⟨hmonth, hmonth', hday, hday'⟩ := h
  unfold next
  split
  · exact ⟨hmonth, hmonth', by simp only; omega, by simp only; omega⟩
  · split
    · exact ⟨by simp only; omega, by simp only; omega, Nat.le_refl 1, daysInMonth_pos _ _⟩
    · exact ⟨Nat.le_refl 1, by simp only; omega, Nat.le_refl 1, daysInMonth_pos _ _⟩

/-- The first of the next month follows the last day of a month. -/
theorem next_of_last {year : Int} {k n : Nat} (hk : k ≤ 11)
    (hlast : ¬ n < daysInMonth (if k < 10 then year else year + 1) ((k + 2) % 12 + 1)) :
    next ⟨if k < 10 then year else year + 1, (k + 2) % 12 + 1, n⟩ =
      if k = 11 then ⟨year + 1, 3, 1⟩
      else ⟨if k + 1 < 10 then year else year + 1, (k + 1 + 2) % 12 + 1, 1⟩ := by
  rw [next, if_neg hlast]
  interval_cases k <;> rfl

/-- A year that starts in March is as long as the February at its end makes it. -/
theorem marchFirst_succ (year : Int) :
    marchFirst (year + 1) = marchFirst year + 337 + daysInMonth (year + 1) 2 := by
  simp only [marchFirst]
  rw [daysInMonth, if_pos rfl]
  split
  · rename_i hleap
    rw [isLeapYear_iff] at hleap
    omega
  · rename_i hleap
    rw [isLeapYear_iff] at hleap
    omega

theorem toDays_next {d : Date} (h : d.Exists) : d.next.toDays = d.toDays + 1 := by
  obtain ⟨year, day, hrange, hleap, rfl⟩ := exists_eq_ofMarch h
  obtain ⟨k, hk, hday, hbefore, hafter⟩ := exists_month hrange
  rw [ofMarch_eq hk hday] at h ⊢
  obtain ⟨n, hn⟩ : ∃ n, n = (day - (153 * (k : Int) + 2) / 5 + 1).toNat := ⟨_, rfl⟩
  rw [← hn] at h ⊢
  have hlength : n ≤ daysInMonth (if k < 10 then year else year + 1) ((k + 2) % 12 + 1) := h.2.2.2
  rw [toDays_eq year hk]
  by_cases hshort : n < daysInMonth (if k < 10 then year else year + 1) ((k + 2) % 12 + 1)
  · have hnext : next ⟨if k < 10 then year else year + 1, (k + 2) % 12 + 1, n⟩ =
        ⟨if k < 10 then year else year + 1, (k + 2) % 12 + 1, n + 1⟩ := if_pos hshort
    rw [hnext, toDays_eq year hk]
    omega
  · rw [next_of_last hk hshort]
    split
    · rename_i hfebruary
      subst hfebruary
      have hmarch := toDays_eq (year + 1) (k := 0) (by decide) 1
      have hnext := marchFirst_succ year
      have htwo : n = daysInMonth (year + 1) 2 := Nat.le_antisymm hlength (Nat.le_of_not_lt hshort)
      have hthree : toDays ⟨year + 1, 3, 1⟩ = marchFirst (year + 1) := by simpa using hmarch
      rw [hthree, hnext, ← htwo]
      omega
    · have hdays := daysInMonth_eq (k := k) (by omega) (if k < 10 then year else year + 1)
      rw [toDays_eq year (by omega)]
      omega

/-- The date of the next day is the next date. -/
theorem ofDays_succ (days : Int) : ofDays (days + 1) = (ofDays days).next := by
  rw [← ofDays_toDays (exists_next (exists_ofDays days)), toDays_next (exists_ofDays days),
    toDays_ofDays]

/-- **The calendar is told by its next date**: the dates of the days are those that exist, begin
with 1970-01-01 and follow one after another. -/
theorem eq_ofDays_iff {f : Int → Date} :
    f = ofDays ↔ (∀ days, (f days).Exists) ∧ f 0 = ⟨1970, 1, 1⟩ ∧
      ∀ days, f (days + 1) = (f days).next := by
  constructor
  · rintro rfl
    exact ⟨exists_ofDays, by decide, ofDays_succ⟩
  · rintro ⟨hexists, hzero, hnext⟩
    have hstep : ∀ days, (f (days + 1)).toDays = (f days).toDays + 1 := by
      intro days
      rw [hnext, toDays_next (hexists days)]
    have hdays : ∀ days, (f days).toDays = days := by
      intro days
      induction days using Int.induction_on with
      | zero =>
          rw [hzero]
          decide
      | succ i ih => rw [hstep, ih]
      | pred i ih =>
          have hback := hstep (-(i : Int) - 1)
          rw [Int.sub_add_cancel, ih] at hback
          omega
    funext days
    rw [← ofDays_toDays (hexists days), hdays]

end Date

end Switchboard
