import Mathlib.Tactic.IntervalCases
import Switchboard.Calendar.Date

/-!
# Days and dates

The date of a day exists, and the day of that date is the day again (`Date.exists_ofDays`,
`Date.toDays_ofDays`), which is what reading a date back from its text rests on.

Both conversions go through years that start in March.  In such a year the number of the day gives
the month and the day of the month, whether or not it is a leap year (`Date.ofMarch`).  Counted from
an era of 400 years on, the centuries, the groups of four years and the years are all of one length,
but for the last of them (`EraDay`).
-/

namespace Switchboard

/-- A day of an era of 400 years that start in March: its century, the group of four years in the
century, the year in the group, and the day in the year, each counted from 0.  The years with a day
number 365 are the last of each group, unless the group is the last of the first three centuries. -/
structure EraDay where
  century : Int
  group : Int
  year : Int
  day : Int
  century_range : 0 ≤ century ∧ century ≤ 3
  group_range : 0 ≤ group ∧ group ≤ 24
  year_range : 0 ≤ year ∧ year ≤ 3
  day_range : 0 ≤ day ∧ day ≤ 365
  leap : day = 365 → year = 3 ∧ (group = 24 → century = 3)

namespace EraDay

/-- The number of the day in the era. -/
def number (e : EraDay) : Int := 36524 * e.century + 1461 * e.group + 365 * e.year + e.day

/-- The number of the year in the era. -/
def yearOfEra (e : EraDay) : Int := 100 * e.century + 4 * e.group + e.year

theorem number_range (e : EraDay) : 0 ≤ e.number ∧ e.number < 146097 := by
  obtain ⟨c, g, y, d, hc, hg, hy, hd, hleap⟩ := e
  simp only [number]
  omega

/-- Every number of a day is that of some day. -/
theorem exists_number_eq {n : Int} (h : 0 ≤ n ∧ n < 146097) : ∃ e : EraDay, e.number = n := by
  obtain ⟨c, hc⟩ : ∃ c, c = min (n / 36524) 3 := ⟨_, rfl⟩
  obtain ⟨r, hr⟩ : ∃ r, r = n - 36524 * c := ⟨_, rfl⟩
  obtain ⟨y, hy⟩ : ∃ y, y = min (r % 1461 / 365) 3 := ⟨_, rfl⟩
  refine ⟨⟨c, r / 1461, y, r % 1461 - 365 * y, ?_, ?_, ?_, ?_, ?_⟩, ?_⟩
  · omega
  · omega
  · omega
  · omega
  · omega
  · simp only [number]
    omega

/-- The year of a day, as `Date.ofDays` finds it. -/
theorem yearOfEra_eq (e : EraDay) :
    (e.number - e.number / 1460 + e.number / 36524 - e.number / 146096) / 365 = e.yearOfEra := by
  obtain ⟨n, hn⟩ : ∃ n, n = e.number := ⟨_, rfl⟩
  rw [← hn]
  obtain ⟨c, g, y, d, hc, hg, hy, hd, hleap⟩ := e
  simp only [number] at hn
  simp only [yearOfEra]
  by_cases hlast : n = 146096
  · have hend : c = 3 ∧ g = 24 ∧ y = 3 := by omega
    omega
  · have hcentury : n / 36524 = c := by omega
    have hera : n / 146096 = 0 := by omega
    have hgroup : n / 1460 = 25 * c + g + (24 * c + g + 365 * y + d) / 1460 := by omega
    omega

/-- The day in the year, as `Date.ofDays` finds it. -/
theorem day_eq (e : EraDay) :
    e.number - (365 * e.yearOfEra + e.yearOfEra / 4 - e.yearOfEra / 100) = e.day := by
  obtain ⟨c, g, y, d, hc, hg, hy, hd, hleap⟩ := e
  simp only [number, yearOfEra]
  omega

end EraDay

namespace Date

/-- The month and the day are those of some day of the year. -/
def Exists (d : Date) : Prop :=
  1 ≤ d.month ∧ d.month ≤ 12 ∧ 1 ≤ d.day ∧ d.day ≤ daysInMonth d.year d.month

/-- The date of a day, counted from 0, of the year that starts in March of the given one. -/
def ofMarch (year day : Int) : Date :=
  let month := (5 * day + 2) / 153
  let dayOfMonth := day - (153 * month + 2) / 5 + 1
  if month < 10 then ⟨year, (month + 3).toNat, dayOfMonth.toNat⟩
  else ⟨year + 1, (month - 9).toNat, dayOfMonth.toNat⟩

theorem ofDays_eq (era : Int) (e : EraDay) :
    ofDays (146097 * era + e.number - 719468) = ofMarch (e.yearOfEra + 400 * era) e.day := by
  have hrange := e.number_range
  have hera : (146097 * era + e.number - 719468 + 719468) / 146097 = era := by omega
  have hnumber : (146097 * era + e.number - 719468 + 719468) % 146097 = e.number := by omega
  simp only [ofDays, ofMarch, hera, hnumber, e.yearOfEra_eq, e.day_eq, Int.mul_comm 400 era]

/-- The year has a day more if it is the last of four, but not of a century, unless of an era. -/
theorem isLeapYear_iff (year : Int) :
    isLeapYear year = true ↔ year % 4 = 0 ∧ (year % 100 = 0 → year % 400 = 0) := by
  simp only [isLeapYear, Bool.and_eq_true, beq_iff_eq, Bool.or_eq_true, bne_iff_ne]
  omega

/-- The days from 1970-01-01 to the first of March of a year. -/
def marchFirst (year : Int) : Int := 365 * year + year / 4 - year / 100 + year / 400 - 719468

/-- The days of a date, by the month counted from March on. -/
theorem toDays_eq (year : Int) {k : Nat} (hk : k ≤ 11) (day : Nat) :
    toDays ⟨if k < 10 then year else year + 1, (k + 2) % 12 + 1, day⟩ =
      marchFirst year + (153 * (k : Int) + 2) / 5 + (day - 1) := by
  have hindex : ((((k + 2) % 12 + 1 : Nat) : Int) + 9) % 12 = k := by omega
  simp only [toDays, marchFirst, hindex]
  by_cases hearly : k < 10
  · rw [if_pos hearly, if_neg (by omega)]
    omega
  · rw [if_neg hearly, if_pos (by omega), Int.add_sub_cancel]
    omega

/-- All months but February, counted from March on, have as many days as `ofMarch` gives them. -/
theorem daysInMonth_eq {k : Nat} (h : k ≤ 10) (year : Int) :
    (daysInMonth year ((k + 2) % 12 + 1) : Int) =
      (153 * ((k : Int) + 1) + 2) / 5 - (153 * (k : Int) + 2) / 5 := by
  interval_cases k <;> simp [daysInMonth]

/-- A day of a year by its month, counted from March on, and the day of that month. -/
theorem ofMarch_eq {year day : Int} {k : Nat} (hk : k ≤ 11) (hday : k = (5 * day + 2) / 153) :
    ofMarch year day = ⟨if k < 10 then year else year + 1, (k + 2) % 12 + 1,
      (day - (153 * (k : Int) + 2) / 5 + 1).toNat⟩ := by
  simp only [ofMarch, ← hday]
  by_cases hearly : k < 10
  · rw [if_pos (by omega), if_pos hearly]
    congr 1
    omega
  · rw [if_neg (by omega), if_neg hearly]
    congr 1
    omega

/-- The month in which a day of a year lies, counted from March on. -/
theorem exists_month {day : Int} (h : 0 ≤ day ∧ day ≤ 365) :
    ∃ k : Nat, k ≤ 11 ∧ (k : Int) = (5 * day + 2) / 153 ∧ (153 * (k : Int) + 2) / 5 ≤ day ∧
      day < (153 * ((k : Int) + 1) + 2) / 5 := by
  obtain ⟨k, hk⟩ := Int.eq_ofNat_of_zero_le (show 0 ≤ (5 * day + 2) / 153 by omega)
  exact ⟨k, by omega, by omega, by omega, by omega⟩

theorem toDays_ofMarch (year : Int) {day : Int} (h : 0 ≤ day ∧ day ≤ 365) :
    (ofMarch year day).toDays = marchFirst year + day := by
  obtain ⟨k, hk, hday, hbefore, -⟩ := exists_month h
  rw [ofMarch_eq hk hday, toDays_eq year hk]
  omega

theorem exists_ofMarch {year day : Int} (h : 0 ≤ day ∧ day ≤ 365)
    (hleap : day = 365 → isLeapYear (year + 1) = true) : (ofMarch year day).Exists := by
  obtain ⟨k, hk, hday, hbefore, hafter⟩ := exists_month h
  have hlength : (day - (153 * (k : Int) + 2) / 5 + 1).toNat ≤
      daysInMonth (if k < 10 then year else year + 1) ((k + 2) % 12 + 1) := by
    by_cases hfebruary : k = 11
    · subst hfebruary
      rw [if_neg (by decide), daysInMonth, if_pos rfl]
      split
      · omega
      · have hshort : day ≠ 365 := fun hlast => by simp_all
        omega
    · have hdays := daysInMonth_eq (k := k) (by omega) (if k < 10 then year else year + 1)
      omega
  rw [ofMarch_eq hk hday]
  refine ⟨?_, ?_, ?_, hlength⟩
  · simp only
    omega
  · simp only
    omega
  · simp only
    omega

/-! ## Days and dates -/

/-- A day is some day of some era. -/
theorem exists_eraDay (days : Int) :
    ∃ (era : Int) (e : EraDay), days = 146097 * era + e.number - 719468 := by
  obtain ⟨e, he⟩ := EraDay.exists_number_eq (n := (days + 719468) % 146097) (by omega)
  exact ⟨(days + 719468) / 146097, e, by omega⟩

theorem exists_ofDays (days : Int) : (ofDays days).Exists := by
  obtain ⟨era, e, rfl⟩ := exists_eraDay days
  rw [ofDays_eq]
  refine exists_ofMarch e.day_range fun hlast => ?_
  obtain ⟨hyear, hcentury⟩ := e.leap hlast
  have hgroup := e.group_range
  have hrange := e.century_range
  rw [isLeapYear_iff]
  simp only [EraDay.yearOfEra]
  omega

theorem toDays_ofDays (days : Int) : (ofDays days).toDays = days := by
  obtain ⟨era, e, rfl⟩ := exists_eraDay days
  have hcentury := e.century_range
  have hgroup := e.group_range
  have hyear := e.year_range
  rw [ofDays_eq, toDays_ofMarch _ e.day_range]
  simp only [EraDay.yearOfEra, EraDay.number, marchFirst]
  omega

end Date

end Switchboard
