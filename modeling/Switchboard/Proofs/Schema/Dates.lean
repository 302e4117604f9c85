import Switchboard.Proofs.Calendar.Instant
import Switchboard.Schema.Shape

/-!
# Dates in shaped data

A value that names a point in time becomes the text of that instant.  All ways to name it come to
the one text (`coerceDate_spellings`): the number of its milliseconds, its date and time in UTC or
at any distance from UTC, and the date alone if it is a midnight.

The text names the instant again, so that a date that has been shaped can be shaped once more, but
only in the years from 0000 to 9999 (`coerceDate_again_iff`).  The years before and after are
written with a sign, and no form takes a sign in front and a `Z` at the end.
-/

namespace Switchboard

namespace Instant

/-- The instant that a value names. -/
def ofJson? : Json → Option Instant
  | .string s => read? s.toList
  | .number (.integer n) => ofMillis? n
  | .number (.double x) => ofMillis? x.truncate
  | _ => none

theorem isProper_of_ofMillis? {n : Int} {i : Instant} (h : ofMillis? n = some i) : i.IsProper := by
  unfold ofMillis? checked at h
  split at h
  · obtain rfl := Option.some.inj h
    left
    simp only
    omega
  · simp at h

theorem isProper_of_ofJson? {value : Json} {i : Instant} (h : ofJson? value = some i) :
    i.IsProper := by
  unfold ofJson? at h
  split at h
  · exact isProper_of_read? h
  · exact isProper_of_ofMillis? h
  · exact isProper_of_ofMillis? h
  · simp at h

end Instant

open Instant

theorem coerceDate_eq (value : Json) :
    coerceDate value =
      match ofJson? value with
      | some i => .string (String.ofList i.text)
      | none => .null := by
  cases value with
  | number n => cases n <;> rfl
  | null | bool | string | array | object => rfl

theorem coerceDate_of_read? {cs : List Char} {i : Instant} (h : read? cs = some i) :
    coerceDate (.string (String.ofList cs)) = .string (String.ofList i.text) := by
  rw [coerceDate_eq, ofJson?, String.toList_ofList, h]

theorem exists_of_coerceDate {value : Json} {s : String} (h : coerceDate value = .string s) :
    ∃ i, ofJson? value = some i ∧ s = String.ofList i.text := by
  rw [coerceDate_eq] at h
  split at h
  · rename_i i hi
    exact ⟨i, hi, (Json.string.inj h).symm⟩
  · simp at h

/-- The text of an instant becomes itself, or nothing. -/
theorem coerceDate_text {i : Instant} (h : i.IsProper) :
    coerceDate (.string (String.ofList i.text)) =
      if i.HasPlainYear then .string (String.ofList i.text) else .null := by
  rw [coerceDate_eq, ofJson?, String.toList_ofList, read?_text h]
  by_cases hyear : i.HasPlainYear
  · rw [if_pos hyear, if_pos hyear]
  · rw [if_neg hyear, if_neg hyear]

/--
**Dates are read again** exactly in the years from 0000 to 9999: a value that becomes a text names
an instant, and the text becomes itself if the instant lies in these years, and `null` if not.
-/
theorem coerceDate_again_iff {value : Json} {s : String} (h : coerceDate value = .string s) :
    ∃ i, ofJson? value = some i ∧ s = String.ofList i.text ∧
      (coerceDate (.string s) = .string s ↔ i.HasPlainYear) ∧
      (¬ i.HasPlainYear → coerceDate (.string s) = .null) := by
  obtain ⟨i, hi, rfl⟩ := exists_of_coerceDate h
  have htext := coerceDate_text (isProper_of_ofJson? hi)
  refine ⟨i, hi, rfl, ?_, ?_⟩
  · by_cases hyear : i.HasPlainYear
    · simp [htext, hyear]
    · simp [htext, hyear]
  · intro hyear
    rw [htext, if_neg hyear]

/-- A leap second, given at a distance of an hour from UTC, is read again. -/
theorem coerceDate_leap_second_again :
    coerceDate (.string "2017-01-01T00:59:60.5+01:00") = .string "2016-12-31T23:59:60.500Z" ∧
      coerceDate (.string "2016-12-31T23:59:60.500Z") = .string "2016-12-31T23:59:60.500Z" := by
  have hread : ofJson? (.string "2017-01-01T00:59:60.5+01:00") = some ⟨1483228799, 1500⟩ := by
    show read? "2017-01-01T00:59:60.5+01:00".toList = _
    decide
  have hfirst : coerceDate (.string "2017-01-01T00:59:60.5+01:00") =
      .string "2016-12-31T23:59:60.500Z" := by
    rw [coerceDate_eq, hread]
    rfl
  obtain ⟨i, hi, -, hagain, -⟩ := coerceDate_again_iff hfirst
  obtain rfl := Option.some.inj (hread.symm.trans hi)
  exact ⟨hfirst, hagain.2 (by decide)⟩

/-- The first millisecond of the year 10000 becomes a text that is no date. -/
theorem coerceDate_year_10000_lost :
    ¬ ∀ (value : Json) (s : String), coerceDate value = .string s →
      coerceDate (.string s) = .string s := by
  intro hagain
  have hfirst : coerceDate (.ofInt 253402300800000) = .string "+10000-01-01T00:00:00.000Z" := by rfl
  have hsecond : coerceDate (.string "+10000-01-01T00:00:00.000Z") = .null := by rfl
  have hsame := hagain _ _ hfirst
  rw [hsecond] at hsame
  exact absurd hsame (by simp)

/--
**All spellings of an instant come to one text**: an instant to the millisecond in a year from 0000
to 9999 has a date and a time of day that exist, and its text is made of them.  The number of its
milliseconds becomes this text, and so does, with blanks around it, its date and time in UTC, its
date and time at any distance from UTC at which the year is from 0000 to 9999 too, and its date
alone if it is a midnight.
-/
theorem coerceDate_spellings {i : Instant} (hmillis : i.millis < 1000) (hyear : i.HasPlainYear) :
    (i.date.Exists ∧ i.time.Exists ∧ ofCivil i.date i.time = i ∧
      i.text = padded 4 i.date.year.toNat ++ '-' :: padded 2 i.date.month
        ++ '-' :: padded 2 i.date.day ++ 'T' :: timeText i.time ++ ['Z']) ∧
    coerceDate (.ofInt (i.seconds * 1000 + i.millis)) = .string (String.ofList i.text) ∧
    ∀ before after : List Char, Text.Blanks before → Text.Blanks after →
      coerceDate (.string (String.ofList (before ++ i.localText ++ after))) =
        .string (String.ofList i.text) ∧
      (∀ o : Offset, (i.ahead o).HasPlainYear →
        coerceDate (.string (String.ofList (before ++ i.zonedText o ++ after))) =
          .string (String.ofList i.text)) ∧
      (i.seconds % secondsPerDay = 0 → i.millis = 0 →
        coerceDate (.string (String.ofList (before ++ dateText i.date ++ after))) =
          .string (String.ofList i.text)) := by
  have hproper : i.IsProper := .inl hmillis
  have hdate : dateText i.date = padded 4 i.date.year.toNat ++ '-' :: padded 2 i.date.month
      ++ '-' :: padded 2 i.date.day := by
    have hplain : yearText i.date.year = padded 4 i.date.year.toNat := if_pos hyear
    rw [dateText, hplain]
  refine ⟨⟨i.exists_date, exists_time hproper, ofCivil_date_time hproper, ?_⟩, ?_, ?_⟩
  · rw [text, hdate]
  · rw [coerceDate_eq, Json.ofInt, ofJson?, ofMillis?_eq hmillis hyear]
  · intro before after hbefore hafter
    refine ⟨coerceDate_of_read? (read?_localText hbefore hafter hproper hyear), ?_, ?_⟩
    · intro o hlocal
      exact coerceDate_of_read? (read?_zonedText hbefore hafter hmillis o hlocal)
    · intro hmidnight hzero
      exact coerceDate_of_read? (read?_dateText hbefore hafter hyear hmidnight hzero)

/-- A minute before the leap day of the year 2000 ends in UTC, it is March an hour ahead of it.  The
midnight after it has a date alone. -/
theorem coerceDate_leap_day_spellings :
    (coerceDate (.ofInt 951868740250) = .string "2000-02-29T23:59:00.250Z" ∧
      coerceDate (.string " 2000-02-29T23:59:00.250\n") = .string "2000-02-29T23:59:00.250Z" ∧
      coerceDate (.string "2000-03-01T00:59:00.250+01:00") =
        .string "2000-02-29T23:59:00.250Z") ∧
      coerceDate (.string "2000-03-01") = .string "2000-03-01T00:00:00.000Z" := by
  have hspace : Text.Blanks [' '] := by simp [Text.Blanks, Text.isBlank]
  have hline : Text.Blanks ['\n'] := by simp [Text.Blanks, Text.isBlank]
  constructor
  · have htext : text ⟨951868740, 250⟩ = "2000-02-29T23:59:00.250Z".toList := by decide
    have hlocal : [' '] ++ localText ⟨951868740, 250⟩ ++ ['\n'] =
        " 2000-02-29T23:59:00.250\n".toList := by decide
    let hour : Offset := ⟨false, 1, 0, by decide, by decide⟩
    have hzoned : [] ++ zonedText ⟨951868740, 250⟩ hour ++ [] =
        "2000-03-01T00:59:00.250+01:00".toList := by decide
    obtain ⟨-, hnumber, hstrings⟩ :=
      coerceDate_spellings (i := ⟨951868740, 250⟩) (by decide) (by decide)
    have hblank := (hstrings _ _ hspace hline).1
    have hahead := (hstrings _ _ .nil .nil).2.1 hour (by decide)
    rw [htext, String.ofList_toList] at hnumber
    rw [htext, hlocal, String.ofList_toList, String.ofList_toList] at hblank
    rw [htext, hzoned, String.ofList_toList, String.ofList_toList] at hahead
    exact ⟨hnumber, hblank, hahead⟩
  · have htext : text ⟨951868800, 0⟩ = "2000-03-01T00:00:00.000Z".toList := by decide
    have hdate : [] ++ dateText (date ⟨951868800, 0⟩) ++ [] = "2000-03-01".toList := by decide
    obtain ⟨-, -, hstrings⟩ := coerceDate_spellings (i := ⟨951868800, 0⟩) (by decide) (by decide)
    have hmidnight := (hstrings _ _ .nil .nil).2.2 (by decide) rfl
    rwa [htext, hdate, String.ofList_toList, String.ofList_toList] at hmidnight

end Switchboard
