import Switchboard.Proofs.Calendar.Date
import Switchboard.Proofs.Number.Numeral
import Switchboard.Calendar.Instant

/-!
# Written dates and times are read

Each part of a date and a time is written with a fixed number of digits, and the reader of the part
takes these digits and no more, so what is written is read part by part.  The reader of the zoned
form takes any date and time whose year has four digits (`Instant.readZoned?_append`), and those of
the other two forms take every year (`Instant.readLocal?_append`, `Instant.readDate?_append`), but
want the text to end there.
-/

namespace Switchboard

/-- The time of day exists, and so does its millisecond. -/
structure TimeOfDay.Exists (t : TimeOfDay) : Prop where
  valid : t.IsValid
  millis_lt : t.millis < 1000

namespace Instant

/-! ## Numbers of a fixed width -/

variable {width n : Nat}

theorem isDigit_of_mem_padded {c : Char} (h : c ∈ padded width n) : c.isDigit = true := by
  rcases List.mem_append.1 h with hzero | hdigit
  · rw [List.eq_of_mem_replicate hzero]
    decide
  · exact isDigit_of_mem_natText hdigit

theorem padded_ne_nil (width n : Nat) : padded width n ≠ [] := by
  rw [padded, ne_eq, List.append_eq_nil_iff, not_and]
  exact fun _ => natText_ne_nil n

theorem digitsValue_padded (width n : Nat) : digitsValue (padded width n) = n := by
  have hdigits : digitsValue (Nat.toDigits 10 n) = n := digitsValue_natText n
  rw [padded, digitsValue_append, digitsValue_replicate_zero, hdigits, Nat.zero_mul, Nat.zero_add]

theorem length_padded (hwidth : 0 < width) (h : n < 10 ^ width) :
    (padded width n).length = width := by
  have hlength := (Nat.length_toDigits_le_iff (b := 10) (by decide) hwidth).2 h
  rw [padded, List.length_append, List.length_replicate]
  omega

theorem startsWithDigit_padded (width n : Nat) (rest : List Char) :
    StartsWithDigit (padded width n ++ rest) :=
  startsWithDigit_append (padded_ne_nil width n) (fun _ => isDigit_of_mem_padded) rest

theorem takeWhile_take_padded (hwidth : 0 < width) (h : n < 10 ^ width) (rest : List Char) :
    ((padded width n ++ rest).take width).takeWhile Char.isDigit = padded width n := by
  rw [List.take_left' (length_padded hwidth h), List.takeWhile_eq_self_iff]
  exact fun _ => isDigit_of_mem_padded

theorem readExactly_padded (hwidth : 0 < width) (h : n < 10 ^ width) (rest : List Char) :
    readExactly width (padded width n ++ rest) = some (n, rest) := by
  have hlength := length_padded hwidth h
  rw [readExactly, takeWhile_take_padded hwidth h, if_pos hlength, digitsValue_padded,
    List.drop_left' hlength]

theorem readUpTo_padded (hwidth : 0 < width) (h : n < 10 ^ width) (rest : List Char) :
    readUpTo width (padded width n ++ rest) = some (n, rest) := by
  rw [readUpTo, takeWhile_take_padded hwidth h, if_neg (padded_ne_nil width n), digitsValue_padded,
    List.drop_left' rfl]

/-- Without a limit all digits are taken. -/
theorem readUpTo_length_padded (width n : Nat) {rest : List Char} (hrest : EndsDigits rest) :
    readUpTo (padded width n ++ rest).length (padded width n ++ rest) = some (n, rest) := by
  have hrun : ((padded width n ++ rest).take (padded width n ++ rest).length).takeWhile
      Char.isDigit = padded width n := by
    rw [List.take_length]
    exact digitRun_append (fun _ => isDigit_of_mem_padded) hrest
  rw [readUpTo, hrun, if_neg (padded_ne_nil width n), digitsValue_padded, List.drop_left' rfl]

theorem trimStart_of_startsWithDigit {cs : List Char} (h : StartsWithDigit cs) :
    Text.trimStart cs = cs := trimStart_text_append .none h

theorem readTwo_padded (h : n < 100) (rest : List Char) :
    readTwo (padded 2 n ++ rest) = some (n, rest) := by
  rw [readTwo, trimStart_of_startsWithDigit (startsWithDigit_padded 2 n rest),
    readUpTo_padded (by decide) h]

theorem readTwoExactly (h : n < 100) (rest : List Char) :
    readExactly 2 (padded 2 n ++ rest) = some (n, rest) := readExactly_padded (by decide) h rest

@[simp] theorem readChar_cons (c : Char) (rest : List Char) : readChar c (c :: rest) = some rest :=
  if_pos rfl

/-! ## Years, fractions and distances -/

theorem readYear_of_startsWithDigit {cs : List Char} (h : StartsWithDigit cs) :
    readYear cs = (readUpTo 4 cs).map fun (n, after) => ((n : Int), after) := by
  obtain ⟨c, hhead, hdigit⟩ := h
  obtain ⟨hplus, hminus, -⟩ := isDigit_cases hdigit
  rw [readYear, trimStart_of_startsWithDigit ⟨c, hhead, hdigit⟩]
  cases cs with
  | nil => simp at hhead
  | cons d rest =>
      obtain rfl : d = c := by simpa using hhead
      split
      · simp_all
      · simp_all
      · rfl

theorem readYear_yearText (year : Int) {rest : List Char} (hrest : EndsDigits rest) :
    readYear (yearText year ++ rest) = some (year, rest) := by
  unfold yearText
  split
  · rename_i hplain
    have hyear : ((year.toNat : Nat) : Int) = year := Int.toNat_of_nonneg hplain.1
    rw [readYear_of_startsWithDigit (startsWithDigit_padded 4 _ rest),
      readUpTo_padded (by decide) (by omega)]
    simp only [Option.map_some, hyear]
  · have hrun := readUpTo_length_padded 4 year.natAbs hrest
    by_cases hnegative : year < 0
    · have hyear : -((year.natAbs : Nat) : Int) = year := by omega
      have hread : readYear ('-' :: (padded 4 year.natAbs ++ rest)) =
          (readUpTo _ (padded 4 year.natAbs ++ rest)).map fun (n, after) => (-(n : Int), after) :=
        rfl
      rw [if_pos hnegative, List.cons_append, hread, hrun]
      simp only [Option.map_some, hyear]
    · have hyear : ((year.natAbs : Nat) : Int) = year := by omega
      have hread : readYear ('+' :: (padded 4 year.natAbs ++ rest)) =
          (readUpTo _ (padded 4 year.natAbs ++ rest)).map fun (n, after) => ((n : Int), after) :=
        rfl
      rw [if_neg hnegative, List.cons_append, hread, hrun]
      simp only [Option.map_some, hyear]

theorem readFraction_padded (h : n < 1000) {rest : List Char} (hrest : EndsDigits rest) :
    readFraction ('.' :: (padded 3 n ++ rest)) = some (n, rest) := by
  have hdigits : ∀ c ∈ padded 3 n, c.isDigit = true := fun _ => isDigit_of_mem_padded
  have hmillis : millisOf (padded 3 n) = n := by
    rw [millisOf, List.take_left' (length_padded (by decide) h), digitsValue_padded]
  rw [readFraction, digitRun_append hdigits hrest,
    afterDigits_append hdigits hrest, if_neg (padded_ne_nil 3 n), hmillis]

/-! ## Dates and times -/

/-- A date and a time of day as they are written, without the distance from UTC. -/
def civilText (d : Date) (t : TimeOfDay) : List Char := dateText d ++ 'T' :: timeText t

variable {d : Date} {t : TimeOfDay} {rest : List Char}

theorem lt_of_exists (hd : d.Exists) : d.month < 100 ∧ d.day < 100 := by
  obtain ⟨-, hmonth, -, hday⟩ := hd
  have hlength : Date.daysInMonth d.year d.month ≤ 31 := by
    unfold Date.daysInMonth
    split
    · split <;> decide
    · split <;> decide
  omega

theorem readCivilDate_dateText (hd : d.Exists) (rest : List Char) :
    readCivilDate (dateText d ++ rest) = some (d, rest) := by
  obtain ⟨hmonth, hday⟩ := lt_of_exists hd
  have hdash : ∀ cs, EndsDigits ('-' :: cs) := endsDigits_cons (by decide)
  simp only [readCivilDate, dateText, List.append_assoc, List.cons_append,
    readYear_yearText _ (hdash _), readChar_cons, readTwo_padded hmonth, readTwo_padded hday,
    Option.bind_eq_bind, Option.bind_some]

/-- A date and a time are read up to the end of the text. -/
theorem readLocal?_append (hd : d.Exists) (ht : t.Exists) (hrest : EndsDigits rest) :
    readLocal? (civilText d t ++ rest) = if rest = [] then ofParts? d t 0 else none := by
  obtain ⟨⟨hhour, hminute, hsecond⟩, hmillis⟩ := ht
  simp only [readLocal?, civilText, timeText, List.append_assoc, List.cons_append,
    readCivilDate_dateText hd, readChar_cons, readTwo_padded (show t.hour < 100 by omega),
    readTwo_padded (show t.minute < 100 by omega), readTwo_padded (show t.second < 100 by omega),
    readFraction_padded hmillis hrest, Option.bind_eq_bind, Option.bind_some]

/-- A date is read up to the end of the text. -/
theorem readDate?_append (hd : d.Exists) (rest : List Char) :
    readDate? (dateText d ++ rest) = if rest = [] then ofParts? d ⟨0, 0, 0, 0⟩ 0 else none := by
  simp only [readDate?, readCivilDate_dateText hd, Option.bind_eq_bind, Option.bind_some]

/-- What follows the date in the zoned form, after the mark that the time begins with. -/
def readZonedTime? (d : Date) (cs : List Char) : Option Instant := do
  let (hour, cs) ← readExactly 2 cs
  let cs ← readChar ':' cs
  let (minute, cs) ← readExactly 2 cs
  let cs ← readChar ':' cs
  let (second, cs) ← readExactly 2 cs
  let (millis, cs) ← readFraction cs
  let (offset, cs) ← readOffset cs
  if cs = [] then ofParts? d ⟨hour, minute, second, millis⟩ offset else none

/-- The zoned form is read as a date, a mark and a time. -/
theorem readZoned?_eq (cs : List Char) :
    readZoned? cs = (do
      let (year, cs) ← readExactly 4 cs
      let cs ← readChar '-' cs
      let (month, cs) ← readExactly 2 cs
      let cs ← readChar '-' cs
      let (day, cs) ← readExactly 2 cs
      match cs with
      | c :: rest =>
        if c = 'T' ∨ c = 't' ∨ c = ' ' then readZonedTime? ⟨year, month, day⟩ rest else none
      | [] => none) := rfl

theorem readZonedTime?_append (ht : t.Exists) (hrest : EndsDigits rest) :
    readZonedTime? d (timeText t ++ rest) =
      (readOffset rest).bind fun (offset, after) =>
        if after = [] then ofParts? d t offset else none := by
  obtain ⟨⟨hhour, hminute, hsecond⟩, hmillis⟩ := ht
  simp only [readZonedTime?, timeText, List.append_assoc, List.cons_append, readChar_cons,
    readTwoExactly (show t.hour < 100 by omega), readTwoExactly (show t.minute < 100 by omega),
    readTwoExactly (show t.second < 100 by omega), readFraction_padded hmillis hrest,
    Option.bind_eq_bind, Option.bind_some]

theorem readYearExactly (hyear : 0 ≤ d.year ∧ d.year ≤ 9999) (rest : List Char) :
    readExactly 4 (padded 4 d.year.toNat ++ rest) = some (d.year.toNat, rest) :=
  readExactly_padded (by decide) (by omega) rest

/-- Dates and times with a year of four digits are read, and after them the distance from UTC. -/
theorem readZoned?_append (hd : d.Exists) (hyear : 0 ≤ d.year ∧ d.year ≤ 9999) (ht : t.Exists)
    (hrest : EndsDigits rest) :
    readZoned? (civilText d t ++ rest) =
      (readOffset rest).bind fun (offset, after) =>
        if after = [] then ofParts? d t offset else none := by
  obtain ⟨hmonth, hday⟩ := lt_of_exists hd
  have htext : yearText d.year = padded 4 d.year.toNat := if_pos hyear
  have hreadYear := readYearExactly hyear
  have hd' : (⟨d.year.toNat, d.month, d.day⟩ : Date) = d := by
    rw [Int.toNat_of_nonneg hyear.1]
  rw [readZoned?_eq, civilText, dateText, htext]
  simp only [List.append_assoc, List.cons_append, hreadYear, readChar_cons, readTwoExactly hmonth,
    readTwoExactly hday, Option.bind_eq_bind, Option.bind_some, true_or, if_true, hd']
  exact readZonedTime?_append ht hrest

/-- A date with another year does not start with a digit. -/
theorem readZoned?_eq_none (hyear : ¬ (0 ≤ d.year ∧ d.year ≤ 9999)) (rest : List Char) :
    readZoned? (dateText d ++ rest) = none := by
  rw [dateText, yearText, if_neg hyear]
  split <;> rfl

/-- A date alone is not read as a date and a time. -/
theorem readZoned?_dateText (hd : d.Exists) : readZoned? (dateText d) = none := by
  by_cases hyear : 0 ≤ d.year ∧ d.year ≤ 9999
  · obtain ⟨hmonth, hday⟩ := lt_of_exists hd
    have htext : yearText d.year = padded 4 d.year.toNat := if_pos hyear
    have hreadYear := readYearExactly hyear
    have hreadDay := readTwoExactly hday []
    rw [List.append_nil] at hreadDay
    rw [readZoned?_eq, dateText, htext]
    simp only [List.append_assoc, List.cons_append, hreadYear, readChar_cons,
      readTwoExactly hmonth, hreadDay, Option.bind_eq_bind, Option.bind_some]
  · have hnone := readZoned?_eq_none hyear []
    rwa [List.append_nil] at hnone

theorem readLocal?_dateText (hd : d.Exists) : readLocal? (dateText d) = none := by
  have hread := readCivilDate_dateText hd []
  rw [List.append_nil] at hread
  simp only [readLocal?, hread, Option.bind_eq_bind, Option.bind_some]
  rfl

/-! ## Distances from UTC -/

/-- A distance from UTC in hours and minutes, behind UTC or ahead of it. -/
structure Offset where
  behind : Bool
  hours : Nat
  minutes : Nat
  hours_le : hours ≤ 23
  minutes_le : minutes ≤ 59

namespace Offset

/-- The distance in seconds. -/
def seconds (o : Offset) : Int :=
  if o.behind then -(o.hours * 3600 + o.minutes * 60 : Int) else o.hours * 3600 + o.minutes * 60

/-- The distance as it is written. -/
def text (o : Offset) : List Char :=
  (if o.behind then '-' else '+') :: padded 2 o.hours ++ ':' :: padded 2 o.minutes

theorem endsDigits_text (o : Offset) : EndsDigits o.text := by
  refine endsDigits_cons ?_ _
  split <;> decide

theorem readOffset_text (o : Offset) : readOffset o.text = some (o.seconds, []) := by
  obtain ⟨behind, hours, minutes, hhours, hminutes⟩ := o
  have hread := readTwoExactly (show minutes < 100 by omega) []
  rw [List.append_nil] at hread
  cases behind <;>
    simp [readOffset, text, seconds, readTwoExactly (show hours < 100 by omega), hread, hhours,
      hminutes]

end Offset

/-! ## What readers find -/

/-- The instant is the start of one of its milliseconds, or of those of a second number 60, which
follows a second number 59. -/
def IsProper (i : Instant) : Prop := i.millis < 1000 ∨ i.millis < 2000 ∧ i.seconds % 60 = 59

theorem millisOf_lt {ds : List Char} (h : ∀ c ∈ ds, c.isDigit = true) : millisOf ds < 1000 := by
  have hdigits : ∀ c ∈ (ds ++ ['0', '0', '0']).take 3, c.isDigit = true := by
    intro c hc
    rcases List.mem_append.1 (List.mem_of_mem_take hc) with hmem | hmem
    · exact h c hmem
    · obtain rfl : c = '0' := by simpa using hmem
      decide
  have hlength : ((ds ++ ['0', '0', '0']).take 3).length = 3 := by simp
  have hlt := digitsValue_lt hdigits
  rw [hlength] at hlt
  exact hlt

theorem millis_lt_of_readFraction {cs : List Char} {millis : Nat}
    (h : readFraction cs = some (millis, rest)) : millis < 1000 := by
  unfold readFraction at h
  split at h
  · split at h
    · simp at h
    · obtain ⟨rfl, -⟩ := Prod.mk.inj (Option.some.inj h)
      exact millisOf_lt fun c hc => List.mem_takeWhile_imp hc
  · obtain ⟨rfl, -⟩ := Prod.mk.inj (Option.some.inj h)
    decide

/-- Distances are whole minutes. -/
theorem mod_of_readOffset {cs : List Char} {offset : Int}
    (h : readOffset cs = some (offset, rest)) : offset % 60 = 0 := by
  unfold readOffset at h
  split at h
  · simp at h
  · split at h
    · obtain ⟨rfl, -⟩ := Prod.mk.inj (Option.some.inj h)
      rfl
    · split at h
      · simp only [Option.bind_eq_bind, Option.bind_eq_some_iff] at h
        obtain ⟨hours, -, -, -, minutes, -, h⟩ := h
        split at h
        · obtain ⟨rfl, -⟩ := Prod.mk.inj (Option.some.inj h)
          split <;> omega
        · simp at h
      · simp at h

theorem isProper_of_ofParts? {offset : Int} {i : Instant} (hmillis : t.millis < 1000)
    (hoffset : offset % 60 = 0) (h : ofParts? d t offset = some i) : i.IsProper := by
  unfold ofParts? at h
  split at h
  · obtain rfl := Option.some.inj h
    simp only [IsProper, ofCivil, secondsPerDay]
    split
    · right
      omega
    · left
      exact hmillis
  · simp at h

theorem isProper_of_readZoned? {cs : List Char} {i : Instant} (h : readZoned? cs = some i) :
    i.IsProper := by
  simp only [readZoned?_eq, Option.bind_eq_bind, Option.bind_eq_some_iff] at h
  obtain ⟨year, -, -, -, month, -, -, -, day, -, h⟩ := h
  split at h
  · split at h
    · simp only [readZonedTime?, Option.bind_eq_bind, Option.bind_eq_some_iff] at h
      obtain ⟨hour, -, -, -, minute, -, -, -, second, -, fraction, hfraction, offset, hoffset, h⟩ :=
        h
      split at h
      · exact isProper_of_ofParts? (millis_lt_of_readFraction hfraction)
          (mod_of_readOffset hoffset) h
      · simp at h
    · simp at h
  · simp at h

theorem isProper_of_readLocal? {cs : List Char} {i : Instant} (h : readLocal? cs = some i) :
    i.IsProper := by
  simp only [readLocal?, Option.bind_eq_bind, Option.bind_eq_some_iff] at h
  obtain ⟨date, -, -, -, hour, -, -, -, minute, -, -, -, second, -, fraction, hfraction, h⟩ := h
  split at h
  · exact isProper_of_ofParts? (millis_lt_of_readFraction hfraction) rfl h
  · simp at h

theorem isProper_of_readDate? {cs : List Char} {i : Instant} (h : readDate? cs = some i) :
    i.IsProper := by
  simp only [readDate?, Option.bind_eq_bind, Option.bind_eq_some_iff] at h
  obtain ⟨date, -, h⟩ := h
  split at h
  · exact isProper_of_ofParts? (show 0 < 1000 by decide) rfl h
  · simp at h

/-- The forms are tried one after the other. -/
theorem read?_eq (cs : List Char) :
    read? cs = (readZoned? (Text.trim cs)).or
      ((readLocal? (Text.trim cs)).or (readDate? (Text.trim cs))) := by
  unfold read?
  simp only [Option.orElse_eq_orElse, Option.orElse_eq_or]

theorem isProper_of_read? {cs : List Char} {i : Instant} (h : read? cs = some i) : i.IsProper := by
  rw [read?_eq, Option.or_eq_some_iff, Option.or_eq_some_iff] at h
  rcases h with hzoned | ⟨-, hlocal | ⟨-, hdate⟩⟩
  · exact isProper_of_readZoned? hzoned
  · exact isProper_of_readLocal? hlocal
  · exact isProper_of_readDate? hdate

end Instant

end Switchboard
