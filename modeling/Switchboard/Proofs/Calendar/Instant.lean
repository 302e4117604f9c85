import Switchboard.Proofs.Calendar.Reading
import Switchboard.Proofs.Text.Blank

/-!
# Instants and their texts

An instant has a date and a time of day in UTC, and they make it up again
(`Instant.ofCivil_date_time`).  Its text is read back as the instant if its year is from 0000 to
9999, and is not read at all if not: such a year has a sign, which the zoned form does not take, and
the other forms do not take the `Z` at the end (`Instant.read?_text`).

Blanks around a text do not matter (`Instant.read?_surrounded`).
-/

namespace Switchboard

namespace Instant

variable {i : Instant}

/-! ## The characters of a text -/

theorem unblank_padded (width n : Nat) : Text.Unblank (padded width n) :=
  fun _ hc => (isDigit_cases (isDigit_of_mem_padded hc)).2.2.2

theorem unblank_dateText (d : Date) : Text.Unblank (dateText d) := by
  have hyear : Text.Unblank (yearText d.year) := by
    unfold yearText
    split
    · exact unblank_padded 4 _
    · split
      · exact (unblank_padded 4 _).cons (by decide)
      · exact (unblank_padded 4 _).cons (by decide)
  exact (hyear.append ((unblank_padded 2 _).cons (by decide))).append
    ((unblank_padded 2 _).cons (by decide))

theorem unblank_civilText (d : Date) (t : TimeOfDay) : Text.Unblank (civilText d t) := by
  refine (unblank_dateText d).append (.cons (by decide) ?_)
  exact (((unblank_padded 2 _).append ((unblank_padded 2 _).cons (by decide))).append
    ((unblank_padded 2 _).cons (by decide))).append ((unblank_padded 3 _).cons (by decide))

theorem Offset.unblank_text (o : Offset) : Text.Unblank o.text := by
  refine .append (.cons ?_ (unblank_padded 2 _)) (.cons (by decide) (unblank_padded 2 _))
  split <;> decide

/-- Blanks around a text are passed over. -/
theorem read?_surrounded {before cs after : List Char} (hbefore : Text.Blanks before)
    (hcs : Text.Unblank cs) (hafter : Text.Blanks after) :
    read? (before ++ cs ++ after) =
      (readZoned? cs).or ((readLocal? cs).or (readDate? cs)) := by
  rw [read?_eq, Text.trim_surrounded hbefore hcs hafter]

/-! ## Date and time of an instant -/

theorem exists_date (i : Instant) : i.date.Exists := Date.exists_ofDays _

theorem exists_time (h : i.IsProper) : i.time.Exists := by
  obtain ⟨seconds, millis⟩ := i
  simp only [IsProper] at h
  refine ⟨⟨?_, ?_, ?_⟩, ?_⟩
  · simp only [time, secondsPerDay]
    omega
  · simp only [time, secondsPerDay]
    omega
  · simp only [time, secondsPerDay]
    split <;> omega
  · simp only [time]
    omega

/-- The instant is made of its date and its time of day. -/
theorem ofCivil_date_time (h : i.IsProper) : ofCivil i.date i.time = i := by
  obtain ⟨seconds, millis⟩ := i
  simp only [IsProper] at h
  have hdays : (date ⟨seconds, millis⟩).toDays = seconds / 86400 := Date.toDays_ofDays _
  obtain ⟨s, hs⟩ : ∃ s, s = (seconds % 86400).toNat := ⟨_, rfl⟩
  simp only [ofCivil, hdays, time, secondsPerDay, ← hs]
  by_cases hleap : 1000 ≤ millis
  · have hlast : s % 60 = 59 := by omega
    simp only [if_pos hleap, hlast, if_true]
    congr 1 <;> omega
  · have hshort : ¬ s % 60 = 60 := by omega
    simp only [if_neg hleap, if_neg hshort]
    congr 1 <;> omega

/-- The year can be written with four digits and without a sign. -/
def HasPlainYear (i : Instant) : Prop := 0 ≤ i.date.year ∧ i.date.year ≤ 9999

instance (i : Instant) : Decidable i.HasPlainYear := by unfold HasPlainYear; infer_instance

theorem HasPlainYear.isValid_date (h : i.HasPlainYear) : i.date.IsValid := by
  obtain ⟨hlow, hhigh⟩ := h
  refine ⟨?_, ?_, i.exists_date⟩
  · simp only [Date.firstYear]
    omega
  · simp only [Date.lastYear]
    omega

/-- The date and the time of day of an instant, somewhat ahead of UTC, are those of an instant. -/
theorem ofParts?_date_time (h : i.IsProper) (hyear : i.HasPlainYear) (offset : Int) :
    ofParts? i.date i.time offset = some { i with seconds := i.seconds - offset } := by
  rw [ofParts?, if_pos ⟨hyear.isValid_date, (exists_time h).valid⟩, ofCivil_date_time h]

theorem ofParts?_utc (h : i.IsProper) (hyear : i.HasPlainYear) :
    ofParts? i.date i.time 0 = some i := by
  rw [ofParts?_date_time h hyear, Int.sub_zero]

/-! ## Reading the texts of an instant -/

theorem text_eq (i : Instant) : i.text = civilText i.date i.time ++ ['Z'] := rfl

/-- The text of an instant is read back as the instant, or not at all. -/
theorem read?_text (h : i.IsProper) :
    read? i.text = if i.HasPlainYear then some i else none := by
  have hblank := (unblank_civilText i.date i.time).append (.cons (show Text.isBlank 'Z' = false by
    decide) .nil)
  have hzone : EndsDigits ['Z'] := endsDigits_cons (by decide) []
  have hread := read?_surrounded .nil hblank .nil
  rw [List.nil_append, List.append_nil] at hread
  rw [text_eq, hread, readLocal?_append i.exists_date (exists_time h) hzone, if_neg (by simp),
    Option.none_or]
  by_cases hyear : i.HasPlainYear
  · rw [readZoned?_append i.exists_date hyear (exists_time h) hzone, if_pos hyear]
    show (ofParts? i.date i.time 0).or _ = _
    rw [ofParts?_utc h hyear, Option.some_or]
  · rw [if_neg hyear, civilText, List.append_assoc, readZoned?_eq_none hyear, Option.none_or,
      readDate?_append i.exists_date, if_neg (by simp)]

/-- The distance from UTC put on an instant. -/
def ahead (i : Instant) (o : Offset) : Instant := { i with seconds := i.seconds + o.seconds }

/-- The instant as date and time, in UTC. -/
def localText (i : Instant) : List Char := civilText i.date i.time

/-- The instant as date and time at a distance from UTC, with that distance. -/
def zonedText (i : Instant) (o : Offset) : List Char := (i.ahead o).localText ++ o.text

section

variable {before after : List Char} (hbefore : Text.Blanks before) (hafter : Text.Blanks after)
include hbefore hafter

theorem read?_localText (h : i.IsProper) (hyear : i.HasPlainYear) :
    read? (before ++ i.localText ++ after) = some i := by
  have hend : EndsDigits [] := by simp [EndsDigits]
  have hzoned := readZoned?_append i.exists_date hyear (exists_time h) hend
  have hlocal := readLocal?_append i.exists_date (exists_time h) hend
  rw [List.append_nil] at hzoned hlocal
  rw [localText, read?_surrounded hbefore (unblank_civilText _ _) hafter, hzoned, hlocal,
    if_pos rfl, ofParts?_utc h hyear]
  rfl

theorem read?_zonedText (h : i.millis < 1000) (o : Offset) (hyear : (i.ahead o).HasPlainYear) :
    read? (before ++ i.zonedText o ++ after) = some i := by
  have hproper : (i.ahead o).IsProper := .inl h
  have hback : (i.ahead o).seconds - o.seconds = i.seconds := Int.add_sub_cancel _ _
  have hzoned : readZoned? (civilText (i.ahead o).date (i.ahead o).time ++ o.text) =
      ofParts? (i.ahead o).date (i.ahead o).time o.seconds := by
    rw [readZoned?_append (exists_date _) hyear (exists_time hproper) o.endsDigits_text,
      o.readOffset_text]
    rfl
  rw [zonedText, localText,
    read?_surrounded hbefore ((unblank_civilText _ _).append o.unblank_text) hafter, hzoned,
    ofParts?_date_time hproper hyear, hback, Option.some_or]
  rfl

theorem read?_dateText (hyear : i.HasPlainYear) (hmidnight : i.seconds % 86400 = 0)
    (hmillis : i.millis = 0) : read? (before ++ dateText i.date ++ after) = some i := by
  have htime : i.time = ⟨0, 0, 0, 0⟩ := by
    simp only [time, secondsPerDay, hmidnight, hmillis]
    rfl
  have hdate := readDate?_append i.exists_date []
  rw [List.append_nil] at hdate
  rw [read?_surrounded hbefore (unblank_dateText _) hafter, readZoned?_dateText i.exists_date,
    readLocal?_dateText i.exists_date, hdate, if_pos rfl, ← htime,
    ofParts?_utc (.inl (by omega)) hyear]
  rfl

end

theorem ofMillis?_eq (h : i.millis < 1000) (hyear : i.HasPlainYear) :
    ofMillis? (i.seconds * 1000 + i.millis) = some i := by
  obtain ⟨seconds, millis⟩ := i
  have hseconds : (seconds * 1000 + (millis : Int)) / 1000 = seconds := by
    simp only at h
    omega
  have hmillis : ((seconds * 1000 + (millis : Int)) % 1000).toNat = millis := by
    simp only at h
    omega
  have hvalid := hyear.isValid_date
  rw [ofMillis?, hseconds, hmillis, checked, if_pos ⟨hvalid.1, hvalid.2.1⟩]

end Instant

end Switchboard
