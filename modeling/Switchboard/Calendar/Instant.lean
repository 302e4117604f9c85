import Switchboard.Calendar.Date
import Switchboard.Number.Literal
import Switchboard.Text.Blank

/-!
# Points in time

An `Instant` is a point in time to the millisecond. It is read from one of three written forms

* a date and a time with the distance from UTC (`Instant.readZoned?`),
* a date and a time without one, taken as UTC (`Instant.readLocal?`),
* a date alone, taken as its midnight in UTC (`Instant.readDate?`),

or made from the milliseconds since 1970-01-01T00:00:00Z, and it is written in the first form, in
UTC.

The first form is strict about the number of digits. The other two take one digit for two, blanks
in front of a number, and a year with a sign and any number of digits.

A minute may have a second number 60; it is kept as the second before it with at least 1000
milliseconds.
-/

namespace Switchboard

/-- A point in time. -/
structure Instant where
  /-- The seconds since 1970-01-01T00:00:00Z. -/
  seconds : Int
  /-- The milliseconds of the second; 1000 and more in a second number 60. -/
  millis : Nat
  deriving DecidableEq, Repr

/-- A time of day; second 60 is allowed. -/
structure TimeOfDay where
  hour : Nat
  minute : Nat
  second : Nat
  millis : Nat
  deriving DecidableEq, Repr

/-- The time exists. -/
def TimeOfDay.IsValid (t : TimeOfDay) : Prop := t.hour ≤ 23 ∧ t.minute ≤ 59 ∧ t.second ≤ 60

instance (t : TimeOfDay) : Decidable t.IsValid := by unfold TimeOfDay.IsValid; infer_instance

namespace Instant

/-- The seconds of a day. -/
def secondsPerDay : Int := 86400

/-- The instant of a date and a time of day in UTC. -/
def ofCivil (d : Date) (t : TimeOfDay) : Instant :=
  let second := if t.second = 60 then 59 else t.second
  { seconds := d.toDays * secondsPerDay + (t.hour * 3600 + t.minute * 60 + second)
    millis := if t.second = 60 then t.millis + 1000 else t.millis }

/-- The date in UTC. -/
def date (i : Instant) : Date := Date.ofDays (i.seconds / secondsPerDay)

/-- The time of day in UTC. -/
def time (i : Instant) : TimeOfDay :=
  let s := (i.seconds % secondsPerDay).toNat
  { hour := s / 3600
    minute := s / 60 % 60
    second := if 1000 ≤ i.millis then s % 60 + 1 else s % 60
    millis := i.millis % 1000 }

/-- The instant, if it is one that can be written. -/
def checked (i : Instant) : Option Instant :=
  if Date.firstYear ≤ i.date.year ∧ i.date.year ≤ Date.lastYear then some i else none

/-- The instant that many milliseconds after 1970-01-01T00:00:00Z. -/
def ofMillis? (millis : Int) : Option Instant := checked ⟨millis / 1000, (millis % 1000).toNat⟩

/-! ## Writing -/

/-- A number with zeros in front up to a width. -/
def padded (width : Nat) (n : Nat) : List Char :=
  let digits := Nat.toDigits 10 n
  List.replicate (width - digits.length) '0' ++ digits

/-- A year: four digits, and a sign in front of the years that need more or are negative. -/
def yearText (year : Int) : List Char :=
  if 0 ≤ year ∧ year ≤ 9999 then padded 4 year.toNat
  else (if year < 0 then '-' else '+') :: padded 4 year.natAbs

/-- A date, as year, month and day. -/
def dateText (d : Date) : List Char :=
  yearText d.year ++ '-' :: padded 2 d.month ++ '-' :: padded 2 d.day

/-- A time of day with milliseconds. -/
def timeText (t : TimeOfDay) : List Char :=
  padded 2 t.hour ++ ':' :: padded 2 t.minute ++ ':' :: padded 2 t.second
    ++ '.' :: padded 3 t.millis

/-- The instant as date and time in UTC. -/
def text (i : Instant) : List Char := dateText i.date ++ 'T' :: timeText i.time ++ ['Z']

/-!
## Reading

Each reader of a part takes it from the start of a text and returns it with the text after it.
-/

/-- The given character. -/
def readChar (c : Char) : List Char → Option (List Char)
  | d :: rest => if d = c then some rest else none
  | [] => none

/-- At most `most` digits; at least one. -/
def readUpTo (most : Nat) (cs : List Char) : Option (Nat × List Char) :=
  let digits := (cs.take most).takeWhile Char.isDigit
  if digits = [] then none else some (digitsValue digits, cs.drop digits.length)

/-- Exactly `count` digits. -/
def readExactly (count : Nat) (cs : List Char) : Option (Nat × List Char) :=
  let digits := (cs.take count).takeWhile Char.isDigit
  if digits.length = count then some (digitsValue digits, cs.drop count) else none

/-- The milliseconds of a fraction of a second; later digits are dropped. -/
def millisOf (digits : List Char) : Nat :=
  digitsValue ((digits ++ ['0', '0', '0']).take 3)

/-- The fraction of a second, where one follows. -/
def readFraction : List Char → Option (Nat × List Char)
  | '.' :: rest =>
    if digitRun rest = [] then none else some (millisOf (digitRun rest), afterDigits rest)
  | cs => some (0, cs)

/-- The distance from UTC in seconds: `Z`, or a sign and hours and minutes of two digits each. -/
def readOffset : List Char → Option (Int × List Char)
  | [] => none
  | c :: rest =>
    if c = 'Z' ∨ c = 'z' then some (0, rest)
    else if c = '+' ∨ c = '-' ∨ c = '−' then do
      let (hours, afterHours) ← readExactly 2 rest
      let afterColon ← readChar ':' afterHours
      let (minutes, after) ← readExactly 2 afterColon
      if hours ≤ 23 ∧ minutes ≤ 59 then
        let seconds : Int := hours * 3600 + minutes * 60
        some (if c = '+' then seconds else -seconds, after)
      else none
    else none

/-- The instant of a date and a time `offset` seconds ahead of UTC, if both exist. -/
def ofParts? (d : Date) (t : TimeOfDay) (offset : Int) : Option Instant :=
  if d.IsValid ∧ t.IsValid then
    let civil := ofCivil d t
    some { civil with seconds := civil.seconds - offset }
  else none

/-- A date and a time with the distance from UTC. -/
def readZoned? (cs : List Char) : Option Instant := do
  let (year, cs) ← readExactly 4 cs
  let cs ← readChar '-' cs
  let (month, cs) ← readExactly 2 cs
  let cs ← readChar '-' cs
  let (day, cs) ← readExactly 2 cs
  let cs ← match cs with
    | c :: rest => if c = 'T' ∨ c = 't' ∨ c = ' ' then some rest else none
    | [] => none
  let (hour, cs) ← readExactly 2 cs
  let cs ← readChar ':' cs
  let (minute, cs) ← readExactly 2 cs
  let cs ← readChar ':' cs
  let (second, cs) ← readExactly 2 cs
  let (millis, cs) ← readFraction cs
  let (offset, cs) ← readOffset cs
  if cs = [] then ofParts? ⟨year, month, day⟩ ⟨hour, minute, second, millis⟩ offset else none

/-- A number of at most two digits after any blanks. -/
def readTwo (cs : List Char) : Option (Nat × List Char) := readUpTo 2 (Text.trimStart cs)

/-- A year after any blanks: at most four digits, or a sign and any number of digits. -/
def readYear (cs : List Char) : Option (Int × List Char) :=
  match Text.trimStart cs with
  | '-' :: rest => (readUpTo rest.length rest).map fun (n, after) => (-(n : Int), after)
  | '+' :: rest => (readUpTo rest.length rest).map fun (n, after) => ((n : Int), after)
  | cs => (readUpTo 4 cs).map fun (n, after) => ((n : Int), after)

/-- The date at the start of a text. -/
def readCivilDate (cs : List Char) : Option (Date × List Char) := do
  let (year, cs) ← readYear cs
  let cs ← readChar '-' cs
  let (month, cs) ← readTwo cs
  let cs ← readChar '-' cs
  let (day, cs) ← readTwo cs
  some (⟨year, month, day⟩, cs)

/-- A date and a time in UTC. -/
def readLocal? (cs : List Char) : Option Instant := do
  let (date, cs) ← readCivilDate cs
  let cs ← readChar 'T' cs
  let (hour, cs) ← readTwo cs
  let cs ← readChar ':' cs
  let (minute, cs) ← readTwo cs
  let cs ← readChar ':' cs
  let (second, cs) ← readTwo cs
  let (millis, cs) ← readFraction cs
  if cs = [] then ofParts? date ⟨hour, minute, second, millis⟩ 0 else none

/-- A date alone. -/
def readDate? (cs : List Char) : Option Instant := do
  let (date, cs) ← readCivilDate cs
  if cs = [] then ofParts? date ⟨0, 0, 0, 0⟩ 0 else none

/-- The instant that a text names in one of the three forms, blanks at its ends aside. -/
def read? (cs : List Char) : Option Instant :=
  let trimmed := Text.trim cs
  readZoned? trimmed <|> readLocal? trimmed <|> readDate? trimmed

end Instant

end Switchboard
