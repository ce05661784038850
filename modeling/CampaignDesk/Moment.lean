import CampaignDesk.Text.Basic

/-!
# Moments

A moment of the calendar, down to the microsecond, and the ways in which it is written.

* `Moment.date`: the day, as it stands in the name of a log file.
* `Moment.stamp`: the moment, as it stands in a structured log line.
* `Moment.clock`: the moment, as it stands in a plain log line.
* `Moment.ofSeconds`: the moment some seconds after the start of 1970.
-/

namespace CampaignDesk

/-- A moment in coordinated universal time. -/
structure Moment where
  year : Nat
  month : Nat
  day : Nat
  hour : Nat
  minute : Nat
  second : Nat
  microsecond : Nat
deriving DecidableEq

namespace Moment

/-- The day; the year is written with as many digits as it has. -/
def date (m : Moment) : Text :=
  Text.ofNat m.year ++ ("-" : Text) ++ Text.padded 2 m.month ++ ("-" : Text) ++ Text.padded 2 m.day

/-- The day with a year of four digits. -/
def fullDate (m : Moment) : Text :=
  Text.padded 4 m.year ++ ("-" : Text) ++ Text.padded 2 m.month ++ ("-" : Text) ++
    Text.padded 2 m.day

/-- The time of the day to the second. -/
def time (m : Moment) : Text :=
  Text.padded 2 m.hour ++ (":" : Text) ++ Text.padded 2 m.minute ++ (":" : Text) ++
    Text.padded 2 m.second

/-- The moment with a `Z` at its end; a fraction of zero is left out. -/
def stamp (m : Moment) : Text :=
  m.fullDate ++ ("T" : Text) ++ m.time ++
    (if m.microsecond = 0 then [] else ("." : Text) ++ Text.padded 6 m.microsecond) ++ ("Z" : Text)

/-- The moment to the millisecond, with a comma before the fraction. -/
def clock (m : Moment) : Text :=
  m.fullDate ++ (" " : Text) ++ m.time ++ ("," : Text) ++ Text.padded 3 (m.microsecond / 1000)

/-- The year, month and day some days after the start of 1970. Years are counted from the first of
March, so that a leap day is the last day of its year. -/
def civilDay (days : Nat) : Nat × Nat × Nat :=
  let z := days + 719468
  let era := z / 146097
  let ofEra := z % 146097
  let yearOfEra := (ofEra - ofEra / 1460 + ofEra / 36524 - ofEra / 146096) / 365
  let ofYear := ofEra - (365 * yearOfEra + yearOfEra / 4 - yearOfEra / 100)
  let shifted := (5 * ofYear + 2) / 153
  let day := ofYear - (153 * shifted + 2) / 5 + 1
  let month := if shifted < 10 then shifted + 3 else shifted - 9
  (yearOfEra + era * 400 + (if month ≤ 2 then 1 else 0), month, day)

/-- The moment some seconds and microseconds after the start of 1970. -/
def ofSeconds (seconds microseconds : Nat) : Moment :=
  let (year, month, day) := civilDay (seconds / 86400)
  let rest := seconds % 86400
  ⟨year, month, day, rest / 3600, rest % 3600 / 60, rest % 60, microseconds⟩

end Moment

end CampaignDesk
